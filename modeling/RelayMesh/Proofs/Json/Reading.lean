import RelayMesh.Json.Shape
import Mathlib.Data.List.Basic

/-!
# Reading what was written

`Value.render` writes a value and `Document.parse` reads a text, and neither
knows of the other.  This file says what comes back.  Every lemma reads one
kind of thing off the beginning of a text and leaves the rest of the text, so
that the lemmas go together like the parts of a text do.

* `readText_escaped` is for quoted texts.  A character is written in one of
  three ways (`escapeChar_cases`), and each of them is read as one part of the
  text that stands for the character (`readPieces_escapeChar`).
* `readNumber_toString` is for whole numbers of 64 bits.  A number needs a rest
  that does not go on with it, `EndsNumber`.
* `Value.ReadsBack` says that a value is read back, with two units of fuel for
  each character, and there is one lemma for each kind of value.
* `Value.Carried` names the values that a text carries, and
  `Value.Carried.readsBack` puts the lemmas together.  `Document.parse_render`
  is the result for whole texts.
-/

namespace RelayMesh.Json

/-! ## Quoted texts -/

/-- The three ways in which a character is written inside a quoted text. -/
theorem escapeChar_cases (c : Char) :
    (∃ letter, letter ≠ 'u' ∧ unescape? letter = some c ∧ escapeChar c = ['\\', letter]) ∨
      (c.toNat < 32 ∧
        escapeChar c = ['\\', 'u', '0', '0', hexDigit (c.toNat / 16), hexDigit c.toNat]) ∨
      (c ≠ '"' ∧ c ≠ '\\' ∧ ¬c.toNat < 32 ∧ escapeChar c = [c]) := by
  unfold escapeChar
  split
  case isTrue h =>
    subst h
    exact .inl ⟨'"', by decide, by decide, rfl⟩
  split
  case isTrue h =>
    subst h
    exact .inl ⟨'\\', by decide, by decide, rfl⟩
  split
  case isTrue h =>
    subst h
    exact .inl ⟨'n', by decide, by decide, rfl⟩
  split
  case isTrue h =>
    subst h
    exact .inl ⟨'r', by decide, by decide, rfl⟩
  split
  case isTrue h =>
    subst h
    exact .inl ⟨'t', by decide, by decide, rfl⟩
  split
  case isTrue h =>
    obtain rfl : Char.ofNat 8 = c := by rw [← h, Char.ofNat_toNat]
    exact .inl ⟨'b', by decide, by decide, rfl⟩
  split
  case isTrue h =>
    obtain rfl : Char.ofNat 12 = c := by rw [← h, Char.ofNat_toNat]
    exact .inl ⟨'f', by decide, by decide, rfl⟩
  split
  case isTrue h => exact .inr (.inl ⟨h, rfl⟩)
  case isFalse hquote hbackslash _ _ _ _ _ hcontrol =>
    exact .inr (.inr ⟨hquote, hbackslash, hcontrol, rfl⟩)

theorem hexValue?_hexDigit (n : Nat) : hexValue? (hexDigit n) = some (n % 16) := by
  have hdigits : ∀ d < 16, hexValue? ((Nat.toDigits 16 d).headD '0') = some d := by decide
  exact hdigits (n % 16) (Nat.mod_lt n (by decide))

/-- A number below the surrogates stands for a character, whatever follows it. -/
theorem assemble_unit {n : Nat} (h : n < 0xD800) (rest : List Piece) :
    assemble (.unit n :: rest) = (assemble rest).map (Char.ofNat n :: ·) := by
  have hlow : ¬0xD800 ≤ n := by omega
  have htrail : ¬0xDC00 ≤ n := by omega
  cases rest with
  | nil => rw [assemble.eq_4 n [] (fun _ _ h => nomatch h), if_neg fun h => hlow h.1]
  | cons piece rest =>
    cases piece with
    | char c =>
      rw [assemble.eq_4 n (.char c :: rest) (fun _ _ h => nomatch h), if_neg fun h => hlow h.1]
    | unit low => rw [assemble.eq_3, if_neg fun h => hlow h.1, if_neg fun h => htrail h.1]

/-- A character that was written is read as one part of the text, which stands for it. -/
theorem readPieces_escapeChar (c : Char) : ∃ piece,
    (∀ text, readPieces (escapeChar c ++ text) =
      (readPieces text).map (fun read => (piece :: read.1, read.2))) ∧
    ∀ pieces, assemble (piece :: pieces) = (assemble pieces).map (c :: ·) := by
  obtain ⟨letter, hu, hletter, hescape⟩ | ⟨hcontrol, hescape⟩ |
    ⟨hquote, hbackslash, hcontrol, hescape⟩ := escapeChar_cases c
  · refine ⟨.char c, fun text => ?_, assemble.eq_2 c⟩
    rw [hescape, List.cons_append, List.singleton_append,
      readPieces.eq_4 _ _ (fun _ _ _ _ _ h => absurd h hu), hletter]
    cases readPieces text <;> rfl
  · refine ⟨.unit c.toNat, fun text => ?_, fun pieces => ?_⟩
    · have hzero : hexValue? '0' = some 0 := by decide
      have hvalue : 0 * 4096 + 0 * 256 + c.toNat / 16 % 16 * 16 + c.toNat % 16 = c.toNat := by
        omega
      have hread := readPieces.eq_3 '0' '0' (hexDigit (c.toNat / 16)) (hexDigit c.toNat) text
      rw [hzero, hexValue?_hexDigit, hexValue?_hexDigit] at hread
      simp only [Option.bind_eq_bind, Option.bind_some, hvalue] at hread
      rw [hescape]
      refine hread.trans ?_
      cases readPieces text <;> rfl
    · rw [assemble_unit (by omega), Char.ofNat_toNat]
  · refine ⟨.char c, fun text => ?_, assemble.eq_2 c⟩
    rw [hescape, List.singleton_append, readPieces.eq_5 _ _ hquote
      (fun _ _ _ _ _ h => absurd h hbackslash) (fun _ _ h => absurd h hbackslash),
      if_neg (not_or.2 ⟨hbackslash, hcontrol⟩)]
    cases readPieces text <;> rfl

/-- A text is read back up to its closing quote, whatever it contains and whatever follows it. -/
theorem readText_escaped (text : String) (rest : List Char) :
    readText (text.toList.flatMap escapeChar ++ '"' :: rest) = some (some text, rest) := by
  have hpieces : ∀ chars : List Char, ∃ pieces,
      readPieces (chars.flatMap escapeChar ++ '"' :: rest) = some (pieces, rest) ∧
        assemble pieces = some chars := by
    intro chars
    induction chars with
    | nil => exact ⟨[], readPieces.eq_2 rest, rfl⟩
    | cons c chars ih =>
      obtain ⟨pieces, hread, hassemble⟩ := ih
      obtain ⟨piece, hpiece, hc⟩ := readPieces_escapeChar c
      refine ⟨piece :: pieces, ?_, ?_⟩
      · rw [List.flatMap_cons, List.append_assoc, hpiece, hread, Option.map_some]
      · rw [hc, hassemble, Option.map_some]
  obtain ⟨pieces, hread, hassemble⟩ := hpieces text.toList
  rw [readText, hread, Option.map_some]
  simp only [hassemble, Option.map_some, String.ofList_toList]

/-! ## Whole numbers -/

/-- What follows a number does not go on with it. -/
def EndsNumber (rest : List Char) : Prop :=
  ∀ c ∈ rest.head?, c.isDigit = false ∧ c ≠ '.' ∧ c ≠ 'e' ∧ c ≠ 'E'

theorem foldl_toDigits (n : Nat) :
    (Nat.toDigits 10 n).foldl (fun n c => n * 10 + digitValue c) 0 = n := by
  have hvalue := Nat.ofDigitChars_ten_toDigits (n := n)
  rw [Nat.ofDigitChars_eq_foldl] at hvalue
  simp only [Nat.mul_comm 10] at hvalue
  exact hvalue

/-- A number of several digits does not begin with a zero. -/
theorem head?_toDigits {n : Nat} (h : n ≠ 0) : (Nat.toDigits 10 n).head? ≠ some '0' := by
  induction n using Nat.strongRecOn with
  | ind n ih =>
    by_cases hlt : n < 10
    · have hdigit : ∀ d < 10, d ≠ 0 → some d.digitChar ≠ some '0' := by decide
      rw [Nat.toDigits_of_lt_base hlt]
      exact hdigit n hlt h
    · rw [Nat.toDigits_of_base_le (by decide) (by omega),
        List.head?_append_of_ne_nil _ Nat.toDigits_ne_nil]
      exact ih (n / 10) (by omega) (by omega)

theorem readExponent_of_endsNumber {rest : List Char} (h : EndsNumber rest) :
    readExponent rest = some (none, rest) := by
  unfold readExponent
  split
  · obtain ⟨-, -, hlower, hupper⟩ := h _ rfl
    exact if_neg (not_or.2 ⟨hlower, hupper⟩)
  · rfl

/-- A number begins with a digit. -/
theorem exists_toDigits (n : Nat) :
    ∃ d digits, Nat.toDigits 10 n = d :: digits ∧ d.isDigit = true := by
  obtain ⟨d, digits, heq⟩ := List.exists_cons_of_ne_nil (Nat.toDigits_ne_nil (n := n) (b := 10))
  refine ⟨d, digits, heq, Nat.isDigit_of_mem_toDigits (n := n) (b := 10) (by decide) (by decide) ?_⟩
  rw [heq]
  exact List.mem_cons_self

/-- The digits of a number are read back, up to what follows them. -/
theorem readNumber_toDigits (negative : Bool) (n : Nat) {rest : List Char} (h : EndsNumber rest) :
    readNumber ((if negative then ['-'] else []) ++ (Nat.toDigits 10 n ++ rest)) =
      some (Number.ofWhole negative (Nat.toDigits 10 n), rest) := by
  have hdigits : ∀ c ∈ Nat.toDigits 10 n, c.isDigit = true :=
    fun c hc => Nat.isDigit_of_mem_toDigits (by decide) (by decide) hc
  have hwhole : (Nat.toDigits 10 n ++ rest).takeWhile Char.isDigit = Nat.toDigits 10 n := by
    rw [List.takeWhile_append_of_pos hdigits]
    cases rest with
    | nil => simp
    | cons c rest => simp [(h c rfl).1]
  have hrest : (Nat.toDigits 10 n ++ rest).dropWhile Char.isDigit = rest := by
    rw [List.dropWhile_append_of_pos hdigits]
    cases rest with
    | nil => rfl
    | cons c rest => simp [(h c rfl).1]
  have hzero : ∀ c tail, Nat.toDigits 10 n ≠ '0' :: c :: tail := by
    intro c tail heq
    by_cases hn : n = 0
    · rw [hn] at heq
      exact absurd heq (by simp)
    · exact head?_toDigits hn (by rw [heq]; rfl)
  have hpoint : ∀ tail, rest ≠ '.' :: tail := by
    rintro tail rfl
    exact (h '.' rfl).2.1 rfl
  obtain ⟨d, digits, heq, hd⟩ := exists_toDigits n
  have hminus : ∀ tail, Nat.toDigits 10 n ++ rest ≠ '-' :: tail := by
    intro tail htail
    rw [heq, List.cons_append] at htail
    rw [(List.cons.inj htail).1] at hd
    exact absurd hd (by decide)
  have hnonempty : (Nat.toDigits 10 n).isEmpty = false := by rw [heq, List.isEmpty_cons]
  have hexponent := readExponent_of_endsNumber h
  -- `hminus`, `hzero` and `hpoint` leave one case of each match
  cases negative with
  | true => simp [readNumber, hwhole, hrest, hnonempty, hexponent]
  | false => simp [readNumber, hwhole, hrest, hnonempty, hexponent]

/-- Whole numbers that fit in 64 bits, with or without sign. -/
def IsWord (n : Int) : Prop :=
  -(Nat.pow 2 63 : Int) ≤ n ∧ n < UInt64.size

theorem toList_toString (n : Int) : (toString n).toList =
    (if decide (n < 0) then ['-'] else []) ++ Nat.toDigits 10 n.natAbs := by
  cases n with
  | ofNat n => exact Nat.toList_repr
  | negSucc n =>
    have hnegative : decide (Int.negSucc n < 0) = true := decide_eq_true (Int.negSucc_lt_zero n)
    rw [hnegative, if_pos rfl]
    refine String.toList_append.trans ?_
    rw [Nat.toList_repr]
    rfl

theorem ofWhole_toDigits {n : Int} (h : IsWord n) :
    Number.ofWhole (decide (n < 0)) (Nat.toDigits 10 n.natAbs) = .int n := by
  obtain ⟨hlow, hhigh⟩ := h
  have hsize : (UInt64.size : Int) = 2 ^ 64 := rfl
  have hpow : (Nat.pow 2 63 : Int) = 2 ^ 63 := rfl
  rw [Number.ofWhole, foldl_toDigits]
  by_cases hnegative : n < 0
  · rw [decide_eq_true hnegative, if_pos rfl, if_pos (by omega)]
    congr 1
    omega
  · rw [decide_eq_false hnegative, if_neg Bool.false_ne_true, if_pos (by omega)]
    congr 1
    omega

/-- A whole number of 64 bits is read back. -/
theorem readNumber_toString {n : Int} (h : IsWord n) {rest : List Char} (hrest : EndsNumber rest) :
    readNumber ((toString n).toList ++ rest) = some (.int n, rest) := by
  rw [toList_toString, List.append_assoc, readNumber_toDigits _ _ hrest, ofWhole_toDigits h]

/-! ## Values -/

/-- Values that a text carries: floating numbers do not occur, whole numbers fit in 64 bits, objects
list their members in the order of the keys, and nothing is nested more than `depth` levels deep. -/
inductive Value.Carried : Nat → Value → Prop where
  | null {depth : Nat} : Carried depth .null
  | bool {depth : Nat} (b : Bool) : Carried depth (.bool b)
  | int {depth : Nat} {n : Int} (h : IsWord n) : Carried depth (.int n)
  | string {depth : Nat} (text : String) : Carried depth (.string text)
  | array {depth : Nat} {items : List Value} (h : ∀ item ∈ items, Carried depth item) :
    Carried (depth + 1) (.array items)
  | object {depth : Nat} {members : List (String × Value)}
    (hsorted : members.Pairwise (fun a b => a.1 < b.1))
    (h : ∀ member ∈ members, Carried depth member.2) :
    Carried (depth + 1) (.object members)

/-- The text of the value is read back, whatever follows it. -/
def Value.ReadsBack (value : Value) : Prop :=
  ∀ fuel rest, 2 * value.render.toList.length < fuel → EndsNumber rest →
    readDocument fuel (value.render.toList ++ rest) = some (value.document, rest)

variable {value : Value} {depth : Nat}

theorem toList_quote (text : String) :
    (quote text).toList = '"' :: (text.toList.flatMap escapeChar ++ ['"']) :=
  String.toList_ofList

theorem toList_array (items : List Value) :
    (Value.array items).render.toList = '[' :: ((renderItems items).toList ++ [']']) := by
  rw [Value.render, String.toList_append, String.toList_append]
  rfl

theorem toList_object (members : List (String × Value)) :
    (Value.object members).render.toList =
      '\x7b' :: ((renderMembers members).toList ++ ['\x7d']) := by
  rw [Value.render, String.toList_append, String.toList_append]
  rfl

/-- The characters that may stand between two tokens. -/
abbrev IsBlank (c : Char) : Prop :=
  c = ' ' ∨ c = '\n' ∨ c = '\r' ∨ c = '\t'

theorem skipBlanks_cons {c : Char} (h : ¬IsBlank c) (rest : List Char) :
    skipBlanks (c :: rest) = c :: rest :=
  List.dropWhile_cons_of_neg (by simpa using h)

/-- A number begins with a sign or a digit. -/
theorem exists_toString (n : Int) :
    ∃ c tail, (toString n).toList = c :: tail ∧ (c = '-' ∨ c.isDigit = true) := by
  rw [toList_toString]
  obtain ⟨d, digits, heq, hd⟩ := exists_toDigits n.natAbs
  by_cases h : n < 0
  · exact ⟨'-', d :: digits, by simp [h, heq], .inl rfl⟩
  · exact ⟨d, digits, by simp [h, heq], .inr hd⟩

theorem not_blank_of_number {c : Char} (h : c = '-' ∨ c.isDigit = true) : ¬IsBlank c := by
  rintro (rfl | rfl | rfl | rfl) <;> exact absurd h (by decide)

/-- The text of a value begins with a character that is no blank and closes nothing.  The digits of
floating numbers are not known, so these are left out. -/
theorem Value.exists_render (h : ∀ x, value ≠ .float x) :
    ∃ c tail, value.render.toList = c :: tail ∧ ¬IsBlank c ∧ c ≠ ']' := by
  cases value with
  | null => exact ⟨'n', _, rfl, by decide, by decide⟩
  | bool b =>
    cases b with
    | true => exact ⟨'t', _, rfl, by decide, by decide⟩
    | false => exact ⟨'f', _, rfl, by decide, by decide⟩
  | int n =>
    obtain ⟨c, tail, heq, hc⟩ := exists_toString n
    refine ⟨c, tail, heq, not_blank_of_number hc, ?_⟩
    rintro rfl
    exact absurd hc (by decide)
  | float x => exact absurd rfl (h x)
  | string text => exact ⟨'"', _, toList_quote text, by decide, by decide⟩
  | array => exact ⟨'[', _, toList_array _, by decide, by decide⟩
  | object => exact ⟨'\x7b', _, toList_object _, by decide, by decide⟩

theorem Value.Carried.ne_float (h : value.Carried depth) (x : Float) : value ≠ .float x := by
  rintro rfl
  cases h

/-! ### Scalars -/

theorem readsBack_null : Value.null.ReadsBack := by
  intro fuel rest hfuel hrest
  obtain ⟨fuel, rfl⟩ := Nat.exists_eq_succ_of_ne_zero (Nat.ne_zero_of_lt hfuel)
  rfl

theorem readsBack_bool (b : Bool) : (Value.bool b).ReadsBack := by
  intro fuel rest hfuel hrest
  obtain ⟨fuel, rfl⟩ := Nat.exists_eq_succ_of_ne_zero (Nat.ne_zero_of_lt hfuel)
  cases b <;> rfl

theorem readsBack_int {n : Int} (h : IsWord n) : (Value.int n).ReadsBack := by
  intro fuel rest hfuel hrest
  obtain ⟨c, tail, heq, hc⟩ := exists_toString n
  have hread := readNumber_toString h hrest
  rw [heq, List.cons_append] at hread
  obtain ⟨fuel, rfl⟩ := Nat.exists_eq_succ_of_ne_zero (Nat.ne_zero_of_lt hfuel)
  rw [Value.render, heq, readDocument, List.cons_append, skipBlanks_cons (not_blank_of_number hc)]
  split
  case h_7 =>
    rw [hread]
    rfl
  -- the text of a number begins like no other value
  all_goals
    rename_i hother
    rw [(List.cons.inj hother).1] at hc
    exact absurd hc (by decide)

theorem readsBack_string (text : String) : (Value.string text).ReadsBack := by
  intro fuel rest hfuel hrest
  obtain ⟨fuel, rfl⟩ := Nat.exists_eq_succ_of_ne_zero (Nat.ne_zero_of_lt hfuel)
  rw [Value.render, toList_quote, readDocument, List.cons_append, skipBlanks_cons (by decide),
    List.append_assoc, List.singleton_append]
  simp only [readText_escaped]
  rfl

/-! ### Arrays -/

theorem endsNumber_cons {c : Char}
    (h : c.isDigit = false ∧ c ≠ '.' ∧ c ≠ 'e' ∧ c ≠ 'E') (rest : List Char) :
    EndsNumber (c :: rest) := by
  rintro _ ⟨⟩
  exact h

theorem toList_renderItems_cons_cons (item next : Value) (items : List Value) :
    (renderItems (item :: next :: items)).toList =
      item.render.toList ++ ',' :: (renderItems (next :: items)).toList := by
  rw [renderItems.eq_3 item (next :: items) nofun, String.toList_append, String.toList_append,
    List.append_assoc]
  rfl

theorem readItems_render {items : List Value} (hne : items ≠ [])
    (h : ∀ item ∈ items, item.ReadsBack) (rest : List Char) (fuel : Nat)
    (hfuel : 2 * (renderItems items).toList.length + 1 < fuel) :
    readItems fuel ((renderItems items).toList ++ ']' :: rest) =
      some (documentsOf items, rest) := by
  induction items generalizing fuel with
  | nil => exact absurd rfl hne
  | cons item items ih =>
    have hitem := h item List.mem_cons_self
    obtain ⟨fuel, rfl⟩ := Nat.exists_eq_succ_of_ne_zero (Nat.ne_zero_of_lt hfuel)
    rw [readItems]
    cases items with
    | nil =>
      rw [renderItems] at hfuel ⊢
      rw [hitem fuel (']' :: rest) (by omega) (endsNumber_cons (by decide) rest)]
      rfl
    | cons next items =>
      rw [toList_renderItems_cons_cons] at hfuel ⊢
      rw [List.length_append, List.length_cons] at hfuel
      have hitems := ih nofun (fun item hmem => h item (List.mem_cons_of_mem _ hmem)) fuel
        (by omega)
      rw [List.append_assoc, List.cons_append,
        hitem fuel _ (by omega) (endsNumber_cons (by decide) _)]
      simp only [Option.bind_eq_bind, Option.bind_some, skipBlanks_cons (c := ',') (by decide)]
      rw [hitems]
      rfl

theorem exists_renderItems {item : Value} (h : ∀ x, item ≠ .float x) (items : List Value) :
    ∃ c tail, (renderItems (item :: items)).toList = c :: tail ∧ ¬IsBlank c ∧ c ≠ ']' := by
  obtain ⟨c, tail, htext, hc⟩ := Value.exists_render h
  cases items with
  | nil => exact ⟨c, tail, htext, hc⟩
  | cons next items =>
    rw [toList_renderItems_cons_cons, htext]
    exact ⟨c, _, rfl, hc⟩

theorem readsBack_array {items : List Value} (hfloat : ∀ item ∈ items, ∀ x, item ≠ .float x)
    (h : ∀ item ∈ items, item.ReadsBack) : (Value.array items).ReadsBack := by
  intro fuel rest hfuel hrest
  rw [toList_array] at hfuel ⊢
  rw [List.length_cons, List.length_append, List.length_singleton] at hfuel
  obtain ⟨fuel, rfl⟩ := Nat.exists_eq_succ_of_ne_zero (Nat.ne_zero_of_lt hfuel)
  rw [readDocument, List.cons_append, skipBlanks_cons (by decide), List.append_assoc,
    List.singleton_append]
  cases items with
  | nil => rfl
  | cons item items =>
    have hitems := readItems_render (List.cons_ne_nil item items) h rest fuel (by omega)
    -- the brackets hold an item, which does not begin with the closing one
    obtain ⟨c, tail, htext, hblank, hbracket⟩ :=
      exists_renderItems (hfloat item List.mem_cons_self) items
    rw [htext, List.cons_append] at hitems ⊢
    simp only [skipBlanks_cons hblank]
    split
    · rename_i heq
      exact absurd (List.cons.inj heq).1 hbracket
    · rw [hitems]
      rfl

/-! ### Objects -/

theorem toList_renderMembers_singleton (key : String) (value : Value) :
    (renderMembers [(key, value)]).toList =
      '"' :: (key.toList.flatMap escapeChar ++ '"' :: ':' :: value.render.toList) := by
  rw [renderMembers.eq_2, String.toList_append, String.toList_append, toList_quote]
  simp

theorem toList_renderMembers_cons_cons (key : String) (value : Value) (next : String × Value)
    (members : List (String × Value)) :
    (renderMembers ((key, value) :: next :: members)).toList =
      '"' :: (key.toList.flatMap escapeChar ++ '"' :: ':' ::
        (value.render.toList ++ ',' :: (renderMembers (next :: members)).toList)) := by
  rw [renderMembers.eq_3 key value (next :: members) nofun, String.toList_append,
    String.toList_append, String.toList_append, String.toList_append, toList_quote]
  simp

theorem exists_renderMembers (member : String × Value) (members : List (String × Value)) :
    ∃ tail, (renderMembers (member :: members)).toList = '"' :: tail := by
  obtain ⟨key, value⟩ := member
  cases members with
  | nil => exact ⟨_, toList_renderMembers_singleton key value⟩
  | cons next members => exact ⟨_, toList_renderMembers_cons_cons key value next members⟩

theorem readMembers_render {members : List (String × Value)} (hne : members ≠ [])
    (h : ∀ member ∈ members, member.2.ReadsBack) (rest : List Char) (fuel : Nat)
    (hfuel : 2 * (renderMembers members).toList.length + 1 < fuel) :
    readMembers fuel ((renderMembers members).toList ++ '\x7d' :: rest) =
      some (documentMembersOf members, rest) := by
  induction members generalizing fuel with
  | nil => exact absurd rfl hne
  | cons member members ih =>
    obtain ⟨key, value⟩ := member
    have hvalue : value.ReadsBack := h (key, value) List.mem_cons_self
    obtain ⟨fuel, rfl⟩ := Nat.exists_eq_succ_of_ne_zero (Nat.ne_zero_of_lt hfuel)
    rw [readMembers]
    cases members with
    | nil =>
      rw [toList_renderMembers_singleton] at hfuel ⊢
      simp only [List.length_cons, List.length_append] at hfuel
      simp only [List.cons_append, List.append_assoc]
      rw [skipBlanks_cons (by decide)]
      simp only [readText_escaped, Option.bind_eq_bind, Option.bind_some,
        skipBlanks_cons (c := ':') (by decide)]
      rw [hvalue fuel ('\x7d' :: rest) (by omega) (endsNumber_cons (by decide) rest)]
      rfl
    | cons next members =>
      rw [toList_renderMembers_cons_cons] at hfuel ⊢
      simp only [List.length_cons, List.length_append] at hfuel
      have hmembers := ih nofun (fun member hmem => h member (List.mem_cons_of_mem _ hmem)) fuel
        (by omega)
      simp only [List.cons_append, List.append_assoc]
      rw [skipBlanks_cons (by decide)]
      simp only [readText_escaped, Option.bind_eq_bind, Option.bind_some,
        skipBlanks_cons (c := ':') (by decide)]
      rw [hvalue fuel _ (by omega) (endsNumber_cons (by decide) _)]
      simp only [Option.bind_some, skipBlanks_cons (c := ',') (by decide)]
      rw [hmembers]
      rfl

/-- An object is read back whatever the order of its members. -/
theorem readsBack_object {members : List (String × Value)}
    (h : ∀ member ∈ members, member.2.ReadsBack) : (Value.object members).ReadsBack := by
  intro fuel rest hfuel hrest
  rw [toList_object] at hfuel ⊢
  rw [List.length_cons, List.length_append, List.length_singleton] at hfuel
  obtain ⟨fuel, rfl⟩ := Nat.exists_eq_succ_of_ne_zero (Nat.ne_zero_of_lt hfuel)
  rw [readDocument, List.cons_append, skipBlanks_cons (by decide), List.append_assoc,
    List.singleton_append]
  cases members with
  | nil => rfl
  | cons member members =>
    have hmembers := readMembers_render (List.cons_ne_nil member members) h rest fuel (by omega)
    obtain ⟨tail, htext⟩ := exists_renderMembers member members
    rw [htext, List.cons_append] at hmembers ⊢
    simp only [skipBlanks_cons (c := '"') (by decide)]
    split
    · rename_i heq
      exact absurd (List.cons.inj heq).1 (by decide)
    · rw [hmembers]
      rfl

/-! ### Texts -/

/-- The text of a value that texts carry is read back. -/
theorem Value.Carried.readsBack (h : value.Carried depth) : value.ReadsBack := by
  induction h with
  | null => exact readsBack_null
  | bool b => exact readsBack_bool b
  | int hword => exact readsBack_int hword
  | string text => exact readsBack_string text
  | array hcarried ih => exact readsBack_array (fun item hmem => (hcarried item hmem).ne_float) ih
  | object _ _ ih => exact readsBack_object ih

/-- The text of such a value is a whole document, which says the value. -/
theorem Document.parse_render (h : value.ReadsBack) :
    Document.parse value.render = some value.document := by
  have hread := h (2 * value.render.length + 2) []
    (by rw [String.length_toList]; omega) (fun _ hc => nomatch hc)
  rw [List.append_nil] at hread
  rw [Document.parse, hread]
  rfl

end RelayMesh.Json
