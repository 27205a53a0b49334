import Mathlib.Data.List.Basic
import Mathlib.Data.List.TakeWhile
import RelayMesh.Codec.Preference

/-!
# What decides about the preferred codec

A description names its preferred codec in the first audio section that names
a format at all.  `Preference.Decides` cuts the lines of a text around that
section, and `Preference.mapping?` picks the lines of the section that map
exactly its format.

* `inLines_of_decides` and `inLines_of_undecided` say that nothing outside the
  section matters.
* `inSection_filter` says that of its lines only the mappings of the format do,
  and `inSection_of_findSome?` that of these the first one does.
* `preferredAudioCodec_follows_first_mapping` is the result for all texts.
-/

namespace RelayMesh

/-! ## Parts and words -/

theorem Text.not_mem_of_mem_splitOn {separator : Char} {text part : List Char}
    (h : part ∈ splitOn separator text) : separator ∉ part := by
  induction text generalizing part with
  | nil =>
    rw [splitOn, List.mem_singleton] at h
    exact h ▸ List.not_mem_nil
  | cons c rest ih =>
    rw [splitOn] at h
    split at h
    · obtain rfl | h := List.mem_cons.1 h
      · exact List.not_mem_nil
      · exact ih h
    · next hne =>
      split at h
      · rw [List.mem_singleton] at h
        exact h ▸ mt List.mem_singleton.1 (Ne.symm hne)
      · next first parts heq =>
        obtain rfl | h := List.mem_cons.1 h
        · exact List.not_mem_cons_of_ne_of_not_mem (Ne.symm hne)
            (ih (heq ▸ List.mem_cons_self))
        · exact ih (heq ▸ List.mem_cons_of_mem _ h)

theorem Text.not_mem_of_mem_words {text word : List Char} (h : word ∈ words text) :
    ' ' ∉ word :=
  not_mem_of_mem_splitOn (List.mem_filter.1 h).1

namespace Preference

variable {format line : List Char} {lines body : List (List Char)}

/-! ## Sections -/

/-- Whether a line opens a media section. -/
def opens (line : List Char) : Bool :=
  "m=".toList.isPrefixOf line

/-- A line that opens an audio section and names a format as its fourth field. -/
def OpensAudio (line format : List Char) : Prop :=
  ∃ media port protocol others, line = "m=".toList ++ media ∧
    Text.words media = "audio".toList :: port :: protocol :: format :: others

/-- Some lines whose first audio section that names a format names this one and goes on with these
lines, up to the opening of the next section or to the end. -/
inductive Decides (format : List Char) (body : List (List Char)) : List (List Char) → Prop where
  | intro {before after : List (List Char)} {opening : List Char}
      (hbefore : ∀ line ∈ before, ∀ other, ¬OpensAudio line other)
      (hopening : OpensAudio opening format) (hbody : ∀ line ∈ body, opens line = false)
      (hafter : ∀ line ∈ after.head?, opens line = true) :
      Decides format body (before ++ opening :: (body ++ after))

/-- A line that opens no such section may stand before the others. -/
theorem Decides.cons (hline : ∀ other, ¬OpensAudio line other) (h : Decides format body lines) :
    Decides format body (line :: lines) := by
  obtain ⟨hbefore, hopening, hbody, hafter⟩ := h
  have hdecides := Decides.intro (List.forall_mem_cons.2 ⟨hline, hbefore⟩) hopening hbody hafter
  rwa [List.cons_append] at hdecides

theorem OpensAudio.not_mem (h : OpensAudio line format) : ' ' ∉ format := by
  obtain ⟨media, port, protocol, others, -, hwords⟩ := h
  have hmem : format ∈ Text.words media := by simp [hwords]
  exact Text.not_mem_of_mem_words hmem

theorem audioFormat_eq_some_some_iff {media : List Char} :
    audioFormat media = some (some format) ↔ ∃ port protocol others,
      Text.words media = "audio".toList :: port :: protocol :: format :: others := by
  rw [audioFormat]
  constructor
  · intro h
    split at h
    · next kind rest hwords =>
      split at h
      · next hkind =>
        obtain ⟨hlt, hformat⟩ := List.getElem?_eq_some_iff.1 (Option.some.inj h)
        match rest, hlt, hformat with
        | port :: protocol :: _ :: others, _, rfl =>
          exact ⟨port, protocol, others, hkind ▸ hwords⟩
      · exact nomatch h
    · exact nomatch h
  · rintro ⟨port, protocol, others, hwords⟩
    rw [hwords]
    exact if_pos rfl

theorem opening_iff :
    ("m=".toList.isPrefixOf? line).bind audioFormat = some (some format) ↔
      OpensAudio line format := by
  simp only [Option.bind_eq_some_iff, List.isPrefixOf?_eq_some_iff_append_eq,
    audioFormat_eq_some_some_iff, OpensAudio, exists_and_left, eq_comm (a := line)]

theorem inLines_of_opensAudio (h : OpensAudio line format) :
    inLines (line :: lines) = inSection format lines := by
  rw [inLines, opening_iff.2 h]

theorem inLines_of_not_opensAudio (h : ∀ other, ¬OpensAudio line other) :
    inLines (line :: lines) = inLines lines := by
  rw [inLines]
  split
  · next other heq => exact absurd (opening_iff.1 heq) (h other)
  · rfl

theorem inLines_append {before : List (List Char)}
    (h : ∀ line ∈ before, ∀ other, ¬OpensAudio line other) :
    inLines (before ++ lines) = inLines lines := by
  induction before with
  | nil => rfl
  | cons line before ih =>
    obtain ⟨hline, hbefore⟩ := List.forall_mem_cons.1 h
    rw [List.cons_append, inLines_of_not_opensAudio hline, ih hbefore]

/-- A section ends where the next one opens. -/
theorem inSection_append {after : List (List Char)} (hbody : ∀ line ∈ body, opens line = false)
    (hafter : ∀ line ∈ after.head?, opens line = true) :
    inSection format (body ++ after) = inSection format body := by
  induction body with
  | nil =>
    cases after with
    | nil => rfl
    | cons line after =>
      have hopens : "m=".toList.isPrefixOf line = true := hafter line rfl
      rw [List.nil_append, inSection, inSection, if_pos hopens]
  | cons line body ih =>
    obtain ⟨-, hrest⟩ := List.forall_mem_cons.1 hbody
    rw [List.cons_append, inSection, inSection, ih hrest]

theorem inLines_of_decides (h : Decides format body lines) :
    inLines lines = inSection format body := by
  obtain ⟨hbefore, hopening, hbody, hafter⟩ := h
  rw [inLines_append hbefore, inLines_of_opensAudio hopening, inSection_append hbody hafter]

theorem Decides.opens_eq_false (h : Decides format body lines) :
    ∀ line ∈ body, opens line = false := by
  obtain ⟨-, -, hbody, -⟩ := h
  exact hbody

theorem Decides.not_mem (h : Decides format body lines) : ' ' ∉ format := by
  obtain ⟨-, hopening, -, -⟩ := h
  exact hopening.not_mem

/-- The lines of a text have a deciding section, or none of them opens one. -/
theorem exists_decides_or (lines : List (List Char)) :
    (∃ format body, Decides format body lines) ∨
      ∀ line ∈ lines, ∀ format, ¬OpensAudio line format := by
  induction lines with
  | nil => exact .inr nofun
  | cons line rest ih =>
    by_cases hopening : ∃ format, OpensAudio line format
    · obtain ⟨format, hformat⟩ := hopening
      refine .inl ⟨format, rest.takeWhile (fun line => !opens line), ?_⟩
      have hafter : ∀ line ∈ (rest.dropWhile fun line => !opens line).head?, opens line = true := by
        intro line hline
        have hstops := List.head?_dropWhile_not (fun line => !opens line) rest
        rw [Option.mem_def.1 hline] at hstops
        simpa using hstops
      have hbody : ∀ line ∈ rest.takeWhile (fun line => !opens line), opens line = false := by
        intro line hline
        simpa using List.mem_takeWhile_imp hline
      have hdecides := @Decides.intro format _ [] _ line nofun hformat hbody hafter
      rwa [List.takeWhile_append_dropWhile, List.nil_append] at hdecides
    · have hline := not_exists.1 hopening
      obtain ⟨format, body, hdecides⟩ | hnone := ih
      · exact .inl ⟨format, body, hdecides.cons hline⟩
      · exact .inr (List.forall_mem_cons.2 ⟨hline, hnone⟩)

theorem inLines_of_undecided (h : ¬∃ format body, Decides format body lines) :
    inLines lines = notFound := by
  have hnone := (exists_decides_or lines).resolve_left h
  have hlines : inLines (lines ++ []) = inLines [] := inLines_append hnone
  rwa [List.append_nil] at hlines

/-! ## Mappings -/

/-- What stands behind a format in a text that begins with exactly this format: the text after a
blank space, or `none` if the text ends there. -/
def behind? (format text : List Char) : Option (Option (List Char)) :=
  match format.isPrefixOf? text with
  | some [] => some none
  | some (' ' :: encoding) => some (some encoding)
  | _ => none

/-- What a line maps a format to, if it maps exactly this format. -/
def mapping? (format line : List Char) : Option (Option (List Char)) :=
  ("a=rtpmap:".toList.isPrefixOf? line).bind (behind? format)

/-- Whether a line maps exactly a format. -/
def maps (format line : List Char) : Bool :=
  (mapping? format line).isSome

/-- The answer of a line that maps a format. -/
def answer (format line : List Char) : Except RelayError CodecConfig :=
  readMapping (line.drop "a=rtpmap:".toList.length) (mapping? format line).join

theorem cutAtSpace_of_not_mem {text : List Char} (h : ' ' ∉ text) :
    cutAtSpace text = (text, none) := by
  have hdrop : text.dropWhile (· ≠ ' ') = [] := by
    rw [List.dropWhile_eq_nil_iff]
    intro c hc
    exact decide_eq_true fun heq => h (heq ▸ hc)
  rw [cutAtSpace, hdrop]

theorem cutAtSpace_append {first : List Char} (h : ' ' ∉ first) (rest : List Char) :
    cutAtSpace (first ++ ' ' :: rest) = (first, some rest) := by
  have hfirst : ∀ c ∈ first, decide (c ≠ ' ') = true := fun c hc =>
    decide_eq_true fun heq => h (heq ▸ hc)
  rw [cutAtSpace, List.dropWhile_append_of_pos hfirst, List.takeWhile_append_of_pos hfirst]
  simp

/-- To begin with exactly a format is to have it before the first blank space. -/
theorem behind?_eq (hformat : ' ' ∉ format) (text : List Char) :
    behind? format text =
      if (cutAtSpace text).1 = format then some (cutAtSpace text).2 else none := by
  split
  · next hfirst =>
    rw [behind?]
    by_cases hspace : ' ' ∈ text
    · obtain ⟨first, rest, rfl, hnot⟩ := List.eq_append_cons_of_mem hspace
      rw [cutAtSpace_append hnot] at hfirst ⊢
      obtain rfl : first = format := hfirst
      rw [List.isPrefixOf?_eq_some_iff_append_eq.2 rfl]
      rfl
    · rw [cutAtSpace_of_not_mem hspace] at hfirst ⊢
      obtain rfl : text = format := hfirst
      rw [List.isPrefixOf?_eq_some_iff_append_eq.2 (List.append_nil _)]
  · next hother =>
    rw [behind?]
    split
    · next heq =>
      -- nothing stands behind the format
      obtain rfl := List.isPrefixOf?_eq_some_iff_append_eq.1 heq
      rw [List.append_nil, cutAtSpace_of_not_mem hformat] at hother
      exact absurd rfl hother
    · next encoding heq =>
      obtain rfl := List.isPrefixOf?_eq_some_iff_append_eq.1 heq
      rw [cutAtSpace_append hformat] at hother
      exact absurd rfl hother
    · rfl

/-- A line that maps another format does not map this one, even if the other begins with it. -/
theorem maps_eq_false_of_ne (hformat : ' ' ∉ format) {other : List Char} (hother : ' ' ∉ other)
    (hne : other ≠ format) (encoding : List Char) :
    maps format ("a=rtpmap:".toList ++ (other ++ ' ' :: encoding)) = false := by
  have hline : "a=rtpmap:".toList.isPrefixOf? ("a=rtpmap:".toList ++ (other ++ ' ' :: encoding)) =
      some (other ++ ' ' :: encoding) :=
    List.isPrefixOf?_eq_some_iff_append_eq.2 rfl
  rw [maps, mapping?, hline, Option.bind_some, behind?_eq hformat, cutAtSpace_append hother,
    if_neg hne]
  rfl

theorem inSection_cons (hformat : ' ' ∉ format) (hline : opens line = false) :
    inSection format (line :: lines) =
      if maps format line then answer format line else inSection format lines := by
  have hopens : ¬"m=".toList.isPrefixOf line = true := Bool.eq_false_iff.1 hline
  rw [inSection, if_neg hopens, maps, answer, mapping?]
  cases hmapping : "a=rtpmap:".toList.isPrefixOf? line with
  | none => rfl
  | some text =>
    obtain rfl := List.isPrefixOf?_eq_some_iff_append_eq.1 hmapping
    rw [Option.bind_some, behind?_eq hformat, List.drop_left]
    by_cases hfirst : (cutAtSpace text).1 = format
    · simp [hfirst]
    · simp [hfirst]

/-- In a section the first line that maps its format decides. -/
theorem inSection_eq (hformat : ' ' ∉ format) (hbody : ∀ line ∈ body, opens line = false) :
    inSection format body = (body.find? (maps format)).elim notFound (answer format) := by
  induction body with
  | nil => rfl
  | cons line body ih =>
    obtain ⟨hline, hrest⟩ := List.forall_mem_cons.1 hbody
    rw [inSection_cons hformat hline, ih hrest]
    cases hmaps : maps format line with
    | true => rw [if_pos rfl, List.find?_cons_of_pos hmaps, Option.elim_some]
    | false => rw [if_neg Bool.false_ne_true, List.find?_cons_of_neg (by simp [hmaps])]

theorem inLines_eq (h : Decides format body lines) :
    inLines lines = (body.find? (maps format)).elim notFound (answer format) :=
  (inLines_of_decides h).trans (inSection_eq h.not_mem h.opens_eq_false)

/-! ## Answers -/

theorem readMapping_eq_ok_iff {mapping encoding : List Char} {config : CodecConfig} :
    readMapping mapping (some encoding) = .ok config ↔ ∃ name digits others rate,
      Text.splitOn '/' encoding = name :: digits :: others ∧
      Text.readNatural UInt32.size digits = some rate ∧
      config = ⟨String.ofList (name.map Char.toLower), rate, 1, 8, 20⟩ := by
  rw [readMapping]
  constructor
  · intro h
    split at h
    · next rate hrate =>
      obtain ⟨digits, hdigits, hnatural⟩ := Option.bind_eq_some_iff.1 hrate
      obtain ⟨hlt, hsecond⟩ := List.getElem?_eq_some_iff.1 hdigits
      match hparts : Text.splitOn '/' encoding, hlt, hsecond with
      | name :: _ :: others, _, rfl =>
        rw [hparts] at h
        exact ⟨name, digits, others, rate, rfl, hnatural, (Except.ok.inj h).symm⟩
    · exact nomatch h
  · rintro ⟨name, digits, others, rate, hparts, hrate, rfl⟩
    simp [hparts, hrate]

theorem answer_eq_ok_iff {config : CodecConfig} :
    answer format line = .ok config ↔ ∃ encoding name digits others rate,
      mapping? format line = some (some encoding) ∧
      Text.splitOn '/' encoding = name :: digits :: others ∧
      Text.readNatural UInt32.size digits = some rate ∧
      config = ⟨String.ofList (name.map Char.toLower), rate, 1, 8, 20⟩ := by
  rw [answer]
  match mapping? format line with
  | none | some none => simp [readMapping]
  | some (some encoding) =>
    rw [Option.join_some, readMapping_eq_ok_iff]
    simp

theorem exists_codec_of_readMapping {mapping : List Char} {encoding : Option (List Char)}
    {e : RelayError} (h : readMapping mapping encoding = .error e) :
    ∃ detail, e = .codec detail := by
  cases encoding with
  | none => exact ⟨_, (Except.error.inj h).symm⟩
  | some encoding =>
    rw [readMapping] at h
    split at h
    · exact nomatch h
    · exact ⟨_, (Except.error.inj h).symm⟩

theorem exists_codec_of_inLines {e : RelayError} (h : inLines lines = .error e) :
    ∃ detail, e = .codec detail := by
  by_cases hdecides : ∃ format body, Decides format body lines
  · obtain ⟨format, body, hdecides⟩ := hdecides
    rw [inLines_eq hdecides] at h
    cases hfirst : body.find? (maps format) with
    | none => exact ⟨_, (Except.error.inj (hfirst ▸ h)).symm⟩
    | some line => exact exists_codec_of_readMapping (hfirst ▸ h)
  · rw [inLines_of_undecided hdecides] at h
    exact ⟨_, (Except.error.inj h).symm⟩

end Preference

/-- The preferred codec of a text.  All failures are failures of the codec.  It fails if no audio
section of the text names a format, and if the first one that does has no line that maps exactly
this format; else the first such line decides, which has to give a clock rate of 32 bits.  So two
texts prefer the same codec, or fail in the same way, if that line is the same in their deciding
sections, whatever else there is before, in and after these sections: lines that map another
format, even one that begins with this format, do not count. -/
theorem preferredAudioCodec_follows_first_mapping (description : String) :
    (∀ e, preferredAudioCodec description = .error e → ∃ detail, e = .codec detail) ∧
      ((¬∃ format body, Preference.Decides format body (Text.trimmedLines description.toList)) →
        ∃ e, preferredAudioCodec description = .error e) ∧
      ∀ format body, Preference.Decides format body (Text.trimmedLines description.toList) →
        (∀ other, ' ' ∉ other → other ≠ format → ∀ encoding, Preference.maps format
          ("a=rtpmap:".toList ++ (other ++ ' ' :: encoding)) = false) ∧
        (body.find? (Preference.maps format) = none →
          ∃ e, preferredAudioCodec description = .error e) ∧
        (∀ line, body.find? (Preference.maps format) = some line →
          ∀ config, preferredAudioCodec description = .ok config ↔
            ∃ encoding name digits others rate,
              Preference.mapping? format line = some (some encoding) ∧
              Text.splitOn '/' encoding = name :: digits :: others ∧
              Text.readNatural UInt32.size digits = some rate ∧
              config = ⟨String.ofList (name.map Char.toLower), rate, 1, 8, 20⟩) ∧
        ∀ (other : String) (body' : List (List Char)),
          Preference.Decides format body' (Text.trimmedLines other.toList) →
          body.find? (Preference.maps format) = body'.find? (Preference.maps format) →
          preferredAudioCodec description = preferredAudioCodec other := by
  refine ⟨fun e he => Preference.exists_codec_of_inLines he, fun hnone => ?_,
    fun format body hdecides =>
      ⟨fun other => Preference.maps_eq_false_of_ne hdecides.not_mem,
        fun hfirst => ?_, fun line hfirst config => ?_, ?_⟩⟩
  · exact ⟨_, Preference.inLines_of_undecided hnone⟩
  · have hlines := Preference.inLines_eq hdecides
    rw [hfirst] at hlines
    exact ⟨_, hlines⟩
  · have hlines := Preference.inLines_eq hdecides
    rw [hfirst] at hlines
    rw [← Preference.answer_eq_ok_iff]
    exact iff_of_eq (congrArg (fun result => result = Except.ok config) hlines)
  · intro other body' hother hsame
    have hlines := Preference.inLines_eq hdecides
    rw [hsame] at hlines
    exact hlines.trans (Preference.inLines_eq hother).symm

/-- A description with an audio section that names no format, with a mapping of a format that only
begins like the first one, and with a section for video behind. -/
def crowded : String :=
  "m=audio 9 P\r\na=rtpmap:8 G/1\r\nm=audio 9 P 8\r\na=rtpmap:80 G/1\r\na=rtpmap:8 A/8\r\nm=video"

/-- A description with nothing but what counts. -/
def sparse : String := "m=audio 1 Q 8\na=rtpmap:8 A/8"

theorem decides_crowded :
    Preference.Decides "8".toList ["a=rtpmap:80 G/1".toList, "a=rtpmap:8 A/8".toList]
      (Text.trimmedLines crowded.toList) := by
  have hlines : Text.trimmedLines crowded.toList =
      ["m=audio 9 P".toList, "a=rtpmap:8 G/1".toList] ++ "m=audio 9 P 8".toList ::
        (["a=rtpmap:80 G/1".toList, "a=rtpmap:8 A/8".toList] ++ ["m=video".toList]) := by decide
  rw [hlines]
  refine .intro ?_ (Preference.opening_iff.1 (by decide)) (by decide) (by decide)
  have hbefore : ∀ line ∈ ["m=audio 9 P".toList, "a=rtpmap:8 G/1".toList],
      (("m=".toList.isPrefixOf? line).bind Preference.audioFormat).join = none := by decide
  intro line hline other hother
  exact nomatch (Preference.opening_iff.2 hother ▸ hbefore line hline :)

theorem decides_sparse :
    Preference.Decides "8".toList ["a=rtpmap:8 A/8".toList]
      (Text.trimmedLines sparse.toList) := by
  have hlines : Text.trimmedLines sparse.toList =
      [] ++ "m=audio 1 Q 8".toList :: (["a=rtpmap:8 A/8".toList] ++ []) := by decide
  rw [hlines]
  exact .intro nofun (Preference.opening_iff.1 (by decide)) (by decide) nofun

theorem preferredAudioCodec_follows_first_mapping_crowded :
    Preference.Decides "8".toList ["a=rtpmap:80 G/1".toList, "a=rtpmap:8 A/8".toList]
        (Text.trimmedLines crowded.toList) ∧
      Preference.Decides "8".toList ["a=rtpmap:8 A/8".toList]
        (Text.trimmedLines sparse.toList) ∧
      preferredAudioCodec crowded = preferredAudioCodec sparse ∧
      preferredAudioCodec crowded = .ok ⟨"a", 8, 1, 8, 20⟩ := by
  obtain ⟨-, -, hdecided⟩ := preferredAudioCodec_follows_first_mapping crowded
  obtain ⟨-, -, hanswer, hsame⟩ := hdecided _ _ decides_crowded
  refine ⟨decides_crowded, decides_sparse, hsame sparse _ decides_sparse (by decide), ?_⟩
  refine (hanswer "a=rtpmap:8 A/8".toList (by decide) _).2 ?_
  exact ⟨"A/8".toList, "A".toList, "8".toList, [], 8, by decide⟩

end RelayMesh
