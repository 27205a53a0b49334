import Mathlib.Data.List.DropRight
import RelayMesh.Link.Basic
import RelayMesh.Proofs.Json.Shape

/-!
# Remote descriptions are resolved before they are handed over

A payload with the description of the other side goes a long way before the
live connection sees it: it is an envelope or bare text, its kind is named or
follows from the signaling state, and the media engine has to be able to read
the text.  The end of this way is stated here without the readers that find it.

* `IsEnvelope` says which documents are envelopes, and `Says` what a payload
  says.  `read_eq_ok_iff` is the lemma about the reader.
* `DescriptionKind.Fits` says which kind a description has, and
  `resolveLive_eq_ok_iff` puts the parts together.
* `setRemoteWith` is `setRemote` with the handing over as an action of its own,
  of which nothing is known.  So it can be counted how often it is called, and
  `remote_resolved_first` is the result: once with what the payload was resolved
  to, or not at all, and then the link stays as it is.
-/

namespace RelayMesh

/-! ## Blank texts -/

/-- A text that consists of blanks. -/
def Text.Blank (text : String) : Prop :=
  ∀ c ∈ text.toList, Text.isBlank c = true

theorem Text.trim_eq_nil_iff {text : List Char} :
    Text.trim text = [] ↔ ∀ c ∈ text, Text.isBlank c = true := by
  rw [trim, List.reverse_eq_nil_iff, trimStart, List.dropWhile_eq_nil_iff]
  simp only [List.mem_reverse]
  constructor
  · intro h
    -- what is left of the text starts with a character that is no blank, so nothing is left
    have hrest : trimStart text = [] := by
      rw [trimStart, ← List.dropWhile_idempotent, List.dropWhile_eq_nil_iff]
      exact h
    exact List.dropWhile_eq_nil_iff.1 hrest
  · intro h c hc
    exact h c ((List.dropWhile_sublist _).subset hc)

namespace RemotePayload

variable {payload text sdp : String} {given : Option String} {document : Json.Document}

theorem isEmpty_trimmed : (trimmed text).isEmpty = true ↔ Text.Blank text := by
  rw [trimmed, String.isEmpty_iff, String.ofList_eq_empty_iff]
  exact Text.trim_eq_nil_iff

/-! ## Envelopes -/

/-- Which name of a kind an envelope has if some document stands in its place. -/
inductive Names : Option Json.Document → Option String → Prop where
  | missing : Names none none
  | null : Names (some .null) none
  | string (name : String) : Names (some (.string (some name))) (some name)

/-- A document is an envelope with the name of a kind, if it has one, and a text.  An object may
have other members; an array has the name and the text in this order. -/
inductive IsEnvelope : Json.Document → Option String → String → Prop where
  | object {members : List (Option String × Json.Document)} {found : Option Json.Document}
    {given : Option String} {sdp : String} (hkeys : ∀ member ∈ members, member.1 ≠ none)
    (htype : Json.Under "type" members found) (hnames : Names found given)
    (hsdp : Json.Under "sdp" members (some (.string (some sdp)))) :
    IsEnvelope (.object members) given sdp
  | array {found : Json.Document} {given : Option String} (hnames : Names (some found) given)
    (sdp : String) : IsEnvelope (.array [found, .string (some sdp)]) given sdp

/-- What a payload says, without the blanks around it: the name of a kind, if it has one, and a
text.  A payload that is no envelope is the text. -/
inductive Says (payload : String) : Option String → String → Prop where
  | envelope {document : Json.Document} {given : Option String} {sdp : String}
    (hparse : Json.Document.parse (trimmed payload) = some document)
    (h : IsEnvelope document given sdp) : Says payload given sdp
  | bare (h : ∀ document, Json.Document.parse (trimmed payload) = some document →
      ∀ given sdp, ¬IsEnvelope document given sdp) : Says payload none (trimmed payload)

theorem name_iff {found : Option Json.Document} :
    Json.withDefault none (Json.Shape.optional Json.Shape.text) found = some given ↔
      Names found given := by
  constructor
  · intro h
    obtain _ | _ | _ | _ | (_ | name) | _ | _ := found <;>
      simp [Json.withDefault, Json.Shape.optional, Json.Shape.text] at h
    · subst h
      exact .missing
    · subst h
      exact .null
    · subst h
      exact .string name
  · rintro ⟨⟩ <;> rfl

theorem sdp_iff {found : Option Json.Document} :
    Json.required Json.Shape.text found = some sdp ↔ found = some (.string (some sdp)) := by
  obtain _ | _ | _ | _ | (_ | _) | _ | _ := found <;> simp [Json.required, Json.Shape.text]

theorem isEnvelope_iff :
    IsEnvelope document given sdp ↔
      ∃ found, Names found given ∧
        document.fields? ["type", "sdp"] = some [found, some (.string (some sdp))] := by
  constructor
  · rintro (⟨hkeys, htype, hnames, hsdp⟩ | ⟨hnames, sdp⟩)
    · exact ⟨_, hnames, Json.fields?_members.2 ⟨hkeys, htype, hsdp⟩⟩
    · exact ⟨_, hnames, rfl⟩
  · rintro ⟨found, hnames, hfields⟩
    cases document with
    | object members =>
      obtain ⟨hkeys, htype, hsdp⟩ := Json.fields?_members.1 hfields
      exact .object hkeys htype hnames hsdp
    | array items =>
      obtain ⟨hlength, hfirst, hsecond⟩ := Json.fields?_items.1 hfields
      obtain _ | ⟨a, _ | ⟨b, _ | _⟩⟩ := items
      · exact nomatch hsecond
      · exact nomatch hsecond
      · obtain rfl := Option.some.inj hsecond
        obtain rfl := hfirst
        exact .array hnames sdp
      · simp at hlength
    | null | bool | number | string => exact nomatch hfields

/-- The reader of envelopes finds what an envelope has, and takes an empty name for none. -/
theorem envelope_eq_some_iff {remote : RemotePayload} :
    envelope document = some remote ↔
      ∃ given, IsEnvelope document given remote.sdp ∧
        given.filter (fun name => !name.isEmpty) = remote.kind := by
  simp only [isEnvelope_iff]
  constructor
  · intro h
    obtain ⟨fields, hfields, h⟩ := Option.bind_eq_some_iff.1 h
    split at h
    case h_1 found place =>
      obtain ⟨given, hgiven, h⟩ := Option.bind_eq_some_iff.1 h
      obtain ⟨sdp, hsdp, h⟩ := Option.bind_eq_some_iff.1 h
      obtain rfl := Option.some.inj h
      exact ⟨given, ⟨found, name_iff.1 hgiven, by rw [hfields, sdp_iff.1 hsdp]⟩, rfl⟩
    case h_2 => exact nomatch h
  · obtain ⟨kind, sdp⟩ := remote
    rintro ⟨given, ⟨found, hnames, hfields⟩, rfl⟩
    rw [envelope, hfields]
    simp [name_iff.2 hnames, sdp_iff.2]

/-- The name of a kind that counts: an empty one is none. -/
theorem filter_eq_none_iff : given.filter (fun name => !name.isEmpty) = none ↔
    given = none ∨ given = some "" := by
  cases given <;> simp [Option.filter_some]

/-- What is read of a payload before anyone looks whether its text is blank. -/
theorem getD_envelope_eq_iff {remote : RemotePayload} :
    (envelope.parse (trimmed payload)).getD ⟨none, trimmed payload⟩ = remote ↔
      ∃ given, Says payload given remote.sdp ∧
        given.filter (fun name => !name.isEmpty) = remote.kind := by
  obtain ⟨kind, sdp⟩ := remote
  cases hread : envelope.parse (trimmed payload) with
  | some found =>
    obtain ⟨document, hparse, hfound⟩ := Option.bind_eq_some_iff.1 hread
    rw [Option.getD_some]
    constructor
    · rintro rfl
      obtain ⟨given, hgiven, hkind⟩ := envelope_eq_some_iff.1 hfound
      exact ⟨given, .envelope hparse hgiven, hkind⟩
    · rintro ⟨given, ⟨hother, h⟩ | ⟨hbare⟩, hkind⟩
      · rw [hparse, Option.some.injEq] at hother
        subst hother
        exact Option.some.inj (hfound.symm.trans (envelope_eq_some_iff.2 ⟨given, h, hkind⟩))
      · obtain ⟨given, hgiven, -⟩ := envelope_eq_some_iff.1 hfound
        exact absurd hgiven (hbare document hparse given _)
  | none =>
    have hnone : ∀ document, Json.Document.parse (trimmed payload) = some document →
        ∀ given sdp, ¬IsEnvelope document given sdp := by
      intro document hparse given sdp hgiven
      have hfound : envelope document = some ⟨given.filter fun name => !name.isEmpty, sdp⟩ :=
        envelope_eq_some_iff.2 ⟨given, hgiven, rfl⟩
      rw [Json.Shape.parse, hparse, Option.bind_some, hfound] at hread
      exact nomatch hread
    rw [Option.getD_none]
    constructor
    · rintro ⟨⟩
      exact ⟨none, .bare hnone, rfl⟩
    · rintro ⟨given, ⟨hparse, h⟩ | -, hkind⟩
      · exact absurd h (hnone _ hparse given sdp)
      · exact congrArg (fun kind => RemotePayload.mk kind (trimmed payload)) hkind

/-- The reader finds what a payload says, unless the text is blank. -/
theorem read_eq_ok_iff {remote : RemotePayload} :
    read payload = .ok remote ↔
      ¬Text.Blank remote.sdp ∧ ∃ given, Says payload given remote.sdp ∧
        given.filter (fun name => !name.isEmpty) = remote.kind := by
  rw [← getD_envelope_eq_iff]
  generalize hread : (envelope.parse (trimmed payload)).getD ⟨none, trimmed payload⟩ = found
  -- nothing is left of a blank payload, and that is no document, so it is its own text
  have hblank : Text.Blank payload → Text.Blank found.sdp := by
    intro h
    have hparse : Json.Document.parse "" = none := rfl
    rw [String.isEmpty_iff.1 (isEmpty_trimmed.2 h), Json.Shape.parse, hparse, Option.bind_none,
      Option.getD_none] at hread
    rw [← hread]
    exact nofun
  have hstep : read payload = if (trimmed payload).isEmpty then empty
      else if (trimmed found.sdp).isEmpty then empty else .ok found := hread ▸ rfl
  rw [hstep]
  constructor
  · intro h
    split at h
    case isTrue => exact nomatch h
    case isFalse =>
      split at h
      case isTrue => exact nomatch h
      case isFalse hsdp =>
        cases h
        exact ⟨mt isEmpty_trimmed.2 hsdp, rfl⟩
  · rintro ⟨hsdp, rfl⟩
    rw [if_neg (mt isEmpty_trimmed.1 (mt hblank hsdp)), if_neg (mt isEmpty_trimmed.1 hsdp)]

end RemotePayload

namespace DescriptionKind

variable {name : String} {given : Option String} {signaling : SignalingState}
  {kind : DescriptionKind}

/-- Which kind a description has for which a name is given, or none, in a signaling state.  The case
of the letters does not matter, and an empty name is none. -/
inductive Fits : Option String → SignalingState → DescriptionKind → Prop where
  | named {name : String} {kind : DescriptionKind} (hname : name ≠ "")
    (h : name.toLower = kind.name) (signaling : SignalingState) : Fits (some name) signaling kind
  | offering {given : Option String} (h : given = none ∨ given = some "") :
    Fits given .stable .offer
  | answering {given : Option String} (h : given = none ∨ given = some "") :
    Fits given .haveLocalOffer .answer

theorem ofName_eq_ok_iff : ofName name = .ok kind ↔ name.toLower = kind.name := by
  constructor
  · intro h
    rw [ofName] at h
    split at h
    case h_4 => exact nomatch h
    all_goals
      cases h
      assumption
  · intro h
    rw [ofName, h]
    cases kind <;> rfl

theorem infer_eq_ok_iff (h : given = none ∨ given = some "") :
    infer signaling = .ok kind ↔ Fits given signaling kind := by
  constructor
  · intro hinfer
    cases signaling with
    | stable =>
      cases hinfer
      exact .offering h
    | haveLocalOffer =>
      cases hinfer
      exact .answering h
    | _ => exact nomatch hinfer
  · rintro (⟨hname, -, -⟩ | _ | _)
    · exact absurd h (by simpa using hname)
    · rfl
    · rfl

theorem fits_some_iff (hname : name ≠ "") :
    Fits (some name) signaling kind ↔ name.toLower = kind.name := by
  constructor
  · rintro (⟨-, h, -⟩ | h | h)
    · exact h
    · exact absurd h (by simpa using hname)
    · exact absurd h (by simpa using hname)
  · exact fun h => .named hname h signaling

end DescriptionKind

namespace Link

variable {engine : MediaEngine} {link : Link} {payload text : String} {connection : Connection}
  {kind : DescriptionKind}

/-! ## Resolving a payload -/

/-- The description that a payload stands for on a link: its kind, its text, and the connection that
it is for. -/
structure Resolves (engine : MediaEngine) (link : Link) (payload : String)
    (connection : Connection) (kind : DescriptionKind) (text : String) : Prop where
  /-- The connection was created and not closed. -/
  live : link.connection = some connection
  /-- The payload says the text and a kind. -/
  said : ∃ given, RemotePayload.Says payload given text ∧ DescriptionKind.Fits given connection.signaling kind
  notBlank : ¬Text.Blank text
  /-- The text can be read as a description. -/
  readable : engine.reads text = true

/-- The kind of a description, named or inferred. -/
def kindOf (link : Link) (name : Option String) : Except RelayError DescriptionKind :=
  match name with
  | some name => DescriptionKind.ofName name
  | none => link.signaling.bind DescriptionKind.infer

theorem kindOf_eq_ok_iff (h : link.connection = some connection) (given : Option String) :
    link.kindOf (given.filter (fun name => !name.isEmpty)) = .ok kind ↔
      DescriptionKind.Fits given connection.signaling kind := by
  have hsignaling : link.signaling = .ok connection.signaling := by rw [signaling, live, h]; rfl
  by_cases hempty : given = none ∨ given = some ""
  · rw [RemotePayload.filter_eq_none_iff.2 hempty, kindOf, hsignaling]
    exact DescriptionKind.infer_eq_ok_iff hempty
  · obtain _ | name := given
    · exact absurd (.inl rfl) hempty
    · have hname : name ≠ "" := fun h => hempty (.inr (congrArg some h))
      rw [Option.filter_some, if_pos (by simpa using hname), kindOf,
        DescriptionKind.ofName_eq_ok_iff, DescriptionKind.fits_some_iff hname]

theorem resolve_eq (engine : MediaEngine) (link : Link) (payload : String) :
    link.resolve engine payload = (RemotePayload.read payload).bind fun remote =>
      (link.kindOf remote.kind).bind fun kind =>
        if engine.reads remote.sdp then .ok (kind, remote.sdp)
        else .error (.invalidDescription "the text is no session description") := by
  rw [resolve]
  refine congrArg (fun next => (RemotePayload.read payload).bind next) (funext fun remote => ?_)
  obtain ⟨_ | name, sdp⟩ := remote <;> rfl

theorem resolve_eq_ok_iff (h : link.connection = some connection) :
    link.resolve engine payload = .ok (kind, text) ↔
      Resolves engine link payload connection kind text := by
  rw [resolve_eq]
  constructor
  · intro hresolve
    cases hread : RemotePayload.read payload with
    | error e =>
      rw [hread] at hresolve
      exact nomatch hresolve
    | ok remote =>
      obtain ⟨hblank, given, hsays, hgiven⟩ := RemotePayload.read_eq_ok_iff.1 hread
      rw [hread, Except.bind, ← hgiven] at hresolve
      cases hkind : link.kindOf (given.filter fun name => !name.isEmpty) with
      | error e =>
        rw [hkind] at hresolve
        exact nomatch hresolve
      | ok found =>
        rw [hkind, Except.bind] at hresolve
        split at hresolve
        case isTrue hreads =>
          cases hresolve
          exact ⟨h, ⟨given, hsays, (kindOf_eq_ok_iff h given).1 hkind⟩, hblank, hreads⟩
        case isFalse => exact nomatch hresolve
  · rintro ⟨-, ⟨given, hsays, hfits⟩, hblank, hreads⟩
    have hread : RemotePayload.read payload = .ok ⟨given.filter fun name => !name.isEmpty, text⟩ :=
      RemotePayload.read_eq_ok_iff.2 ⟨hblank, given, hsays, rfl⟩
    rw [hread, Except.bind, (kindOf_eq_ok_iff h given).2 hfits, Except.bind, if_pos hreads]

theorem resolveLive_eq_ok_iff :
    link.resolveLive engine payload = .ok (kind, text, connection) ↔
      Resolves engine link payload connection kind text := by
  constructor
  · intro h
    rw [resolveLive] at h
    cases hresolve : link.resolve engine payload with
    | error e =>
      rw [hresolve] at h
      exact nomatch h
    | ok said =>
      rw [hresolve, live] at h
      cases hlive : link.connection with
      | none =>
        rw [hlive] at h
        exact nomatch h
      | some connection =>
        rw [hlive] at h
        cases h
        exact (resolve_eq_ok_iff hlive).1 hresolve
  · intro h
    rw [resolveLive, (resolve_eq_ok_iff h.live).2 h, live, h.live]
    rfl

/-! ## Handing a description over -/

/-- Sets the description of the other side as `setRemote` does, with some action that hands it to
the live connection and reports what became of it. -/
def setRemoteWith {m : Type → Type} [Monad m] (engine : MediaEngine)
    (handOver : Connection → DescriptionKind → String → m (Except RelayError Unit × Connection))
    (link : Link) (payload : String) : m (Except RelayError DescriptionKind × Link) :=
  match link.resolveLive engine payload with
  | .error e => pure (.error e, link)
  | .ok (kind, text, connection) => do
    let (outcome, after) ← handOver connection kind text
    pure (outcome.map (fun _ => kind), { link with connection := some after })

theorem setRemote_eq (engine : MediaEngine) (link : Link) (payload : String) :
    link.setRemote engine payload = Id.run (setRemoteWith engine
      (fun connection kind text => pure (connection.setRemote engine kind text)) link payload) := by
  rw [setRemote, setRemoteWith]
  cases link.resolveLive engine payload <;> rfl

/-! ## The result -/

/-- A remote description is resolved before it is handed over.  If the payload resolves to a
description, it is handed to the live connection once, whatever that does, and nothing else happens
to the link.  Otherwise setting it fails, nothing is handed over and the link stays as it is. -/
theorem remote_resolved_first (engine : MediaEngine) (link : Link) (payload : String) :
    (∀ connection kind text, Resolves engine link payload connection kind text →
      ∀ (m : Type → Type) [Monad m]
        (handOver : Connection → DescriptionKind → String →
          m (Except RelayError Unit × Connection)),
        setRemoteWith engine handOver link payload = do
          let (outcome, after) ← handOver connection kind text
          pure (outcome.map (fun _ => kind), { link with connection := some after })) ∧
    ((¬∃ connection kind text, Resolves engine link payload connection kind text) →
      ∃ e, ∀ (m : Type → Type) [Monad m]
        (handOver : Connection → DescriptionKind → String →
          m (Except RelayError Unit × Connection)),
        setRemoteWith engine handOver link payload = pure (.error e, link)) ∧
    link.setRemote engine payload = Id.run (setRemoteWith engine
      (fun connection kind text => pure (connection.setRemote engine kind text)) link payload) := by
  refine ⟨fun connection kind text hresolves m _ handOver => ?_, fun hunresolved => ?_,
    setRemote_eq engine link payload⟩
  · rw [setRemoteWith, resolveLive_eq_ok_iff.2 hresolves]
  · cases hresolve : link.resolveLive engine payload with
    | error e => exact ⟨e, fun m _ handOver => by rw [setRemoteWith, hresolve]⟩
    | ok said =>
      obtain ⟨kind, text, connection⟩ := said
      exact absurd ⟨connection, kind, text, resolveLive_eq_ok_iff.1 hresolve⟩ hunresolved

/-- An engine that can read every text. -/
def wellRead : MediaEngine :=
  { MediaEngine.onHost Host.isolated with reads := fun _ => true }

/-- A link whose connection waits for an answer. -/
def offering : Link :=
  { Link.new {} with connection := some { signaling := .haveLocalOffer } }

/-- Notes what is handed over. -/
def note (connection : Connection) (kind : DescriptionKind) (text : String) :
    StateM (List (DescriptionKind × String)) (Except RelayError Unit × Connection) :=
  modifyGet fun noted => (connection.setRemote wellRead kind text, noted ++ [(kind, text)])

/-- While an answer is waited for, an envelope is handed over with the kind that it names and a bare
text as an answer.  An envelope with a blank text is not handed over at all. -/
theorem remote_resolved_first_offering :
    ((setRemoteWith wellRead note offering "[\"PrAnswer\",\"v=0\"]").run []).2 =
      [(.pranswer, "v=0")] ∧
    ((setRemoteWith wellRead note offering " v=0\n").run []).2 = [(.answer, "v=0")] ∧
    ∃ e, (setRemoteWith wellRead note offering "[null,\" \"]").run [] =
      ((.error e, offering), []) := by
  have hblank : ¬Text.Blank "v=0" := fun h => absurd (h 'v' (by decide)) (by decide)
  refine ⟨?_, ?_, ?_⟩
  · have htrim : RemotePayload.trimmed "[\"PrAnswer\",\"v=0\"]" = "[\"PrAnswer\",\"v=0\"]" := by
      decide +kernel
    have hparse : Json.Document.parse "[\"PrAnswer\",\"v=0\"]" =
        some (.array [.string (some "PrAnswer"), .string (some "v=0")]) := by cbv
    have hresolves : Resolves wellRead offering "[\"PrAnswer\",\"v=0\"]"
        { signaling := .haveLocalOffer } .pranswer "v=0" :=
      ⟨rfl, ⟨some "PrAnswer", .envelope (htrim.symm ▸ hparse) (.array (.string _) _),
        .named (by decide) (by decide +kernel) _⟩, hblank, rfl⟩
    rw [(remote_resolved_first _ _ _).1 _ _ _ hresolves]
    rfl
  · have htrim : RemotePayload.trimmed " v=0\n" = "v=0" := by decide +kernel
    have hparse : Json.Document.parse "v=0" = none := rfl
    have hsays : RemotePayload.Says " v=0\n" none "v=0" := by
      rw [← htrim]
      refine .bare fun document h => ?_
      rw [htrim, hparse] at h
      cases h
    rw [(remote_resolved_first _ _ _).1 { signaling := .haveLocalOffer } .answer "v=0"
      ⟨rfl, ⟨none, hsays, .answering (.inl rfl)⟩, hblank, rfl⟩]
    rfl
  · have htrim : RemotePayload.trimmed "[null,\" \"]" = "[null,\" \"]" := by decide +kernel
    have hparse : Json.Document.parse "[null,\" \"]" =
        some (.array [.null, .string (some " ")]) := by cbv
    have hunresolved : ¬∃ connection kind text,
        Resolves wellRead offering "[null,\" \"]" connection kind text := by
      rintro ⟨connection, kind, text, hresolves⟩
      obtain ⟨given, hsays, -⟩ := hresolves.said
      cases hsays with
      | envelope hother h =>
        rw [htrim, hparse, Option.some.injEq] at hother
        subst hother
        cases h
        refine hresolves.notBlank fun c hc => ?_
        obtain rfl : c = ' ' := List.mem_singleton.1 hc
        rfl
      | bare h => exact h _ (htrim.symm ▸ hparse) none " " (.array .null _)
    obtain ⟨e, he⟩ := (remote_resolved_first wellRead offering _).2.1 hunresolved
    exact ⟨e, by rw [he]; rfl⟩

end Link

end RelayMesh
