import RelayMesh.Proofs.Wire
import RelayMesh.Wire.Link

/-!
# Stored data survive being written again

Formats, servers, options, streams, assignments and descriptions are read from
texts in many forms, and all of them are written in one.

* `WrittenAs` says for each type what may be written for a datum: an object
  with all of its fields, in the order of `toJson` or in any other.
* `Recovers` says that a shape finds a datum again in the text of a value.
  There is one lemma for each kind of shape, and one for each type.
* A datum that was read is within the bounds of its type
  (`CodecConfig.bounded_of_shape`, `LinkOptions.timed_of_shape`), and that is
  all that writing it asks for.
* `LinkOptions.Completes` says what the defaults do to options.
* `recoding_keeps` is the result, for all texts.
-/

namespace RelayMesh

namespace Json

variable {α : Type} {shape : Shape α} {value : Value} {fields : List (String × Value)} {a : α}

/-! ## Objects in any order -/

/-- A value is an object with some members, in any order. -/
structure Value.IsRecord (fields : List (String × Value)) (value : Value) : Prop where
  nodup : (fields.map Prod.fst).Nodup
  perm : ∃ members : List (String × Value), members.Perm fields ∧ value = .object members

theorem isRecord_record (hnodup : (fields.map Prod.fst).Nodup) :
    (Value.record fields).IsRecord fields :=
  ⟨hnodup, _, Table.entries_ofList_perm hnodup, rfl⟩

/-- The fields of such an object are its members. -/
theorem Value.IsRecord.fields? (h : value.IsRecord fields) :
    value.document.fields? (fields.map Prod.fst) =
      some (fields.map fun field => some field.2.document) := by
  obtain ⟨hnodup, members, hperm, rfl⟩ := h
  have hmembers : (members.map Prod.fst).Nodup := (hperm.map Prod.fst).nodup_iff.2 hnodup
  rw [fields?_object hmembers, List.map_map]
  -- a field is among the members, and no other member has its name
  refine congrArg some (List.map_congr_left fun field hmem => ?_)
  rw [Function.comp_apply, lookup_of_mem hmembers (hperm.mem_iff.2 hmem)]
  rfl

/-! ## Data that are found again -/

/-- A shape finds a datum in the text of a value. -/
structure Recovers (shape : Shape α) (value : Value) (a : α) : Prop where
  readsBack : value.ReadsBack
  notFloat : ∀ x, value ≠ .float x
  read : shape value.document = some a

theorem Recovers.parse_render (h : Recovers shape value a) : shape.parse value.render = some a := by
  rw [Shape.parse, Document.parse_render h.readsBack]
  exact h.read

theorem Recovers.required (h : Recovers shape value a) :
    Json.required shape (some value.document) = some a := h.read

theorem Recovers.withDefault (h : Recovers shape value a) (default : α) :
    Json.withDefault default shape (some value.document) = some a := h.read

theorem recovers_text (text : String) : Recovers Shape.text (.string text) text :=
  ⟨readsBack_string text, nofun, rfl⟩

theorem recovers_natural {bound n : Nat} (hbound : bound ≤ UInt64.size) (h : n < bound) :
    Recovers (Shape.natural bound) (.int n) n := by
  have hword : IsWord n :=
    ⟨Int.le_trans (by decide) (Int.natCast_nonneg n), Int.ofNat_lt.2 (Nat.lt_of_lt_of_le h hbound)⟩
  refine ⟨readsBack_int hword, nofun, ?_⟩
  rw [Value.document, Shape.natural, if_pos ⟨Int.natCast_nonneg n, Int.ofNat_lt.2 h⟩]
  rfl

theorem Recovers.map {β : Type} (f : α → β) (h : Recovers shape value a) :
    Recovers (Shape.map f shape) value (f a) :=
  ⟨h.readsBack, h.notFloat, by rw [Shape.map, h.read, Option.map_some]⟩

/-- A number that is read is within its bound. -/
theorem lt_of_natural {bound n : Nat} {document : Document}
    (h : Shape.natural bound document = some n) : n < bound := by
  rw [Shape.natural.eq_def] at h
  split at h
  · rw [Option.ite_none_right_eq_some, Option.some.injEq] at h
    omega
  · exact nomatch h

theorem lt_of_required {bound n : Nat} {field : Option Document}
    (h : Json.required (Shape.natural bound) field = some n) : n < bound := by
  obtain ⟨document, -, hread⟩ := Option.bind_eq_some_iff.1 h
  exact lt_of_natural hread

theorem recovers_list {list : List α} {items : List Value}
    (h : List.Forall₂ (fun a item => Recovers shape item a) list items) :
    Recovers (Shape.list shape) (.array items) list := by
  have hitems : (∀ item ∈ items, item.ReadsBack ∧ ∀ x, item ≠ .float x) ∧
      (items.map Value.document).mapM shape = some list := by
    induction h with
    | nil => exact ⟨List.forall_mem_nil _, rfl⟩
    | cons hitem _ ih =>
      refine ⟨List.forall_mem_cons.2 ⟨⟨hitem.readsBack, hitem.notFloat⟩, ih.1⟩, ?_⟩
      rw [List.map_cons, List.mapM_cons, hitem.read, ih.2]
      rfl
  obtain ⟨hall, hread⟩ := hitems
  refine ⟨readsBack_array (fun item hmem => (hall item hmem).2) fun item hmem => (hall item hmem).1,
    nofun, ?_⟩
  rw [Value.document, documentsOf_eq_map]
  exact hread

theorem recovers_texts (texts : List String) :
    Recovers (Shape.list Shape.text) (.array (texts.map .string)) texts := by
  refine recovers_list (List.forall₂_map_right_iff.2 (List.forall₂_same.2 fun text _ => ?_))
  exact recovers_text text

/-- An object is found again in any order of its members. -/
theorem Value.IsRecord.recovers {read : List (Option Document) → Option α}
    (h : value.IsRecord fields) (hfields : ∀ field ∈ fields, field.2.ReadsBack)
    (hread : read (fields.map fun field => some field.2.document) = some a) :
    Recovers (fun document => (document.fields? (fields.map Prod.fst)).bind read) value a := by
  have hfound := h.fields?
  obtain ⟨-, members, hperm, rfl⟩ := h
  refine ⟨readsBack_object fun member hmem => hfields member (hperm.mem_iff.1 hmem), nofun, ?_⟩
  rw [hfound]
  exact hread

end Json

open Json

variable {value : Value}

/-! ## Streams and assignments -/

theorem MediaKind.recovers (media : MediaKind) : Recovers shape media.toJson media :=
  ⟨readsBack_string _, nofun, shape_toJson media⟩

theorem Role.recovers (role : Role) : Recovers shape role.toJson role :=
  ⟨readsBack_string _, nofun, shape_toJson role⟩

namespace StreamInfo

/-- A value may be written for a stream. -/
def WrittenAs (info : StreamInfo) (value : Value) : Prop :=
  value.IsRecord [("stream_id", .string info.stream), ("source_node_id", .string info.source),
    ("media_type", info.media.toJson)]

theorem writtenAs_toJson (info : StreamInfo) : info.WrittenAs info.toJson :=
  isRecord_record (by simp)

theorem WrittenAs.recovers {info : StreamInfo} (h : info.WrittenAs value) :
    Recovers shape value info := by
  have hstream := recovers_text info.stream
  have hsource := recovers_text info.source
  have hmedia := info.media.recovers
  refine Value.IsRecord.recovers h ?_ ?_
  · simp [hstream.readsBack, hsource.readsBack, hmedia.readsBack]
  · simp [hstream.required, hsource.required, hmedia.required]

end StreamInfo

namespace Assignment

/-- A value may be written for an assignment. -/
def WrittenAs (assignment : Assignment) (value : Value) : Prop :=
  ∃ streams, List.Forall₂ StreamInfo.WrittenAs assignment.streams streams ∧
    value.IsRecord [("role", assignment.role.toJson), ("streams", .array streams)]

theorem writtenAs_toJson (assignment : Assignment) : assignment.WrittenAs assignment.toJson := by
  refine ⟨_, List.forall₂_map_right_iff.2 (List.forall₂_same.2 fun info _ => ?_),
    isRecord_record (by simp)⟩
  exact info.writtenAs_toJson

theorem WrittenAs.recovers {assignment : Assignment} (h : assignment.WrittenAs value) :
    Recovers shape value assignment := by
  obtain ⟨streams, hwritten, hrecord⟩ := h
  have hrole := assignment.role.recovers
  have hstreams := recovers_list (hwritten.imp fun _ _ => StreamInfo.WrittenAs.recovers)
  refine Value.IsRecord.recovers hrecord ?_ ?_
  · simp [hrole.readsBack, hstreams.readsBack]
  · simp [hrole.required, hstreams.required]

end Assignment

/-! ## Descriptions -/

namespace LocalDescription

/-- A value may be written for a description. -/
def WrittenAs (description : LocalDescription) (value : Value) : Prop :=
  value.IsRecord [("sdp", .string description.sdp),
    ("candidates", .array (description.candidates.map .string))]

theorem writtenAs_toJson (description : LocalDescription) :
    description.WrittenAs description.toJson :=
  isRecord_record (by simp)

theorem WrittenAs.recovers {description : LocalDescription} (h : description.WrittenAs value) :
    Recovers shape value description := by
  have hsdp := recovers_text description.sdp
  have hcandidates := recovers_texts description.candidates
  refine Value.IsRecord.recovers h ?_ ?_
  · simp [hsdp.readsBack, hcandidates.readsBack]
  · simp [hsdp.required, hcandidates.required]

end LocalDescription

/-! ## Formats -/

namespace CodecConfig

/-- A value may be written for a format. -/
def WrittenAs (config : CodecConfig) (value : Value) : Prop :=
  value.IsRecord [("codec", .string config.codec), ("sample_rate", .int config.sampleRate),
    ("channels", .int config.channels), ("bit_depth", .int config.bitDepth),
    ("frame_duration", .int config.frameMillis)]

theorem writtenAs_toJson (config : CodecConfig) : config.WrittenAs config.toJson :=
  isRecord_record (by simp)

/-- The numbers of a format are within the bounds of their types. -/
structure Bounded (config : CodecConfig) : Prop where
  sampleRate : config.sampleRate < UInt32.size
  channels : config.channels < UInt16.size
  bitDepth : config.bitDepth < UInt16.size
  frameMillis : config.frameMillis < UInt64.size

theorem bounded_of_shape {document : Document} {config : CodecConfig}
    (h : shape document = some config) : config.Bounded := by
  obtain ⟨fields, -, h⟩ := Option.bind_eq_some_iff.1 h
  split at h
  case h_1 codec sampleRate channels bitDepth frameMillis =>
    simp only [Option.bind_eq_bind, Option.bind_eq_some_iff, Option.pure_def,
      Option.some.injEq] at h
    obtain ⟨_, -, rate, hrate, channels, hchannels, depth, hdepth, frame, hframe, rfl⟩ := h
    exact ⟨lt_of_required hrate, lt_of_required hchannels, lt_of_required hdepth,
      lt_of_required hframe⟩
  case h_2 => cases h

theorem WrittenAs.recovers {config : CodecConfig} (h : config.WrittenAs value)
    (hbounded : config.Bounded) : Recovers shape value config := by
  have hcodec := recovers_text config.codec
  have hrate := recovers_natural (by decide) hbounded.sampleRate
  have hchannels := recovers_natural (by decide) hbounded.channels
  have hdepth := recovers_natural (by decide) hbounded.bitDepth
  have hframe := recovers_natural (Nat.le_refl _) hbounded.frameMillis
  refine Value.IsRecord.recovers h ?_ ?_
  · simp [hcodec.readsBack, hrate.readsBack, hchannels.readsBack, hdepth.readsBack,
      hframe.readsBack]
  · simp [hcodec.required, hrate.required, hchannels.required, hdepth.required, hframe.required]

end CodecConfig

/-! ## Servers and options -/

theorem Span.recovers {millis : Nat} (h : millis < UInt64.size) :
    Recovers shape (ofMillis millis).toJson (ofMillis millis) := by
  have hmillis : (ofMillis millis).millis % UInt64.size = millis := by
    rw [Span.millis, ofMillis, Nat.mul_div_cancel _ (by decide), Nat.mod_eq_of_lt h]
  rw [toJson, hmillis]
  exact (recovers_natural (Nat.le_refl _) h).map ofMillis

namespace IceServer

/-- A value may be written for a server. -/
def WrittenAs (server : IceServer) (value : Value) : Prop :=
  value.IsRecord [("urls", .array (server.urls.map .string)), ("username", .string server.username),
    ("credential", .string server.credential)]

theorem writtenAs_toJson (server : IceServer) : server.WrittenAs server.toJson :=
  isRecord_record (by simp)

theorem WrittenAs.recovers {server : IceServer} (h : server.WrittenAs value) :
    Recovers shape value server := by
  have hurls := recovers_texts server.urls
  have husername := recovers_text server.username
  have hcredential := recovers_text server.credential
  refine Value.IsRecord.recovers h ?_ ?_
  · simp [hurls.readsBack, husername.readsBack, hcredential.readsBack]
  · simp [hurls.required, husername.withDefault, hcredential.withDefault]

end IceServer

namespace LinkOptions

/-- A value may be written for options. -/
def WrittenAs (options : LinkOptions) (value : Value) : Prop :=
  ∃ servers, List.Forall₂ IceServer.WrittenAs options.iceServers servers ∧
    value.IsRecord [("iceServers", .array servers), ("streamId", .string options.streamId),
      ("iceTimeout", options.iceTimeout.toJson), ("codec", .string options.codec)]

theorem writtenAs_toJson (options : LinkOptions) : options.WrittenAs options.toJson := by
  refine ⟨_, List.forall₂_map_right_iff.2 (List.forall₂_same.2 fun server _ => ?_),
    isRecord_record (by simp)⟩
  exact server.writtenAs_toJson

/-- The time to wait is a number of whole milliseconds that 64 bits hold. -/
def Timed (options : LinkOptions) : Prop :=
  ∃ millis < UInt64.size, options.iceTimeout = Span.ofMillis millis

theorem timed_of_shape {document : Document} {options : LinkOptions}
    (h : shape document = some options) : options.Timed := by
  obtain ⟨fields, -, h⟩ := Option.bind_eq_some_iff.1 h
  split at h
  case h_1 iceServers streamId iceTimeout codec =>
    simp only [Option.bind_eq_bind, Option.bind_eq_some_iff, Option.pure_def,
      Option.some.injEq] at h
    obtain ⟨_, -, _, -, timeout, htimeout, _, -, rfl⟩ := h
    cases iceTimeout with
    | none =>
      obtain rfl := Option.some.inj htimeout
      exact ⟨0, by decide, rfl⟩
    | some document =>
      obtain ⟨millis, hmillis, rfl⟩ := Option.map_eq_some_iff.1 htimeout
      exact ⟨millis, lt_of_natural hmillis, rfl⟩
  case h_2 => cases h

theorem WrittenAs.recovers {options : LinkOptions} (h : options.WrittenAs value)
    (htimed : options.Timed) : Recovers shape value options := by
  obtain ⟨servers, hwritten, hrecord⟩ := h
  obtain ⟨millis, hmillis, hspan⟩ := htimed
  have hservers := recovers_list (hwritten.imp fun _ _ => IceServer.WrittenAs.recovers)
  have hstream := recovers_text options.streamId
  have htimeout : Recovers Span.shape options.iceTimeout.toJson options.iceTimeout :=
    hspan ▸ Span.recovers hmillis
  have hcodec := recovers_text options.codec
  refine Value.IsRecord.recovers hrecord ?_ ?_
  · simp [hservers.readsBack, hstream.readsBack, htimeout.readsBack, hcodec.readsBack]
  · simp [hservers.withDefault, hstream.withDefault, htimeout.withDefault, hcodec.withDefault]

/-- Nothing is missing in the second options, and they keep what the first have. -/
structure Completes (options completed : LinkOptions) : Prop where
  iceServers : completed.iceServers = options.iceServers
  streamId : completed.streamId ≠ "" ∧
    (options.streamId ≠ "" → completed.streamId = options.streamId)
  iceTimeout : completed.iceTimeout ≠ 0 ∧
    (options.iceTimeout ≠ 0 → completed.iceTimeout = options.iceTimeout)
  codec : completed.codec ≠ "" ∧ (options.codec ≠ "" → completed.codec = options.codec)

theorem completes_withDefaults (options : LinkOptions) :
    options.Completes options.withDefaults := by
  refine ⟨rfl, ?_, ?_, ?_⟩
  · rw [withDefaults]
    by_cases h : options.streamId = ""
    · simp [h, defaultStreamId]
    · simp [h]
  · rw [withDefaults, timeout]
    by_cases h : options.iceTimeout = 0
    · simp [h, defaultIceTimeout, Span.ofSeconds]
    · simp [h]
  · rw [withDefaults]
    by_cases h : options.codec = ""
    · simp [h, defaultCodec]
    · simp [h]

/-- Options in which nothing is missing are as their defaults make them. -/
theorem Completes.withDefaults_eq {options completed : LinkOptions}
    (h : options.Completes completed) : completed.withDefaults = completed := by
  have hstream : completed.streamId.isEmpty = false := by simpa using h.streamId.1
  have hcodec : completed.codec.isEmpty = false := by simpa using h.codec.1
  rw [withDefaults, timeout, hstream, hcodec, if_neg h.iceTimeout.1]
  rfl

theorem Timed.withDefaults {options : LinkOptions} (h : options.Timed) :
    options.withDefaults.Timed := by
  by_cases hzero : options.iceTimeout = 0
  · have hdefault : options.withDefaults.iceTimeout = Span.ofMillis 10000 := if_pos hzero
    exact ⟨10000, by decide, hdefault⟩
  · have hkept : options.withDefaults.iceTimeout = options.iceTimeout := if_neg hzero
    rw [Timed, hkept]
    exact h

end LinkOptions

/-! ## The result -/

/-- Data that were read from a text are found again in all that may be written for them, and first
of all in what is written for them. -/
def KeptByRecoding {α : Type} (shape : Shape α) (toJson : α → Value)
    (WrittenAs : α → Value → Prop) : Prop :=
  ∀ text a, shape.parse text = some a →
    WrittenAs a (toJson a) ∧ ∀ value, WrittenAs a value → shape.parse value.render = some a

theorem keptByRecoding {α : Type} {shape : Shape α} {toJson : α → Value}
    {WrittenAs : α → Value → Prop} (hwritten : ∀ a, WrittenAs a (toJson a))
    (hrecovers : ∀ document a value, shape document = some a → WrittenAs a value →
      Recovers shape value a) : KeptByRecoding shape toJson WrittenAs := by
  intro text a h
  obtain ⟨document, -, hread⟩ := Option.bind_eq_some_iff.1 h
  exact ⟨hwritten a, fun value hvalue => (hrecovers document a value hread hvalue).parse_render⟩

/-- What was read from any text survives being written again, whatever the order of the fields.  For
options this goes together with the defaults: these complete every options that were read, do so
once and for all, and may be filled in before or after the options are written again. -/
theorem recoding_keeps :
    KeptByRecoding LinkOptions.shape LinkOptions.toJson LinkOptions.WrittenAs ∧
    KeptByRecoding IceServer.shape IceServer.toJson IceServer.WrittenAs ∧
    KeptByRecoding CodecConfig.shape CodecConfig.toJson CodecConfig.WrittenAs ∧
    KeptByRecoding StreamInfo.shape StreamInfo.toJson StreamInfo.WrittenAs ∧
    KeptByRecoding Assignment.shape Assignment.toJson Assignment.WrittenAs ∧
    KeptByRecoding LocalDescription.shape LocalDescription.toJson LocalDescription.WrittenAs ∧
    ∀ text options, LinkOptions.shape.parse text = some options →
      options.Completes options.withDefaults ∧
      options.withDefaults.withDefaults = options.withDefaults ∧
      ∀ value completed, options.WrittenAs value → options.withDefaults.WrittenAs completed →
        LinkOptions.shape.parse completed.render =
          (LinkOptions.shape.parse value.render).map LinkOptions.withDefaults := by
  refine ⟨keptByRecoding LinkOptions.writtenAs_toJson ?_,
    keptByRecoding IceServer.writtenAs_toJson ?_, keptByRecoding CodecConfig.writtenAs_toJson ?_,
    keptByRecoding StreamInfo.writtenAs_toJson ?_, keptByRecoding Assignment.writtenAs_toJson ?_,
    keptByRecoding LocalDescription.writtenAs_toJson ?_, ?_⟩
  · exact fun _ _ _ hread h => h.recovers (LinkOptions.timed_of_shape hread)
  · exact fun _ _ _ _ h => h.recovers
  · exact fun _ _ _ hread h => h.recovers (CodecConfig.bounded_of_shape hread)
  · exact fun _ _ _ _ h => h.recovers
  · exact fun _ _ _ _ h => h.recovers
  · exact fun _ _ _ _ h => h.recovers
  · intro text options h
    obtain ⟨document, -, hread⟩ := Option.bind_eq_some_iff.1 h
    have htimed := LinkOptions.timed_of_shape hread
    have hcompletes := options.completes_withDefaults
    refine ⟨hcompletes, hcompletes.withDefaults_eq, fun value completed hvalue hcompleted => ?_⟩
    rw [(hvalue.recovers htimed).parse_render, Option.map_some,
      (hcompleted.recovers htimed.withDefaults).parse_render]

/-- Options from an array, with a server that has no credentials and the longest time to wait, are
kept, and their missing codec is filled in before or after. -/
theorem recoding_keeps_longest :
    ∃ options,
      LinkOptions.shape.parse "[[[[\"stun:a\"]]],\"s\",18446744073709551615]" = some options ∧
      LinkOptions.shape.parse options.toJson.render = some options ∧
      LinkOptions.shape.parse options.withDefaults.toJson.render =
        some { options with codec := "opus" } := by
  have hparse : LinkOptions.shape.parse "[[[[\"stun:a\"]]],\"s\",18446744073709551615]" =
      some
        { iceServers := [{ urls := ["stun:a"] }]
          streamId := "s"
          iceTimeout := Span.ofMillis 18446744073709551615 } := by decide +kernel
  obtain ⟨hwritten, hkept⟩ := recoding_keeps.1 _ _ hparse
  obtain ⟨-, -, hcommutes⟩ := recoding_keeps.2.2.2.2.2.2 _ _ hparse
  refine ⟨_, hparse, hkept _ hwritten, ?_⟩
  rw [hcommutes _ _ hwritten (LinkOptions.writtenAs_toJson _), hkept _ hwritten]
  rfl

end RelayMesh
