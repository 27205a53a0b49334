import RelayMesh.Message.Inbound
import RelayMesh.Proofs.Json.Grammar

/-!
# The grammar of what peers ask for

`Message.inbound` reads messages.  This file says without reading which messages ask for what, and
shows that the two agree.

* `Holds` says for each kind of data which fields it has: one condition for each field, with the
  default where the field may be missing.  The conditions are about the fields by name, so other
  members of the data do not matter, and neither does the order.
* `Message.Means` says what a message asks for.  There is one constructor for each type of message,
  and one for all types that no peer knows.
* `typedData_eq_ok_iff` and `sdpPayload_eq_ok_iff` read the data of a message, and `Blames` collects
  the ways in which they are refused.
* `Message.inbound_follows_grammar` is the result, for all messages whose data have no key twice.
  Every message that a text holds is of this kind (`Message.proper_of_parse`).
-/

namespace RelayMesh

open Json

/-! ## The fields of the data -/

namespace Capabilities

/-- The fields of capabilities, each of which may be missing. -/
structure Holds (fields : String → Option Value) (capabilities : Capabilities Float) : Prop where
  canForward : Grammar.Defaulted false Grammar.flag (fields "can_forward") capabilities.canForward
  minBandwidth :
    Grammar.Defaulted 0 Grammar.real (fields "min_bandwidth_mbps") capabilities.minBandwidth
  maxStreams : Grammar.Defaulted 0 (Grammar.natural countBound) (fields "max_forwarding_streams")
    capabilities.maxStreams

/-- Capabilities. -/
def grammar : Grammar (Capabilities Float) :=
  Grammar.record ["can_forward", "min_bandwidth_mbps", "max_forwarding_streams"] Holds

theorem reads_shape : Reads shape grammar := by
  refine reads_record (by decide) fun fields hfields capabilities => ?_
  simp only [List.map_cons, List.map_nil, Option.bind_eq_bind, Option.bind_eq_some_iff,
    Option.pure_def, Option.some.injEq, withDefault_iff reads_flag (hfields _),
    withDefault_iff reads_real (hfields _), withDefault_iff (reads_natural _) (hfields _)]
  constructor
  · rintro ⟨canForward, hforward, minBandwidth, hbandwidth, maxStreams, hstreams, rfl⟩
    exact ⟨hforward, hbandwidth, hstreams⟩
  · rintro ⟨hforward, hbandwidth, hstreams⟩
    exact ⟨_, hforward, _, hbandwidth, _, hstreams, rfl⟩

end Capabilities

namespace JoinRequest

/-- The fields of a wish to take part: only the room has to be there. -/
structure Holds (fields : String → Option Value) (request : JoinRequest) : Prop where
  room : Grammar.Required Grammar.text (fields "room_id") request.room
  user : Grammar.Defaulted none (Grammar.optional Grammar.text) (fields "user_id") request.user
  node : Grammar.Defaulted none (Grammar.optional Grammar.text) (fields "node_id") request.node
  capabilities : Grammar.Defaulted Capabilities.none Capabilities.grammar (fields "capabilities")
    request.capabilities

/-- The names of the fields of a wish to take part. -/
def fieldNames : List String := ["room_id", "user_id", "node_id", "capabilities"]

theorem reads_shape : Reads shape (Grammar.record fieldNames Holds) := by
  refine reads_record (by decide) fun fields hfields request => ?_
  simp only [List.map_cons, List.map_nil, Option.bind_eq_bind, Option.bind_eq_some_iff,
    Option.pure_def, Option.some.injEq, required_iff reads_text (hfields _),
    withDefault_iff (reads_optional reads_text) (hfields _),
    withDefault_iff Capabilities.reads_shape (hfields _)]
  constructor
  · rintro ⟨room, hroom, user, huser, node, hnode, capabilities, hcapabilities, rfl⟩
    exact ⟨hroom, huser, hnode, hcapabilities⟩
  · rintro ⟨hroom, huser, hnode, hcapabilities⟩
    exact ⟨_, hroom, _, huser, _, hnode, _, hcapabilities, rfl⟩

end JoinRequest

namespace PublishRequest

/-- The fields of a wish to publish: a stream carries audio unless it says otherwise. -/
structure Holds (fields : String → Option Value) (request : PublishRequest) : Prop where
  stream : Grammar.Required Grammar.text (fields "stream_id") request.stream
  media : Grammar.Defaulted .audio (Grammar.choice MediaKind.name) (fields "media_type")
    request.media

/-- The names of the fields of a wish to publish. -/
def fieldNames : List String := ["stream_id", "media_type"]

theorem reads_media : Reads MediaKind.shape (Grammar.choice MediaKind.name) := by
  refine reads_choice (fun a b h => ?_) (fun a => ?_)
  · cases a <;> cases b <;> first | rfl | exact absurd h (by decide)
  · cases a <;> decide

theorem reads_shape : Reads shape (Grammar.record fieldNames Holds) := by
  refine reads_record (by decide) fun fields hfields request => ?_
  simp only [List.map_cons, List.map_nil, Option.bind_eq_bind, Option.bind_eq_some_iff,
    Option.pure_def, Option.some.injEq, required_iff reads_text (hfields _),
    withDefault_iff reads_media (hfields _)]
  constructor
  · rintro ⟨stream, hstream, media, hmedia, rfl⟩
    exact ⟨hstream, hmedia⟩
  · rintro ⟨hstream, hmedia⟩
    exact ⟨_, hstream, _, hmedia, rfl⟩

end PublishRequest

namespace Load

/-- A point in time, as a text. -/
def timestampGrammar : Grammar Timestamp := fun value timestamp =>
  ∃ text, value = .string text ∧ Timestamp.parse text = some timestamp

/-- The fields of a report: all but the timestamp have to be there. -/
structure Holds (fields : String → Option Value) (load : Load Float) : Prop where
  bandwidth : Grammar.Required Grammar.real (fields "bandwidth_mbps") load.bandwidth
  cpuPercent : Grammar.Required Grammar.real (fields "cpu_usage_percent") load.cpuPercent
  memoryPercent : Grammar.Required Grammar.real (fields "memory_usage_percent") load.memoryPercent
  rttMillis : Grammar.Required (Grammar.natural countBound) (fields "rtt_ms") load.rttMillis
  lossPercent : Grammar.Required Grammar.real (fields "packet_loss_percent") load.lossPercent
  timestamp : Grammar.Defaulted none (Grammar.map some timestampGrammar) (fields "timestamp")
    load.timestamp

/-- The names of the fields of a report. -/
def fieldNames : List String :=
  ["bandwidth_mbps", "cpu_usage_percent", "memory_usage_percent", "rtt_ms", "packet_loss_percent",
    "timestamp"]

theorem reads_timestamp : Reads Timestamp.shape timestampGrammar := by
  intro value hvalue timestamp
  rw [Timestamp.shape, Option.bind_eq_some_iff]
  simp only [reads_text value hvalue, Grammar.text, timestampGrammar]

theorem reads_shape : Reads shape (Grammar.record fieldNames Holds) := by
  refine reads_record (by decide) fun fields hfields load => ?_
  simp only [List.map_cons, List.map_nil, Option.bind_eq_bind, Option.bind_eq_some_iff,
    Option.pure_def, Option.some.injEq, required_iff reads_real (hfields _),
    required_iff (reads_natural _) (hfields _),
    withDefault_iff (reads_map some reads_timestamp) (hfields _)]
  constructor
  · rintro ⟨bandwidth, hbandwidth, cpu, hcpu, memory, hmemory, rtt, hrtt, loss, hloss, timestamp,
      htimestamp, rfl⟩
    exact ⟨hbandwidth, hcpu, hmemory, hrtt, hloss, htimestamp⟩
  · rintro ⟨hbandwidth, hcpu, hmemory, hrtt, hloss, htimestamp⟩
    exact ⟨_, hbandwidth, _, hcpu, _, hmemory, _, hrtt, _, hloss, _, htimestamp, rfl⟩

end Load

namespace SdpPayload

/-- The fields of a description: the candidates are strings, and there are none if the field is
missing or `null`. -/
structure Holds (fields : String → Option Value) (payload : SdpPayload) : Prop where
  sdp : fields "sdp" = some (.string payload.sdp)
  candidates : fields "candidates" = some (.array (payload.candidates.map .string)) ∨
    (fields "candidates" = none ∨ fields "candidates" = some .null) ∧ payload.candidates = []

/-- The names of the fields of a description. -/
def fieldNames : List String := ["sdp", "candidates"]

end SdpPayload

namespace Message

variable {α β : Type} {message : Message}

/-! ## The grammar of messages -/

/-- The data of the message are an object whose fields describe something. -/
def HasData (message : Message) (holds : (String → Option Value) → α → Prop) (a : α) : Prop :=
  ∃ members, message.data = some (.object members) ∧ holds (fun name => members.lookup name) a

/-- The types that peers know. -/
def knownTypes : List String :=
  ["init", "offer", "answer", "connected", "join", "publish", "metrics", "leave"]

/-- The types whose messages need data. -/
def dataTypes : List String := ["offer", "answer", "join", "publish", "metrics"]

/-- What a message asks for. -/
inductive Means (message : Message) : Inbound → Prop where
  | init (htype : message.type = "init") : Means message .init
  | offer {payload : SdpPayload} (htype : message.type = "offer")
    (hdata : message.HasData SdpPayload.Holds payload) : Means message (.offer payload)
  | answer {payload : SdpPayload} (htype : message.type = "answer")
    (hdata : message.HasData SdpPayload.Holds payload) : Means message (.answer payload)
  | connected (htype : message.type = "connected") : Means message .connected
  | join {request : JoinRequest} (htype : message.type = "join")
    (hdata : message.HasData JoinRequest.Holds request) : Means message (.join request)
  | publish {request : PublishRequest} (htype : message.type = "publish")
    (hdata : message.HasData PublishRequest.Holds request) : Means message (.publish request)
  | metrics {load : Load Float} (htype : message.type = "metrics")
    (hdata : message.HasData Load.Holds load) : Means message (.metrics load)
  | leave (htype : message.type = "leave") : Means message .leave
  | unknown (htype : message.type ∉ knownTypes) : Means message (.unknown message.type)

/-- The names of the fields that matter in the data of a message of some type. -/
def fieldNames (type : String) : List String :=
  match type with
  | "offer" | "answer" => SdpPayload.fieldNames
  | "join" => JoinRequest.fieldNames
  | "publish" => PublishRequest.fieldNames
  | "metrics" => Load.fieldNames
  | _ => []

/-- No object in the data has a key twice. -/
def Proper (message : Message) : Prop :=
  ∀ value, message.data = some value → value.Proper

/-- The message that a text holds has no key twice in its data, even where the text has. -/
theorem proper_of_parse {text : String} (h : parse text = some message) : message.Proper := by
  obtain ⟨document, -, hshape⟩ := Option.bind_eq_some_iff.1 h
  obtain ⟨fields, -, hread⟩ := Option.bind_eq_some_iff.1 hshape
  split at hread
  case h_2 => cases hread
  case h_1 type session data =>
    simp only [Option.bind_eq_bind, Option.bind_eq_some_iff, Option.pure_def,
      Option.some.injEq] at hread
    obtain ⟨_, -, _, -, kept, hkept, rfl⟩ := hread
    rintro value rfl
    cases data with
    | none => cases Option.some.inj hkept
    | some document => exact proper_of_value? (of_optional hkept)

/-! ## Reading the data -/

theorem map_eq_ok_iff {ε : Type} {f : α → β} {result : Except ε α} {b : β} :
    result.map f = .ok b ↔ ∃ a, result = .ok a ∧ f a = b := by
  cases result <;> simp [Except.map]

theorem bind_eq_ok_iff {ε : Type} {f : α → Except ε β} {result : Except ε α} {b : β} :
    result.bind f = .ok b ↔ ∃ a, result = .ok a ∧ f a = .ok b := by
  cases result <;> simp [Except.bind]

theorem dataMembers_eq_ok_iff {members : List (String × Value)} :
    message.dataMembers = .ok members ↔ message.data = some (.object members) := by
  obtain ⟨type, session, data⟩ := message
  match data with
  | none => simp [dataMembers, malformed]
  | some value => cases value <;> simp [dataMembers, malformed, Value.members?]

/-- Data are read after a shape exactly where the grammar has them describe the result. -/
theorem typedData_eq_ok_iff {shape : Shape α} {names : List String}
    {holds : (String → Option Value) → α → Prop}
    (hreads : Reads shape (Grammar.record names holds)) (h : message.Proper) (a : α) :
    message.typedData shape = .ok a ↔ message.HasData holds a := by
  rw [typedData, bind_eq_ok_iff]
  simp only [dataMembers_eq_ok_iff]
  refine exists_congr fun members => and_congr_right fun hdata => ?_
  have hfields : shape (Value.object members).document = some a ↔
      holds (fun name => members.lookup name) a := by
    rw [hreads _ (h _ hdata) a]
    constructor
    · rintro ⟨_, ⟨⟩, hholds⟩
      exact hholds
    · exact fun hholds => ⟨_, .object members, hholds⟩
  rw [← hfields]
  cases shape (Value.object members).document <;> simp [malformed]

/-- A list is read if all of its elements are, where only one datum is read in each. -/
theorem mapM_eq_ok_iff {ε : Type} {read : α → Except ε β} {write : β → α}
    (h : ∀ a b, read a = .ok b ↔ a = write b) {items : List α} {results : List β} :
    items.mapM read = .ok results ↔ items = results.map write := by
  induction items generalizing results with
  | nil => cases results <;> simp [pure, Except.pure]
  | cons item items ih =>
    rw [List.mapM_cons]
    change ((read item).bind fun b => (items.mapM read).bind fun bs => .ok (b :: bs)) =
      .ok results ↔ _
    simp only [bind_eq_ok_iff, h, ih, Except.ok.injEq]
    cases results <;> simp

theorem readCandidates_eq_ok_iff {field : Option Value} {candidates : List String} :
    readCandidates field = .ok candidates ↔ field = some (.array (candidates.map .string)) ∨
      (field = none ∨ field = some .null) ∧ candidates = [] := by
  match field with
  | none => simp [readCandidates, eq_comm]
  | some value =>
    cases value with
    | null => simp [readCandidates, eq_comm]
    | bool | int | float | string | object => simp [readCandidates, malformed]
    | array items =>
      have hitems : readCandidates (some (.array items)) = .ok candidates ↔
          items = candidates.map .string :=
        mapM_eq_ok_iff fun item candidate => by cases item <;> simp [malformed]
      simp [hitems]

theorem bind_text?_eq_some_iff {field : Option Value} {text : String} :
    field.bind Value.text? = some text ↔ field = some (.string text) := by
  match field with
  | none => simp
  | some value => cases value <;> simp [Value.text?]

theorem sdpPayload_eq_ok_iff {payload : SdpPayload} :
    message.sdpPayload = .ok payload ↔ message.HasData SdpPayload.Holds payload := by
  rw [sdpPayload, bind_eq_ok_iff]
  simp only [dataMembers_eq_ok_iff]
  refine exists_congr fun members => and_congr_right fun _ => ?_
  constructor
  · intro h
    split at h
    case h_1 sdp hsdp =>
      obtain ⟨candidates, hcandidates, rfl⟩ := map_eq_ok_iff.1 h
      exact ⟨bind_text?_eq_some_iff.1 hsdp, readCandidates_eq_ok_iff.1 hcandidates⟩
    case h_2 => exact nomatch h
  · rintro ⟨hsdp, hcandidates⟩
    rw [bind_text?_eq_some_iff.2 hsdp]
    exact map_eq_ok_iff.2 ⟨payload.candidates, readCandidates_eq_ok_iff.2 hcandidates, rfl⟩

/-! ## Refusals -/

/-- Where there is a failure, it blames the message. -/
def Blames (result : Except RelayError α) : Prop :=
  ∀ error, result = .error error → ∃ detail, error = .malformedMessage detail

theorem blames_ok (a : α) : Blames (.ok a) :=
  nofun

theorem blames_malformed (detail : String) :
    Blames (malformed detail : Except RelayError α) := by
  rintro _ ⟨⟩
  exact ⟨detail, rfl⟩

theorem Blames.bind {result : Except RelayError α} (h : Blames result)
    {f : α → Except RelayError β} (hf : ∀ a, Blames (f a)) : Blames (result.bind f) := by
  cases result with
  | error error =>
    rintro _ ⟨⟩
    exact h error rfl
  | ok a => exact hf a

theorem Blames.map {result : Except RelayError α} (h : Blames result) (f : α → β) :
    Blames (result.map f) := by
  cases result with
  | error error =>
    rintro _ ⟨⟩
    exact h error rfl
  | ok a => exact blames_ok (f a)

theorem blames_mapM {f : α → Except RelayError β} (hf : ∀ a, Blames (f a)) (items : List α) :
    Blames (items.mapM f) := by
  induction items with
  | nil => exact blames_ok []
  | cons item items ih =>
    rw [List.mapM_cons]
    exact (hf item).bind fun _ => ih.bind fun _ => blames_ok _

theorem blames_dataMembers (message : Message) : Blames message.dataMembers := by
  rw [dataMembers]
  split
  · exact blames_ok _
  · exact blames_malformed _

theorem blames_typedData (message : Message) (shape : Shape α) :
    Blames (message.typedData shape) := by
  refine message.blames_dataMembers.bind fun members => ?_
  split
  · exact blames_ok _
  · exact blames_malformed _

theorem blames_readCandidates (field : Option Value) : Blames (readCandidates field) := by
  rw [readCandidates.eq_def]
  split
  case h_1 | h_2 => exact blames_ok []
  case h_3 items =>
    refine blames_mapM (fun item => ?_) items
    split
    · exact blames_ok _
    · exact blames_malformed _
  case h_4 => exact blames_malformed _

theorem blames_sdpPayload (message : Message) : Blames message.sdpPayload := by
  refine message.blames_dataMembers.bind fun members => ?_
  split
  · exact (blames_readCandidates _).map _
  · exact blames_malformed _

/-- Only a message that needs data is refused, and the failure blames the message. -/
theorem inbound_eq_error {error : RelayError} (h : message.inbound = .error error) :
    (∃ detail, error = .malformedMessage detail) ∧ message.type ∈ dataTypes := by
  rw [inbound.eq_def] at h
  split at h
  case h_2 htype | h_3 htype =>
    exact ⟨message.blames_sdpPayload.map _ error h, by rw [htype]; decide⟩
  case h_5 htype | h_6 htype | h_7 htype =>
    exact ⟨(message.blames_typedData _).map _ error h, by rw [htype]; decide⟩
  all_goals exact nomatch h

/-! ## What does not matter -/

variable {members others : List (String × Value)}

/-- A record is read from its fields, so only the members under their names matter. -/
theorem typedData_congr {names : List String} {read : List (Option Document) → Option α}
    (h : message.Proper) (hdata : message.data = some (.object members))
    (hnodup : (others.map Prod.fst).Nodup)
    (hsame : ∀ name ∈ names, others.lookup name = members.lookup name) :
    { message with data := some (.object others) }.typedData
        (fun document => (document.fields? names).bind read) =
      message.typedData (fun document => (document.fields? names).bind read) := by
  have hfields : (Value.object others).document.fields? names =
      (Value.object members).document.fields? names := by
    cases h _ hdata with
    | object hmembers => exact fields?_congr hmembers hnodup hsame
  rw [typedData, typedData, dataMembers_eq_ok_iff.2 hdata, dataMembers_eq_ok_iff.2 rfl]
  simp only [Except.bind, hfields]

theorem sdpPayload_congr (hdata : message.data = some (.object members))
    (hsame : ∀ name ∈ SdpPayload.fieldNames, others.lookup name = members.lookup name) :
    { message with data := some (.object others) }.sdpPayload = message.sdpPayload := by
  rw [sdpPayload, sdpPayload, dataMembers_eq_ok_iff.2 hdata, dataMembers_eq_ok_iff.2 rfl]
  simp only [Except.bind, hsame "sdp" (by decide), hsame "candidates" (by decide)]

/-- The members of the data matter only under the names of the fields. -/
theorem inbound_congr (h : message.Proper) (hdata : message.data = some (.object members))
    (hnodup : (others.map Prod.fst).Nodup)
    (hsame : ∀ name ∈ fieldNames message.type, others.lookup name = members.lookup name) :
    { message with data := some (.object others) }.inbound = message.inbound := by
  obtain ⟨type, session, data⟩ := message
  rw [inbound.eq_def, inbound.eq_def]
  dsimp only at hsame ⊢
  split
  case h_2 | h_3 => exact congrArg (Except.map _) (sdpPayload_congr hdata hsame)
  case h_5 | h_6 | h_7 =>
    exact congrArg (Except.map _) (typedData_congr h hdata hnodup hsame)
  all_goals rfl

/-! ## The grammar -/

/-- A message is read exactly as it is meant. -/
theorem inbound_eq_ok_iff (h : message.Proper) (asked : Inbound) :
    message.inbound = .ok asked ↔ message.Means asked := by
  constructor
  · intro hread
    rw [inbound.eq_def] at hread
    split at hread
    case h_1 htype =>
      obtain rfl := Except.ok.inj hread
      exact .init htype
    case h_2 htype =>
      obtain ⟨payload, hpayload, rfl⟩ := map_eq_ok_iff.1 hread
      exact .offer htype (sdpPayload_eq_ok_iff.1 hpayload)
    case h_3 htype =>
      obtain ⟨payload, hpayload, rfl⟩ := map_eq_ok_iff.1 hread
      exact .answer htype (sdpPayload_eq_ok_iff.1 hpayload)
    case h_4 htype =>
      obtain rfl := Except.ok.inj hread
      exact .connected htype
    case h_5 htype =>
      obtain ⟨request, hrequest, rfl⟩ := map_eq_ok_iff.1 hread
      exact .join htype ((typedData_eq_ok_iff JoinRequest.reads_shape h request).1 hrequest)
    case h_6 htype =>
      obtain ⟨request, hrequest, rfl⟩ := map_eq_ok_iff.1 hread
      exact .publish htype ((typedData_eq_ok_iff PublishRequest.reads_shape h request).1 hrequest)
    case h_7 htype =>
      obtain ⟨load, hload, rfl⟩ := map_eq_ok_iff.1 hread
      exact .metrics htype ((typedData_eq_ok_iff Load.reads_shape h load).1 hload)
    case h_8 htype =>
      obtain rfl := Except.ok.inj hread
      exact .leave htype
    case h_9 =>
      obtain rfl := Except.ok.inj hread
      exact .unknown (by simp_all [knownTypes])
  · intro hmeans
    cases hmeans with
    | init htype | connected htype | leave htype => simp only [inbound, htype]
    | offer htype hdata | answer htype hdata =>
      simp only [inbound, htype]
      exact map_eq_ok_iff.2 ⟨_, sdpPayload_eq_ok_iff.2 hdata, rfl⟩
    | join htype hdata =>
      simp only [inbound, htype]
      exact map_eq_ok_iff.2 ⟨_, (typedData_eq_ok_iff JoinRequest.reads_shape h _).2 hdata, rfl⟩
    | publish htype hdata =>
      simp only [inbound, htype]
      exact map_eq_ok_iff.2 ⟨_, (typedData_eq_ok_iff PublishRequest.reads_shape h _).2 hdata, rfl⟩
    | metrics htype hdata =>
      simp only [inbound, htype]
      exact map_eq_ok_iff.2 ⟨_, (typedData_eq_ok_iff Load.reads_shape h _).2 hdata, rfl⟩
    | unknown htype => simp_all [knownTypes, inbound]

/-- Messages are accepted exactly by their grammar, if no object in the data has a key twice.  A
message asks for what it means and is refused if it means nothing; only messages that need data are
refused, and the failure blames the message.  Neither the session matters nor what the data have
beside the fields that the type of the message names. -/
theorem inbound_follows_grammar (message : Message) (h : message.Proper) :
    (∀ asked, message.inbound = .ok asked ↔ message.Means asked) ∧
    (∀ error, message.inbound = .error error →
      (∃ detail, error = .malformedMessage detail) ∧ message.type ∈ dataTypes) ∧
    (∀ session, { message with session := session }.inbound = message.inbound) ∧
    ∀ members others, message.data = some (.object members) → (others.map Prod.fst).Nodup →
      (∀ name ∈ fieldNames message.type, others.lookup name = members.lookup name) →
      { message with data := some (.object others) }.inbound = message.inbound :=
  ⟨inbound_eq_ok_iff h, fun _ => inbound_eq_error, fun _ => rfl,
    fun _ _ hdata hnodup hsame => inbound_congr h hdata hnodup hsame⟩

/-- A wish to take part in which the user is `null` and nothing reads the members `color` and
`note`. -/
def crowdedJoin : Message where
  type := "join"
  session := some "session"
  data := some (.object
    [("capabilities", .object [("can_forward", .bool true), ("note", .int 1)]),
      ("color", .string "red"), ("room_id", .string "room"), ("user_id", .null)])

theorem inbound_follows_grammar_crowded : crowdedJoin.Proper ∧
    crowdedJoin.inbound = .ok (.join { room := "room", capabilities := ⟨true, 0, 0⟩ }) := by
  have hproper : crowdedJoin.Proper := by
    rintro _ ⟨⟩
    refine .object (by decide) (List.forall_mem_cons.2 ⟨?_, ?_⟩)
    · refine .object (by decide) (List.forall_mem_cons.2 ⟨.bool true, ?_⟩)
      exact List.forall_mem_singleton.2 (.int 1)
    · refine List.forall_mem_cons.2 ⟨.string "red", List.forall_mem_cons.2 ⟨.string "room", ?_⟩⟩
      exact List.forall_mem_singleton.2 .null
  have hcapabilities : Capabilities.grammar
      (.object [("can_forward", .bool true), ("note", .int 1)]) ⟨true, 0, 0⟩ :=
    ⟨_, .object _, .inr ⟨_, rfl, rfl⟩, .inl ⟨rfl, rfl⟩, .inl ⟨rfl, rfl⟩⟩
  have hdata : crowdedJoin.HasData JoinRequest.Holds
      { room := "room", capabilities := ⟨true, 0, 0⟩ } :=
    ⟨_, rfl, ⟨_, rfl, rfl⟩, .inr ⟨_, rfl, .inl ⟨rfl, rfl⟩⟩, .inl ⟨rfl, rfl⟩,
      .inr ⟨_, rfl, hcapabilities⟩⟩
  exact ⟨hproper, ((inbound_follows_grammar crowdedJoin hproper).1 _).2 (.join rfl hdata)⟩

end Message

end RelayMesh
