import RelayMesh.Proofs.Message.Grammar

/-!
# Messages survive the wire

What the server sends is written and read by separate code: a message writes
its members in an order of its own and leaves out what is absent, its data are
records in key order, and roles and media go by their names.

* `shape_toJson` and `carried_toJson`, for each type of data, say that its
  shape reads the value of it and that texts carry the value.
* `Message.Sendable.parse_text` says that a message is what its text says.
* `Message.messages_survive_the_wire` is the result for all that the server
  sends, whatever characters occur in it.

Different assignments have different values, so the last `role` message of a
session says which assignment the session knows (`Message.role_injective`).
-/

namespace RelayMesh

open Json

/-- The members of a record are found under their keys; of two members of one key the later one
counts. -/
theorem Json.Value.get?_record (members : List (String × Value)) (key : String) :
    (Value.record members).get? key = (Table.ofList members).get? key := rfl

/-! ## The data of messages -/

theorem MediaKind.shape_toJson (media : MediaKind) : shape media.toJson.document = some media := by
  cases media <;> rfl

theorem Role.shape_toJson (role : Role) : shape role.toJson.document = some role := by
  cases role <;> rfl

namespace StreamInfo

theorem shape_toJson (info : StreamInfo) : shape info.toJson.document = some info := by
  rw [shape, toJson, fields?_record]
  simp [Table.ofList, Table.get?_insert, required, MediaKind.shape_toJson]

theorem carried_toJson (info : StreamInfo) : info.toJson.Carried 1 := by
  refine Value.carried_record ?_
  rw [List.forall_mem_cons, List.forall_mem_cons, List.forall_mem_singleton]
  exact ⟨.string _, .string _, .string _⟩

end StreamInfo

namespace Assignment

theorem shape_toJson (assignment : Assignment) :
    shape assignment.toJson.document = some assignment := by
  have hstreams := list_document StreamInfo.shape_toJson assignment.streams
  rw [shape, toJson, fields?_record]
  simp [Table.ofList, Table.get?_insert, required, Role.shape_toJson, hstreams]

theorem carried_toJson (assignment : Assignment) : assignment.toJson.Carried 3 := by
  refine Value.carried_record ?_
  rw [List.forall_mem_cons, List.forall_mem_singleton]
  exact ⟨.string _, Value.carried_array StreamInfo.carried_toJson _⟩

/-- Different assignments have different values. -/
theorem toJson_injective : Function.Injective toJson := by
  intro a b h
  have hshape := congrArg (fun value => shape value.document) h
  simp only [shape_toJson] at hshape
  exact Option.some.inj hshape

end Assignment

theorem LocalDescription.carried_toJson (description : LocalDescription) :
    description.toJson.Carried 2 := by
  refine Value.carried_record ?_
  rw [List.forall_mem_cons, List.forall_mem_singleton]
  exact ⟨.string _, Value.carried_array .string _⟩

namespace Message

/-! ## Messages in general -/

/-- A `role` message carries its assignment. -/
theorem role_injective (session : String) : Function.Injective (role session) := by
  intro a b h
  have hdata : some a.toJson = some b.toJson := congrArg data h
  exact Assignment.toJson_injective (Option.some.inj hdata)

variable {message : Message}

/-- The data of the message, if there are any, reach the other side unchanged. -/
def Sendable (message : Message) : Prop :=
  ∀ data, message.data = some data →
    data ≠ .null ∧ ∃ depth, depth ≤ maxDepth - 1 ∧ data.Carried depth

theorem nodup_members (message : Message) : (message.members.map Prod.fst).Nodup := by
  obtain ⟨type, session, data⟩ := message
  cases session <;> cases data <;> simp [members]

theorem lookup_members (message : Message) :
    message.members.lookup "type" = some (.string message.type) ∧
      message.members.lookup "session_id" = message.session.map .string ∧
      message.members.lookup "data" = message.data := by
  obtain ⟨type, session, data⟩ := message
  cases session <;> cases data <;> exact ⟨rfl, rfl, rfl⟩

theorem text_eq_render (message : Message) :
    message.text = (Value.object message.members).render := by
  rw [text, Value.render]

theorem Sendable.readsBack_members (h : message.Sendable) :
    (Value.object message.members).ReadsBack := by
  refine readsBack_object fun member hmem => ?_
  simp only [members, List.mem_cons, List.mem_append, List.mem_map, Option.mem_toList] at hmem
  obtain rfl | ⟨session, -, rfl⟩ | ⟨data, hmem, rfl⟩ := hmem
  · exact readsBack_string _
  · exact readsBack_string _
  · obtain ⟨-, depth, -, hcarried⟩ := h data hmem
    exact hcarried.readsBack

/-- A message is what its text says. -/
theorem Sendable.parse_text (h : message.Sendable) : parse message.text = some message := by
  have hparse : Document.parse message.text = some (Value.object message.members).document := by
    rw [text_eq_render]
    exact Document.parse_render h.readsBack_members
  rw [parse, Shape.parse, hparse, Option.bind_some, shape, fields?_object message.nodup_members]
  obtain ⟨htype, hsession, hmembers⟩ := message.lookup_members
  have hsessions : withDefault none (Shape.optional Shape.text)
      ((message.session.map Value.string).map Value.document) = some message.session := by
    cases message.session <;> rfl
  have hkept : withDefault none (Shape.optional (Document.value? (maxDepth - 1)))
      (message.data.map Value.document) = some message.data := by
    cases hdata : message.data with
    | none => rfl
    | some data =>
      obtain ⟨hnull, depth, hdepth, hcarried⟩ := h data hdata
      rw [Option.map_some, withDefault, optional_document hnull, hcarried.value?_document hdepth,
        Option.map_some]
  simp only [List.map_cons, List.map_nil, htype, hsession, hmembers, Option.bind_eq_bind,
    Option.bind_some, hsessions, hkept, Option.map_some, required, text_document]
  rfl

/-! ## What the server sends -/

theorem sendable_of_data {data : Value} {depth : Nat} (hdata : message.data = some data)
    (hnull : data ≠ .null) (hdepth : depth ≤ maxDepth - 1) (h : data.Carried depth) :
    message.Sendable := by
  intro found hfound
  obtain rfl := Option.some.inj (hdata.symm.trans hfound)
  exact ⟨hnull, depth, hdepth, h⟩

theorem sdpPayload_of_data {description : LocalDescription}
    (h : message.data = some description.toJson) :
    message.sdpPayload = .ok ⟨description.sdp, description.candidates⟩ := by
  have hsdp : description.toJson.get? "sdp" = some (.string description.sdp) := by
    simp [LocalDescription.toJson, Value.get?_record, Table.ofList, Table.get?_insert]
  have hlist : description.toJson.get? "candidates" =
      some (.array (description.candidates.map .string)) := by
    simp [LocalDescription.toJson, Value.get?_record, Table.ofList, Table.get?_insert]
  obtain ⟨members, heq⟩ : ∃ members, description.toJson = .object members := ⟨_, rfl⟩
  rw [heq] at h hsdp hlist
  rw [Value.get?] at hsdp hlist
  exact sdpPayload_eq_ok_iff.2 ⟨members, h, hsdp, .inl hlist⟩

theorem inbound_offer (session : String) (description : LocalDescription) :
    (offer session description).inbound =
      (offer session description).sdpPayload.map .offer := rfl

theorem inbound_answer (session : String) (description : LocalDescription) :
    (answer session description).inbound =
      (answer session description).sdpPayload.map .answer := rfl

/-- What the server sends is what the other side reads: every message is read back from its text, an
offer or an answer says the same description and the same candidates in the same order, and the
data of a `role` message have the shape of the same assignment. -/
theorem messages_survive_the_wire (session failure : String) (description : LocalDescription)
    (assignment : Assignment) :
    (∀ message ∈ [init session, connected session, offer session description,
        answer session description, role session assignment, error session failure],
      parse message.text = some message) ∧
    (parse (offer session description).text).map inbound =
      some (.ok (.offer ⟨description.sdp, description.candidates⟩)) ∧
    (parse (answer session description).text).map inbound =
      some (.ok (.answer ⟨description.sdp, description.candidates⟩)) ∧
    ((parse (role session assignment).text).bind data).bind
      (fun data => Assignment.shape data.document) = some assignment := by
  have hoffer : (offer session description).Sendable :=
    sendable_of_data rfl nofun (by decide) description.carried_toJson
  have hanswer : (answer session description).Sendable :=
    sendable_of_data rfl nofun (by decide) description.carried_toJson
  have hrole : (role session assignment).Sendable :=
    sendable_of_data rfl nofun (by decide) assignment.carried_toJson
  have hfailure : (Value.record [("description", .string failure)]).Carried 1 :=
    Value.carried_record (List.forall_mem_singleton.2 (.string failure))
  have herror : (error session failure).Sendable :=
    sendable_of_data rfl nofun (by decide) hfailure
  refine ⟨?_, ?_, ?_, ?_⟩
  · intro message hmem
    simp only [List.mem_cons, List.not_mem_nil, or_false] at hmem
    obtain rfl | rfl | rfl | rfl | rfl | rfl := hmem
    · exact Sendable.parse_text nofun
    · exact Sendable.parse_text nofun
    · exact hoffer.parse_text
    · exact hanswer.parse_text
    · exact hrole.parse_text
    · exact herror.parse_text
  · rw [hoffer.parse_text, Option.map_some, inbound_offer, sdpPayload_of_data rfl]
    rfl
  · rw [hanswer.parse_text, Option.map_some, inbound_answer, sdpPayload_of_data rfl]
    rfl
  · rw [hrole.parse_text]
    exact assignment.shape_toJson

end Message

end RelayMesh
