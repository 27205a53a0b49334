import RelayMesh.Proofs.Hub.Eviction
import RelayMesh.Proofs.Hub.Relation

/-!
# Signs of life

A node gives a sign of life when it joins and whenever it reports.  Nothing
else that it asks for is one, neither a stream that it publishes nor a decision
about it, and nothing that happens to its room.

* `Hub.lastHeard` reads the last sign of life of a node off the requests of a
  run, without the hub.
* `lastReport?_step` is the step: of a node that is there afterwards, either the
  request is a sign of life, or the node has kept its last report.
  `lastHeard_of_lastReport?` is the run.
* `evict_takes_overdue` puts this together with the eviction itself: after any
  run, exactly the nodes go whose last sign of life is too old.
-/

namespace RelayMesh

namespace Room

variable {α : Type} {room : Room α} {id other : String} {load : Load α} {now : Instant}

/-- When a node of the room joined or last reported. -/
abbrev lastReport? (room : Room α) (id : String) : Option Instant :=
  room.look (fun _ node => node.lastReport) id

theorem lastReport?_reporting :
    (room.reporting id load now).lastReport? other =
      if other = id then (room.lastReport? other).map (fun _ => now) else room.lastReport? other := by
  rw [lastReport?, look, Room.reporting, Table.get?_modify, lastReport?, look]
  split
  · rw [Option.map_map, Option.map_map]
    rfl
  · rfl

end Room

namespace Hub

variable {α : Type} {hub after : Hub α} {roomId nodeId otherRoom other : String} {t : Instant}

/-- When a node of the hub joined or last reported. -/
abbrev lastReport? (hub : Hub α) (roomId nodeId : String) : Option Instant :=
  hub.look (fun _ node => node.lastReport) roomId nodeId

/-! ## Requests -/

/-- When a request is a sign of life of a node: the node joins or reports. -/
def Request.heardAt (roomId nodeId : String) : Request α → Option Instant
  | .join room node _ _ _ _ now | .report room node _ now =>
    if roomId = room ∧ nodeId = node then some now else none
  | _ => none

/-- The last sign of life of a node among some requests.  A report counts although it is refused
where the node is not there: the node has to join again before it is. -/
def lastHeard (requests : List (Request α)) (roomId nodeId : String) : Option Instant :=
  (requests.filterMap (Request.heardAt roomId nodeId)).getLast?

theorem lastHeard_concat (requests : List (Request α)) (request : Request α) :
    lastHeard (requests ++ [request]) roomId nodeId =
      (request.heardAt roomId nodeId).or (lastHeard requests roomId nodeId) := by
  rw [lastHeard, List.filterMap_append, lastHeard]
  cases hheard : request.heardAt roomId nodeId <;> simp [hheard]

/-! ## Steps -/

theorem thinning_lastReport? : Thinning (fun before after : Hub α => ∀ roomId nodeId t,
    after.lastReport? roomId nodeId = some t → before.lastReport? roomId nodeId = some t) where
  refl _ _ _ _ h := h
  trans h h' roomId nodeId t ht := h roomId nodeId t (h' roomId nodeId t ht)
  departed _ hroom roomId nodeId t h := by
    rw [lastReport?, look_departed (fun _ _ => rfl) hroom] at h
    split at h
    · exact nomatch h
    · exact h

theorem lastReport?_attach (link : String) :
    (hub.attach roomId nodeId link).2.lastReport? otherRoom other =
      hub.lastReport? otherRoom other := by
  rw [attach]
  split
  · rfl
  · rename_i room hroom
    refine look_withRoom_congr (Option.filter_eq_some_iff.1 hroom).1 ?_
    rw [Room.look, Table.get?_modify, Room.look]
    split
    · rw [Option.map_map]
      rfl
    · rfl

variable [Scalar α]

/-- A report is kept if the node is there, and it is refused otherwise. -/
theorem lastReport?_report (load : Load α) (now : Instant) :
    (hub.settle (hub.report roomId nodeId load now)).lastReport? otherRoom other =
      if otherRoom = roomId ∧ other = nodeId then
        (hub.lastReport? otherRoom other).map (fun _ => now)
      else hub.lastReport? otherRoom other := by
  by_cases hthere : ∃ room node, hub.rooms.get? roomId = some room ∧
      room.nodes.get? nodeId = some node
  · obtain ⟨room, node, hroom, hnode⟩ := hthere
    have hreporting : (room.reporting nodeId load now).nodes.get? nodeId =
        some (node.report load now) := Room.get?_nodes_reporting hnode
    rw [report_of_get? hroom hnode, evaluate_of_get? (get?_withRoom_self ..) hreporting, settle,
      lastReport?, look_withRoom, look_withRoom]
    by_cases heq : otherRoom = roomId
    · rw [if_pos heq, Room.decided, Room.look_assigned (fun _ _ _ => rfl) hreporting,
        ← Room.lastReport?, Room.lastReport?_reporting, heq, lastReport?, look_of_get? hroom]
      simp
    · simp [heq]
  · obtain ⟨e, hrefused⟩ := report_of_absent (fun room hroom => Bool.eq_false_iff.2 fun hnode => by
      obtain ⟨node, hget⟩ := Table.contains_iff.1 hnode
      exact hthere ⟨room, node, hroom, hget⟩) load now
    rw [hrefused, settle]
    split
    · rename_i heq
      cases hlook : hub.lastReport? otherRoom other with
      | none => rfl
      | some found =>
        rw [heq.1, heq.2] at hlook
        obtain ⟨room, hroom, hplace⟩ := Option.bind_eq_some_iff.1 hlook
        obtain ⟨node, hnode, -⟩ := Option.map_eq_some_iff.1 hplace
        exact absurd ⟨room, node, hroom, hnode⟩ hthere
    · rfl

/-- The step: what a node keeps of a request is the time of the request if it is a sign of life, and
otherwise what it kept before. -/
theorem lastReport?_step {request : Request α}
    (h : (hub.step request).lastReport? roomId nodeId = some t) :
    (request.heardAt roomId nodeId).or (hub.lastReport? roomId nodeId) = some t := by
  have hsettle {ε β : Type} {result : Except ε (β × Hub α)}
      (hafter : ∀ b after, result = .ok (b, after) →
        after.lastReport? roomId nodeId = some t → hub.lastReport? roomId nodeId = some t) :
      (hub.settle result).lastReport? roomId nodeId = some t →
        hub.lastReport? roomId nodeId = some t :=
    settle_of (Q := fun after => after.lastReport? roomId nodeId = some t →
      hub.lastReport? roomId nodeId = some t) id hafter
  cases request with
  | createRoom room =>
    rw [step, lastReport?, look_createRoom] at h
    exact h
  | removeRoom room =>
    refine hsettle (fun removed after hremove hlook => ?_) h
    rw [removeRoom_eq_ok hremove, lastReport?, look, Table.get?_erase] at hlook
    split at hlook
    · cases hlook
    · exact hlook
  | join room node user capabilities session link now =>
    rw [step, lastReport?, look_join] at h
    rw [Request.heardAt]
    split at h
    · rename_i hsame
      rw [if_pos hsame]
      exact h
    · rename_i hother
      rw [if_neg hother]
      exact h
  | leave room node =>
    exact hsettle (fun _ _ hleave => thinning_lastReport?.leave hleave roomId nodeId t) h
  | leaveSession room node session =>
    exact thinning_lastReport?.leaveSession session roomId nodeId t h
  | attach room node link =>
    rw [step, lastReport?_attach] at h
    exact h
  | publish room node stream media =>
    rcases settle_publish_cases hub room node stream media with
      ⟨found, hfound, -, -, heq⟩ | ⟨heq, -⟩
    · have hsame : (found.withFresh stream node media).lastReport? nodeId =
          found.lastReport? nodeId := rfl
      rw [step, heq, lastReport?, look_withRoom_congr hfound hsame] at h
      exact h
    · rw [step, heq] at h
      exact h
  | report room node load now =>
    rw [step, lastReport?_report] at h
    rw [Request.heardAt]
    split at h
    · rename_i hsame
      obtain ⟨-, -, htime⟩ := Option.map_eq_some_iff.1 h
      rw [if_pos hsame, htime]
      rfl
    · rename_i hother
      rw [if_neg hother]
      exact h
  | evaluate room node =>
    refine hsettle (fun _ _ hevaluate hlook => ?_) h
    rw [lastReport?, look_evaluate (fun _ _ _ => rfl) hevaluate] at hlook
    exact hlook
  | rebalance room =>
    refine hsettle (fun _ _ hrebalance hlook => ?_) h
    rw [lastReport?, look_rebalance (fun _ _ _ => rfl) hrebalance] at hlook
    exact hlook
  | evict now =>
    rw [step] at h
    split at h
    · rename_i eviction hevict
      exact thinning_lastReport?.evict hevict roomId nodeId t h
    · exact h

/-! ## Runs -/

/-- The run: a node that is there keeps the time of its last sign of life. -/
theorem lastHeard_of_lastReport? {policy : Policy α} {requests : List (Request α)}
    (h : ((new policy).run requests).lastReport? roomId nodeId = some t) :
    lastHeard requests roomId nodeId = some t := by
  induction requests using List.reverseRecOn generalizing t with
  | nil => exact nomatch h
  | append_singleton requests request ih =>
    rw [run, List.foldl_concat] at h
    have hstep := lastReport?_step h
    rw [lastHeard_concat]
    cases hheard : request.heardAt roomId nodeId with
    | none =>
      rw [hheard] at hstep
      exact ih hstep
    | some now =>
      rw [hheard] at hstep
      exact hstep

/-! ## Evictions -/

/-- Whether the last sign of life of a node among some requests is from before a point in time. -/
def overdue (requests : List (Request α)) (cutoff : Instant) (roomId nodeId : String) : Bool :=
  (lastHeard requests roomId nodeId).any (fun last => last < cutoff)

omit [Scalar α] in
theorem evict_of_staleAfter {window : Span} {now : Instant}
    (hwindow : hub.policy.staleAfter = some window) (hfits : window ≤ longestWindow)
    (hcalendar : firstInstant ≤ now - (window : Int)) :
    hub.evict now = .ok (hub.evictSilentSince (now - (window : Int))) := by
  rw [evict, cutoff, hwindow]
  dsimp only
  rw [if_neg (Nat.not_lt.2 hfits), if_neg (Int.not_lt.2 hcalendar)]
  rfl

/-- An eviction after any run, at a time from which the window can be counted back.  A node that is
there keeps the time of its last sign of life, and exactly those nodes go whose last sign of life is
from before the window, with their streams and with their places among the targets. -/
theorem evict_takes_overdue (policy : Policy α) (requests : List (Request α)) {window : Span}
    {now : Instant} (hwindow : policy.staleAfter = some window) (hfits : window ≤ longestWindow)
    (hcalendar : firstInstant ≤ now - (window : Int)) :
    (∀ roomId room nodeId node, ((new policy).run requests).rooms.get? roomId = some room →
        room.nodes.get? nodeId = some node →
        lastHeard requests roomId nodeId = some node.lastReport) ∧
      ∃ eviction, ((new policy).run requests).evict now = .ok eviction ∧
        Evicts (overdue requests (now - (window : Int))) ((new policy).run requests) eviction := by
  have hheard : ∀ roomId room nodeId node,
      ((new policy).run requests).rooms.get? roomId = some room →
      room.nodes.get? nodeId = some node →
      lastHeard requests roomId nodeId = some node.lastReport := by
    intro roomId room nodeId node hroom hnode
    apply lastHeard_of_lastReport?
    rw [lastReport?, look_of_get? hroom, Room.look_of_get? _ hnode]
  have hpolicy : ((new policy).run requests).policy.staleAfter = some window := by
    rw [policy_run]
    exact hwindow
  refine ⟨hheard, _, evict_of_staleAfter hpolicy hfits hcalendar, ?_⟩
  refine evicts_evictSilentSince (fun {roomId room nodeId node} hroom hnode => ?_)
    (run_wellFormed policy requests)
  rw [overdue, hheard roomId room nodeId node hroom hnode, Option.any_some, decide_eq_true_iff]

/-- In the first room, one node goes silent after it has published a stream, and the other one reports
once more.  Decisions about the silent node follow.  The second room goes silent altogether. -/
def quieting : List (Request Float) :=
  [.join "r" "a" "a" ⟨false, 0, 0⟩ none none 0, .join "r" "b" "b" ⟨true, 0, 3⟩ none none 0,
    .join "q" "c" "c" ⟨false, 0, 0⟩ none none 0, .publish "r" "a" "s" .audio,
    .report "r" "b" Load.zero 10000000000, .evaluate "r" "a", .rebalance "r", .rebalance "q"]

/-- The second room is gone, and the first one keeps the node that reported within the window. -/
theorem evict_takes_overdue_quieting :
    (Policy.standard : Policy Float).staleAfter = some 15000000000 ∧
      15000000000 ≤ longestWindow ∧
      firstInstant ≤ 20000000000 - ((15000000000 : Span) : Int) ∧
      ∃ eviction after, ((new Policy.standard).run quieting).evict 20000000000 = .ok eviction ∧
        eviction.hub.rooms.get? "q" = none ∧ eviction.hub.rooms.get? "r" = some after ∧
        after.nodes.contains "a" = false ∧ after.nodes.contains "b" = true ∧
        "q" ∈ eviction.rooms ∧ "r" ∈ eviction.rooms := by
  have hwindow : (Policy.standard : Policy Float).staleAfter = some 15000000000 := by
    decide +kernel
  have hfits : 15000000000 ≤ longestWindow := by decide +kernel
  have hcalendar : firstInstant ≤ 20000000000 - ((15000000000 : Span) : Int) := by decide +kernel
  obtain ⟨-, eviction, hevict, hexact⟩ :=
    evict_takes_overdue Policy.standard quieting hwindow hfits hcalendar
  have hfirst : (((new Policy.standard).run quieting).rooms.get? "r").map
      (fun room => room.nodes.keys) = some ["a", "b"] := by decide +kernel
  have hsecond : (((new Policy.standard).run quieting).rooms.get? "q").map
      (fun room => room.nodes.keys) = some ["c"] := by decide +kernel
  obtain ⟨first, hr, hfirstKeys⟩ := Option.map_eq_some_iff.1 hfirst
  obtain ⟨second, hq, hsecondKeys⟩ := Option.map_eq_some_iff.1 hsecond
  have ha : "a" ∈ first.nodes.keys := by simp [hfirstKeys]
  have hb : "b" ∈ first.nodes.keys := by simp [hfirstKeys]
  have hc : "c" ∈ second.nodes.keys := by simp [hsecondKeys]
  have hold : overdue quieting (20000000000 - ((15000000000 : Span) : Int)) "r" "a" = true := by
    decide +kernel
  have hall : ∀ id ∈ second.nodes.keys,
      overdue quieting (20000000000 - ((15000000000 : Span) : Int)) "q" id = true := by
    rw [hsecondKeys]
    decide +kernel
  obtain ⟨after, hafter, hcleared⟩ := hexact.cleared hr hb (by decide +kernel)
  refine ⟨hwindow, hfits, hcalendar, eviction, after, hevict, hexact.emptied hq hc hall, hafter,
    ?_, ?_, ?_, ?_⟩
  · refine Bool.eq_false_iff.2 fun hstays => ?_
    rw [((hcleared.contains_node "a").1 hstays).2] at hold
    exact Bool.false_ne_true hold
  · exact (hcleared.contains_node "b").2
      ⟨Table.contains_iff.2 (Table.mem_keys.1 hb), by decide +kernel⟩
  · exact (hexact.mem_rooms "q").2 ⟨second, "c", hq, hc, hall "c" hc⟩
  · exact (hexact.mem_rooms "r").2 ⟨first, "a", hr, ha, hold⟩

end Hub

end RelayMesh
