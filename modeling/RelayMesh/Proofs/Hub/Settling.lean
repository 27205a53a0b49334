import RelayMesh.Proofs.Hub.Vacancy
import RelayMesh.Proofs.Room.Settling

/-!
# Passes over the room of a hub

A hub that is asked for nothing but passes over one room comes to rest: after
finitely many of them, a pass reports no changes, and no later one does.
-/

namespace RelayMesh

namespace Hub

open Filter

variable {α : Type} [Scalar α] {hub : Hub α} {roomId : String} {room : Room α}

/-- Repeated passes of the hub are the passes over the room. -/
theorem run_rebalance (hroom : hub.rooms.get? roomId = some room) (count : Nat) :
    (hub.run (List.replicate count (.rebalance roomId))).policy = hub.policy ∧
      (hub.run (List.replicate count (.rebalance roomId))).rooms.get? roomId =
        some (room.passes hub.policy count) := by
  induction count with
  | zero => exact ⟨rfl, hroom⟩
  | succ count ih =>
    obtain ⟨hpolicy, hget⟩ := ih
    have hrun : hub.run (List.replicate (count + 1) (.rebalance roomId)) =
        (hub.run (List.replicate count (.rebalance roomId))).step (.rebalance roomId) := by
      rw [List.replicate_succ', run, List.foldl_append]
      rfl
    have hstep : hub.run (List.replicate (count + 1) (.rebalance roomId)) =
        (hub.run (List.replicate count (.rebalance roomId))).withRoom roomId
          (room.passes hub.policy (count + 1)) := by
      rw [hrun, step, rebalance_of_get? hget, settle, hpolicy]
      rfl
    rw [hstep]
    exact ⟨hpolicy, get?_withRoom_self ..⟩

/-- If nothing but passes happens to a room, then from some pass on no pass changes anything. -/
theorem rebalance_settles (hroom : hub.rooms.get? roomId = some room)
    (horder : hub.policy.OrdersScores (room.scores hub.policy)) :
    ∃ enough, ∀ count, enough ≤ count → ∃ after,
      (hub.run (List.replicate count (.rebalance roomId))).rebalance roomId = .ok ([], after) := by
  obtain ⟨enough, hquiet⟩ := eventually_atTop.1 (Room.eventually_quiet horder)
  refine ⟨enough, fun count hcount => ?_⟩
  obtain ⟨hpolicy, hget⟩ := run_rebalance hroom count
  rw [rebalance_of_get? hget, hpolicy, hquiet count hcount]
  exact ⟨_, rfl⟩

/-- Three nodes, of which the one with the best report is not the one that relays. -/
def contested : Room Float where
  nodes := Table.ofList [("a", willing .receiver 1), ("b", willing .receiver 10),
    ("c", { willing .hybrid 0 with relaying := IdSet.ofList ["s"] })]
  streams := Table.ofList [("s", { source := "a", media := .audio }),
    ("t", { source := "b", media := .video })]

theorem rebalance_settles_contested :
    ((Hub.new Policy.standard).withRoom "r" contested).rooms.get? "r" = some contested ∧
      Policy.standard.OrdersScores (contested.scores Policy.standard) ∧
      ∃ enough, ∀ count, enough ≤ count → ∃ after,
        (((Hub.new Policy.standard).withRoom "r" contested).run
            (List.replicate count (.rebalance "r"))).rebalance "r" = .ok ([], after) := by
  have hroom :
      ((Hub.new Policy.standard).withRoom "r" contested).rooms.get? "r" = some contested := by
    rw [get?_withRoom, if_pos rfl]
  have horder : Policy.standard.OrdersScores (contested.scores Policy.standard) := by
    constructor
    · decide +kernel
    · decide +kernel
    · decide +kernel
    · decide +kernel
  exact ⟨hroom, horder, rebalance_settles hroom horder⟩

end Hub

end RelayMesh
