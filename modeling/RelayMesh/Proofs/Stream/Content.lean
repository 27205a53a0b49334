import RelayMesh.Proofs.Stream.Recovery

/-!
# What a buffer holds after any calls

A buffer is filled by packets of its stream and by packets from the network,
and emptied now and then.  `PacketBuffer.Call` names these operations, and
`lastPushed` cuts out of a list of calls the packets that were pushed since the
buffer was last emptied.

* `packets_step` says what one call does: it lets go of packets at the front and
  adds at most one at the end.
* `packets_run` says what is there after a run: of the packets pushed since the
  last clearing, as many of the last ones as there is room for.
* `reserve?_eq_some_iff` says for which capacities there is a buffer at all.
* `run_holds_last_pushed` puts them together.
-/

namespace RelayMesh.PacketBuffer

/-! ## Calls -/

/-- What changes a buffer. -/
inductive Call where
  | push (packet : Packet)
  | pushRtp (received : RtpPacket)
  | clear
deriving Repr, DecidableEq

/-- The packet that a call brings. -/
def Call.packet? : Call → Option Packet
  | push packet => some packet
  | pushRtp received => some ⟨received.sequence, received.payload⟩
  | clear => none

/-- Whether a call brings a packet. -/
def Call.pushes (call : Call) : Bool :=
  call.packet?.isSome

/-- A buffer after a call. -/
def step (buffer : PacketBuffer) : Call → PacketBuffer
  | .push packet => buffer.push packet
  | .pushRtp received => buffer.pushRtp received
  | .clear => buffer.clear

/-- A buffer after some calls. -/
def run (buffer : PacketBuffer) (calls : List Call) : PacketBuffer :=
  calls.foldl step buffer

/-- The packets that are pushed by the calls after the last one that pushes nothing. -/
def lastPushed (calls : List Call) : List Packet :=
  (calls.rtakeWhile Call.pushes).filterMap Call.packet?

variable {buffer : PacketBuffer} {call : Call} {packet : Packet}

theorem step_of_packet? (h : call.packet? = some packet) : buffer.step call = buffer.push packet := by
  cases call with
  | push | pushRtp => exact congrArg buffer.push (Option.some.inj h)
  | clear => exact nomatch h

theorem packets_step_of_packet?_eq_none (h : call.packet? = none) :
    (buffer.step call).packets = [] := by
  cases call with
  | push | pushRtp => exact nomatch h
  | clear => rfl

theorem capacity_step (buffer : PacketBuffer) (call : Call) :
    (buffer.step call).capacity = buffer.capacity := by
  cases call <;> rfl

/-- A call lets go of the packets at the front, if any, and adds what it brings at the end. -/
theorem packets_step (buffer : PacketBuffer) (call : Call) :
    ∃ gone kept, buffer.packets = gone ++ kept ∧
      (buffer.step call).packets = kept ++ call.packet?.toList := by
  cases h : call.packet? with
  | none =>
    refine ⟨buffer.packets, [], (List.append_nil _).symm, ?_⟩
    rw [packets_step_of_packet?_eq_none h]
    rfl
  | some packet =>
    rw [step_of_packet? h]
    exact ⟨_, _, (List.take_append_drop _ buffer.packets).symm, rfl⟩

/-! ## Runs -/

theorem run_concat (buffer : PacketBuffer) (calls : List Call) (call : Call) :
    buffer.run (calls ++ [call]) = (buffer.run calls).step call :=
  List.foldl_concat ..

theorem capacity_run (buffer : PacketBuffer) (calls : List Call) :
    (buffer.run calls).capacity = buffer.capacity := by
  induction calls using List.reverseRecOn with
  | nil => rfl
  | append_singleton calls call ih => rw [run_concat, capacity_step, ih]

theorem lastPushed_concat_of_packet? (calls : List Call) (h : call.packet? = some packet) :
    lastPushed (calls ++ [call]) = lastPushed calls ++ [packet] := by
  have hpushes : call.pushes = true := by rw [Call.pushes, h, Option.isSome_some]
  rw [lastPushed, List.rtakeWhile_concat_pos _ _ _ hpushes, List.filterMap_append,
    List.filterMap_cons_some h]
  rfl

theorem lastPushed_concat_of_packet?_eq_none (calls : List Call) (h : call.packet? = none) :
    lastPushed (calls ++ [call]) = [] := by
  have hclears : ¬call.pushes = true := by
    rw [Call.pushes, h, Option.isSome_none]
    exact Bool.false_ne_true
  rw [lastPushed, List.rtakeWhile_concat_neg _ _ _ hclears]
  rfl

theorem packets_run (capacity : Nat) (calls : List Call) :
    ((ofCapacity capacity).run calls).packets = (lastPushed calls).rtake (max capacity 1) := by
  induction calls using List.reverseRecOn with
  | nil => exact (List.drop_nil ..).symm
  | append_singleton calls call ih =>
    rw [run_concat]
    cases h : call.packet? with
    | none =>
      rw [packets_step_of_packet?_eq_none h, lastPushed_concat_of_packet?_eq_none calls h]
      exact (List.rtake_nil _).symm
    | some packet =>
      have hcapacity := capacity_run (ofCapacity capacity) calls
      rw [step_of_packet? h, packets_push, ih, hcapacity, lastPushed_concat_of_packet? calls h]
      exact rtake_rtake_concat _ packet (Nat.lt_of_lt_of_le Nat.one_pos (Nat.le_max_right ..))

/-- A new buffer can be made exactly for the capacities that leave the memory of its packets below
`2 ^ 63` bytes. -/
theorem reserve?_eq_some_iff {capacity : Nat} {made : PacketBuffer} :
    reserve? capacity = some made ↔
      max capacity 1 * 48 < Nat.pow 2 63 ∧ made = ofCapacity capacity := by
  have hfits : max capacity 1 * packetSize ≤ maxReserved ↔ max capacity 1 * 48 < Nat.pow 2 63 := by
    rw [packetSize, maxReserved]
    exact Nat.le_sub_one_iff_lt (Nat.two_pow_pos 63)
  rw [reserve?]
  split
  · rename_i hholds
    rw [and_iff_right (hfits.1 hholds), Option.some.injEq, eq_comm]
  · rename_i hfails
    exact iff_of_false (fun h => nomatch h) fun h => hfails (hfits.2 h.1)

/-- What a new buffer holds after any calls.  It is made exactly if the memory of as many packets as
were asked for, and of one at least, stays below `2 ^ 63` bytes, and then it has room for so many.
It holds exactly the last packets that were pushed since it was last emptied, with the sequence
numbers and payloads with which they were pushed and in that order: all of them, or as many as there
is room for.  So it never grows beyond its room, and the packets that a further call lets go are
older than all that it keeps. -/
theorem run_holds_last_pushed (capacity : Nat) (calls : List Call) :
    let buffer := (ofCapacity capacity).run calls
    let pushed := lastPushed calls
    (∀ made, reserve? capacity = some made ↔
        max capacity 1 * 48 < Nat.pow 2 63 ∧ made = ofCapacity capacity) ∧
      buffer.packets = pushed.rtake (min (max capacity 1) pushed.length) ∧
      buffer.size = min (max capacity 1) pushed.length ∧
      buffer.size ≤ max capacity 1 ∧
      ∀ call, ∃ gone kept, buffer.packets = gone ++ kept ∧
        (buffer.step call).packets = kept ++ call.packet?.toList := by
  intro buffer pushed
  have hpackets : buffer.packets = pushed.rtake (min (max capacity 1) pushed.length) := by
    have hdrop : pushed.length - max capacity 1 =
        pushed.length - min (max capacity 1) pushed.length := by omega
    rw [packets_run, List.rtake, List.rtake]
    exact congrArg (fun count => pushed.drop count) hdrop
  have hsize : buffer.size = min (max capacity 1) pushed.length := by
    rw [size, hpackets, List.rtake, List.length_drop]
    omega
  exact ⟨fun _ => reserve?_eq_some_iff, hpackets, hsize, hsize ▸ Nat.min_le_left ..,
    packets_step buffer⟩

/-- A room for two packets, of which a third one pushes out the first, and which is emptied
before the last one. -/
example : ((ofCapacity 2).run [.push ⟨7, [1]⟩, .pushRtp ⟨8, [2]⟩, .push ⟨9, []⟩]).packets =
      [⟨8, [2]⟩, ⟨9, []⟩] ∧
    ((ofCapacity 0).run [.push ⟨7, [1]⟩, .clear, .pushRtp ⟨8, [2]⟩]).packets = [⟨8, [2]⟩] := by
  decide

end RelayMesh.PacketBuffer
