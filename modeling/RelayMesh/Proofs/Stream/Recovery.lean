import Mathlib.Data.List.Chain
import Mathlib.Data.List.DropRight
import RelayMesh.Stream.Buffer

/-!
# Packets that a receiver has missed

A receiver that has a packet asks the buffer for what came after it.  The
packets are numbered by integers, of which they carry the lowest 16 bits, so a
number comes round again after 65536 packets.

* `packets_pushAll` says what the buffer holds: of the packets that were pushed,
  the last ones.
* `follows_ofInt_iff` is the arithmetic of one comparison: numbers that are less
  than half of the circle apart are compared as the integers are.
* `since_recovers` puts them together.  `Consecutive.natAbs_sub_lt` shows that a
  buffer of consecutive packets that is not too large never exceeds half of the
  circle.
-/

namespace RelayMesh

/-- A packet under its full number. -/
structure Numbered where
  number : Int
  payload : Payload
deriving Repr, DecidableEq

namespace Numbered

/-- The packet as it is sent, with the lowest 16 bits of its number. -/
def packet (numbered : Numbered) : Packet :=
  ⟨UInt16.ofInt numbered.number, numbered.payload⟩

/-- Each packet has the number that comes after the number of the packet before it. -/
def Consecutive (sent : List Numbered) : Prop :=
  sent.IsChain (fun earlier later => later.number = earlier.number + 1)

instance (sent : List Numbered) : Decidable (Consecutive sent) :=
  inferInstanceAs (Decidable (sent.IsChain _))

end Numbered

namespace PacketBuffer

/-! ## What a buffer holds -/

/-- Adds packets one after the other. -/
def pushAll (buffer : PacketBuffer) (packets : List Packet) : PacketBuffer :=
  packets.foldl push buffer

theorem packets_push (buffer : PacketBuffer) (packet : Packet) :
    (buffer.push packet).packets = (buffer.packets ++ [packet]).rtake buffer.capacity := by
  have hpos := buffer.capacity_pos
  have hkeeps : buffer.packets.length + 1 - buffer.capacity - buffer.packets.length = 0 := by omega
  rw [List.rtake, List.drop_append, List.length_append, List.length_singleton, hkeeps]
  rfl

theorem capacity_pushAll (buffer : PacketBuffer) (packets : List Packet) :
    (buffer.pushAll packets).capacity = buffer.capacity := by
  induction packets generalizing buffer with
  | nil => rfl
  | cons packet rest ih => exact ih (buffer.push packet)

/-- Of the last packets, one more pushes the first one out. -/
theorem rtake_rtake_concat {α : Type} (list : List α) (x : α) {count : Nat} (hpos : 0 < count) :
    (list.rtake count ++ [x]).rtake count = (list ++ [x]).rtake count := by
  obtain ⟨count, rfl⟩ := Nat.exists_eq_succ_of_ne_zero (Nat.ne_of_gt hpos)
  rw [List.rtake_concat_succ, List.rtake_concat_succ]
  simp only [List.rtake, List.drop_drop, List.length_drop]
  congr 2
  omega

/-- A buffer holds the packets that were pushed last, as many as it has room for. -/
theorem packets_pushAll (capacity : Nat) (packets : List Packet) :
    ((ofCapacity capacity).pushAll packets).packets = packets.rtake (max capacity 1) := by
  induction packets using List.reverseRecOn with
  | nil => exact (List.drop_nil ..).symm
  | append_singleton packets packet ih =>
    have hpush : (ofCapacity capacity).pushAll (packets ++ [packet]) =
        ((ofCapacity capacity).pushAll packets).push packet := List.foldl_concat ..
    have hcapacity := capacity_pushAll (ofCapacity capacity) packets
    rw [hpush, packets_push, ih, hcapacity]
    exact rtake_rtake_concat packets packet (Nat.lt_of_lt_of_le Nat.one_pos (Nat.le_max_right ..))

/-! ## Numbers that are less than half of the circle apart -/

theorem toNat_ofInt_sub (number reference : Int) :
    ((UInt16.ofInt number - UInt16.ofInt reference).toNat : Int) =
      (number - reference) % 65536 := by
  rw [UInt16.toNat_sub]
  simp only [UInt16.ofInt, UInt16.toNat_ofNat']
  omega

theorem follows_ofInt_iff {number reference : Int} (hnear : (number - reference).natAbs ≤ 32766) :
    follows (UInt16.ofInt number) (UInt16.ofInt reference) = true ↔ reference < number := by
  have hahead := toNat_ofInt_sub number reference
  rw [follows, Bool.and_eq_true, decide_eq_true_eq, decide_eq_true_eq, ne_eq,
    ← UInt16.toNat_inj, UInt16.lt_iff_toNat_lt]
  generalize (UInt16.ofInt number - UInt16.ofInt reference).toNat = ahead at hahead ⊢
  have hzero : (0 : UInt16).toNat = 0 := rfl
  have hhalf : (32767 : UInt16).toNat = 32767 := rfl
  rw [hzero, hhalf]
  omega

end PacketBuffer

/-! ## Consecutive packets -/

namespace Numbered

variable {sent older newer : List Numbered} {numbered : Numbered}

/-- The numbers of consecutive packets are as far apart as their places. -/
theorem Consecutive.number_getElem (h : Consecutive sent) (i : Nat) (hi : i < sent.length) :
    sent[i].number = sent[0].number + i := by
  induction i with
  | zero => simp
  | succ i ih =>
    have hnext := List.isChain_iff_getElem.1 h i hi
    rw [hnext, ih (Nat.lt_of_succ_lt hi)]
    omega

theorem Consecutive.pairwise_lt (h : Consecutive sent) :
    sent.Pairwise (fun earlier later => earlier.number < later.number) := by
  rw [List.pairwise_iff_getElem]
  intro i j hi hj hlt
  rw [h.number_getElem i hi, h.number_getElem j hj]
  omega

/-- Consecutive packets are less far apart than there are packets. -/
theorem Consecutive.natAbs_sub_lt (h : Consecutive sent) {a b : Numbered} (ha : a ∈ sent)
    (hb : b ∈ sent) : (a.number - b.number).natAbs < sent.length := by
  obtain ⟨i, hi, rfl⟩ := List.getElem_of_mem ha
  obtain ⟨j, hj, rfl⟩ := List.getElem_of_mem hb
  rw [h.number_getElem i hi, h.number_getElem j hj]
  omega

/-- Of consecutive packets, those with a greater number than one of them come after it. -/
theorem Consecutive.filter_lt (h : Consecutive (older ++ numbered :: newer)) :
    (older ++ numbered :: newer).filter (fun other => numbered.number < other.number) = newer := by
  obtain ⟨-, hlater, hbefore⟩ := List.pairwise_append.1 h.pairwise_lt
  obtain ⟨hafter, -⟩ := List.pairwise_cons.1 hlater
  have hnone : older.filter (fun other => numbered.number < other.number) = [] := by
    rw [List.filter_eq_nil_iff]
    intro other hother
    have hlt := hbefore other hother numbered (List.mem_cons_self ..)
    simp [Int.le_of_lt hlt]
  have hall : newer.filter (fun other => numbered.number < other.number) = newer := by
    rw [List.filter_eq_self]
    intro other hother
    simp [hafter other hother]
  rw [List.filter_append, List.filter_cons_of_neg (by simp), hnone, hall, List.nil_append]

end Numbered

/-! ## Recovery -/

namespace PacketBuffer

open Numbered

/-- What a buffer returns for a receiver that has a packet.  It holds the packets that were pushed
last.  As long as their numbers are less than half of the circle away from a reference, in any
order and with any gaps and repeats, those with greater numbers are returned, in the order of the
buffer.  In particular, if consecutive packets are pushed into a buffer of less than half of the
circle, then for each packet that it holds those are returned that were pushed after it. -/
theorem since_recovers (capacity : Nat) (sent : List Numbered) :
    let buffer := (ofCapacity capacity).pushAll (sent.map packet)
    let held := sent.rtake (max capacity 1)
    buffer.packets = held.map packet ∧
      (∀ reference : Int,
        (∀ numbered ∈ held, (numbered.number - reference).natAbs ≤ 32766) →
        buffer.since (UInt16.ofInt reference) =
          (held.filter (fun numbered => reference < numbered.number)).map packet) ∧
      (Consecutive sent → capacity ≤ 32767 → ∀ older numbered newer,
        held = older ++ numbered :: newer →
        buffer.since numbered.packet.sequence = newer.map packet) := by
  intro buffer held
  have hpackets : buffer.packets = held.map packet := by
    rw [packets_pushAll, List.rtake, List.length_map, ← List.map_drop, ← List.rtake]
  have hsince : ∀ reference : Int,
      (∀ numbered ∈ held, (numbered.number - reference).natAbs ≤ 32766) →
      buffer.since (UInt16.ofInt reference) =
        (held.filter (fun numbered => reference < numbered.number)).map packet := by
    intro reference hnear
    rw [since, hpackets, List.filter_map]
    refine congrArg (List.map packet) (List.filter_congr fun numbered hmem => ?_)
    rw [Bool.eq_iff_iff, decide_eq_true_eq]
    exact follows_ofInt_iff (hnear numbered hmem)
  refine ⟨hpackets, hsince, fun hconsecutive hcapacity older numbered newer hheld => ?_⟩
  have hkept : Consecutive held := hconsecutive.drop _
  have hlength : held.length ≤ 32767 := by
    have hrest : held.length = sent.length - (sent.length - max capacity 1) := List.length_drop
    omega
  have hmem : numbered ∈ held := by simp [hheld]
  have hnear : ∀ other ∈ held, (other.number - numbered.number).natAbs ≤ 32766 := by
    intro other hother
    have hlt := hkept.natAbs_sub_lt hother hmem
    omega
  have hnewer := hsince numbered.number hnear
  rw [hheld] at hkept
  rw [hheld, hkept.filter_lt] at hnewer
  exact hnewer

/-- Packets around the end of the circle, with a gap, out of order, and one of them twice. -/
def scattered : List Numbered :=
  [⟨1, [0]⟩, ⟨65534, [1]⟩, ⟨65537, [2]⟩, ⟨65535, [3]⟩, ⟨65537, [4]⟩, ⟨65536, [5]⟩]

/-- Four packets in a row, of which the last two are beyond the end of the circle. -/
def consecutive : List Numbered :=
  [⟨65534, [0]⟩, ⟨65535, [1]⟩, ⟨65536, [2]⟩, ⟨65537, [3]⟩]

theorem since_recovers_scattered :
    (∀ numbered ∈ scattered.rtake (max 5 1), (numbered.number - 65535).natAbs ≤ 32766) ∧
      ((ofCapacity 5).pushAll (scattered.map packet)).since (UInt16.ofInt 65535) =
        [⟨1, [2]⟩, ⟨1, [4]⟩, ⟨0, [5]⟩] ∧
      Consecutive consecutive ∧
      consecutive.rtake (max 3 1) =
        [] ++ ⟨65535, [1]⟩ :: [⟨65536, [2]⟩, ⟨65537, [3]⟩] ∧
      ((ofCapacity 3).pushAll (consecutive.map packet)).since (UInt16.ofInt 65535) =
        [⟨0, [2]⟩, ⟨1, [3]⟩] := by
  have hnear : ∀ numbered ∈ scattered.rtake (max 5 1),
      (numbered.number - 65535).natAbs ≤ 32766 := by decide
  have hrow : Consecutive consecutive := by decide
  have hheld : consecutive.rtake (max 3 1) =
      [] ++ ⟨65535, [1]⟩ :: [⟨65536, [2]⟩, ⟨65537, [3]⟩] := by decide
  have hscattered := (since_recovers 5 scattered).2.1 65535 hnear
  have hconsecutive := (since_recovers 3 consecutive).2.2 hrow (by decide) _ _ _ hheld
  refine ⟨hnear, hscattered.trans ?_, hrow, hheld, hconsecutive.trans ?_⟩
  · decide
  · decide

end PacketBuffer

end RelayMesh
