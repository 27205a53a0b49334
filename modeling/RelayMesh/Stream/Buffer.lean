import RelayMesh.Codec.Reframing

/-!
# Packet buffers

A `PacketBuffer` keeps the newest packets of a stream, up to a capacity of at
least one, in the order in which they were pushed.  Sequence numbers have 16
bits and wrap around; `since` returns the packets that follow a sequence
number, which are those less than half of the number circle ahead of it.
`reserve?` refuses a capacity for which no memory can be set aside.
-/

namespace RelayMesh

/-- A packet of a stream. -/
structure Packet where
  sequence : UInt16
  payload : Payload
deriving Repr, DecidableEq, Inhabited

/-- A packet as it comes from the network; of what its header says only the sequence number is
kept. -/
structure RtpPacket where
  sequence : UInt16
  payload : Payload
deriving Repr, DecidableEq, Inhabited

/-- The packet of a stream that a packet from the network brings. -/
def RtpPacket.packet (received : RtpPacket) : Packet :=
  ⟨received.sequence, received.payload⟩

/-- The newest packets of a stream, oldest first. -/
structure PacketBuffer where
  capacity : Nat
  packets : List Packet
  capacity_pos : 0 < capacity
  length_le : packets.length ≤ capacity
deriving Repr, DecidableEq

namespace PacketBuffer

/-- The capacity of a buffer for which none was asked. -/
def defaultCapacity : Nat := 512

/-- A buffer without packets; a capacity of zero counts as one. -/
def ofCapacity (capacity : Nat) : PacketBuffer where
  capacity := max capacity 1
  packets := []
  capacity_pos := by omega
  length_le := Nat.zero_le _

/-- The bytes of memory that a packet takes, its payload apart. -/
def packetSize : Nat := 48

/-- The greatest number of bytes that can be set aside at once. -/
def maxReserved : Nat := Nat.pow 2 63 - 1

/-- A buffer without packets, if the memory for all packets that it may hold can be set aside. -/
def reserve? (capacity : Nat) : Option PacketBuffer :=
  if max capacity 1 * packetSize ≤ maxReserved then some (ofCapacity capacity) else none

instance : Inhabited PacketBuffer := ⟨ofCapacity defaultCapacity⟩

/-- Adds a packet and lets go of the oldest one when the buffer is full. -/
def push (buffer : PacketBuffer) (packet : Packet) : PacketBuffer where
  capacity := buffer.capacity
  packets := buffer.packets.drop (buffer.packets.length + 1 - buffer.capacity) ++ [packet]
  capacity_pos := buffer.capacity_pos
  length_le := by
    have hpos := buffer.capacity_pos
    simp only [List.length_append, List.length_drop, List.length_singleton]
    omega

/-- Adds a packet that came from the network. -/
def pushRtp (buffer : PacketBuffer) (received : RtpPacket) : PacketBuffer :=
  buffer.push received.packet

/-- Forgets all packets. -/
def clear (buffer : PacketBuffer) : PacketBuffer where
  capacity := buffer.capacity
  packets := []
  capacity_pos := buffer.capacity_pos
  length_le := Nat.zero_le _

/-- The number of packets. -/
def size (buffer : PacketBuffer) : Nat :=
  buffer.packets.length

/-- Whether a sequence number follows another one on the number circle. -/
def follows (sequence reference : UInt16) : Bool :=
  let ahead := sequence - reference
  ahead ≠ 0 && ahead < 32767

/-- The packets that follow a sequence number, in the order of the buffer. -/
def since (buffer : PacketBuffer) (reference : UInt16) : List Packet :=
  buffer.packets.filter (fun packet => follows packet.sequence reference)

end PacketBuffer

end RelayMesh
