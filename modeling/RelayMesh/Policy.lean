import RelayMesh.Scalar
import RelayMesh.Time.Span

/-!
# The relay policy

The limits and weights by which the hub chooses relays, and the times after
which silent nodes are dropped.
-/

namespace RelayMesh

/-- How relays are chosen. -/
structure Policy (α : Type) where
  /-- The most streams that one node relays; zero sets no limit. -/
  maxStreams : Nat
  /-- The bandwidth in Mbit/s that earns the full bandwidth part of a score. -/
  minBandwidth : α
  maxCpu : α
  maxMemory : α
  /-- How often nodes report. -/
  statusInterval : Span
  /-- How often the hub looks for silent nodes. -/
  healthInterval : Span
  /-- What a node that already stands ready to relay gains when it is compared with others. -/
  incumbentBonus : α
deriving Repr, BEq

namespace Policy

variable {α : Type}

/-- The policy of a deployment that sets nothing. -/
def standard [Scalar α] : Policy α where
  maxStreams := 10
  minBandwidth := 2
  maxCpu := 80
  maxMemory := 85
  statusInterval := Span.ofSeconds 5
  healthInterval := Span.ofSeconds 15
  incumbentBonus := 0.05

/-- The first span that is too long: seconds are counted in 64 bits. -/
def spanLimit : Span := Span.ofSeconds UInt64.size

/-- How long a node may be silent: three reports.  `none` when that span is too long to hold. -/
def staleAfter (policy : Policy α) : Option Span :=
  let span := policy.statusInterval * 3
  if span < spanLimit then some span else none

end Policy

end RelayMesh
