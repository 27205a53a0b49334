import RelayMesh.Scalar
import RelayMesh.Time.Span
import RelayMesh.Time.Timestamp

/-!
# Load reports and capabilities

A node states once what it is able to do (`Capabilities`) and reports
regularly how busy it is (`Load`).  A node may relay only while it passes
the gate `Capabilities.allows`.
-/

namespace RelayMesh

/-- What a node is able to do. -/
structure Capabilities (α : Type) where
  canForward : Bool
  /-- The bandwidth in Mbit/s below which the node does not relay. -/
  minBandwidth : α
  maxStreams : Nat
deriving Repr, Inhabited

/-- A report of how busy a node is. -/
structure Load (α : Type) where
  /-- Mbit/s. -/
  bandwidth : α
  cpuPercent : α
  memoryPercent : α
  rttMillis : Nat
  lossPercent : α
  /-- The reporter's own clock, if it gave one. -/
  timestamp : Option Timestamp := none
deriving Repr, Inhabited

variable {α : Type} [Scalar α]

/-- The capabilities of a node that stated none. -/
def Capabilities.none : Capabilities α :=
  ⟨false, 0, 0⟩

/-- The report of a node that has not reported yet. -/
def Load.zero : Load α :=
  { bandwidth := 0, cpuPercent := 0, memoryPercent := 0, rttMillis := 0, lossPercent := 0 }

namespace Load

/-- The round-trip time. -/
def latency (load : Load α) : Span :=
  Span.ofMillis load.rttMillis

/-- The mean of one part for the round-trip time and one for the packet loss.  A part falls from
one to zero as the round-trip time grows to 200 ms and the loss to 10 percent. -/
def networkScore (load : Load α) : α :=
  let rtt := 1 - Scalar.atMostOne (Scalar.ofNat load.rttMillis / 200)
  let loss := 1 - Scalar.atMostOne (load.lossPercent / 10)
  (rtt + loss) / 2

end Load

/-- The gate for relaying: the node is willing, its bandwidth suffices, and it is not too busy. -/
def Capabilities.allows (capabilities : Capabilities α) (load : Load α)
    (maxCpu maxMemory : α) : Bool :=
  capabilities.canForward &&
    decide (capabilities.minBandwidth ≤ load.bandwidth) &&
    decide (load.cpuPercent ≤ maxCpu) &&
    decide (load.memoryPercent ≤ maxMemory)

/-- The share of the processor above which a node does not relay by default. -/
def defaultMaxCpu : α := 80

/-- The share of memory above which a node does not relay by default. -/
def defaultMaxMemory : α := 85

end RelayMesh
