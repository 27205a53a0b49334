import RelayMesh.Json.Shape
import RelayMesh.Load

/-!
# Load reports and capabilities in JSON

A report must be complete except for its timestamp; of the capabilities every
part may be missing.
-/

namespace RelayMesh

open Json

namespace Timestamp

/-- A point in time as a JSON value. -/
def toJson (timestamp : Timestamp) : Value :=
  .string timestamp.text

/-- The shape of a point in time. -/
def shape : Shape Timestamp :=
  fun document => (Shape.text document).bind Timestamp.parse

end Timestamp

/-- The first number that a count of streams or milliseconds cannot be. -/
def countBound : Nat := UInt32.size

namespace Capabilities

/-- Capabilities as a JSON value. -/
def toJson (capabilities : Capabilities Float) : Value :=
  .record [("can_forward", .bool capabilities.canForward),
    ("min_bandwidth_mbps", .real capabilities.minBandwidth),
    ("max_forwarding_streams", .int capabilities.maxStreams)]

/-- The shape of capabilities. -/
def shape : Shape (Capabilities Float) := fun document => do
  match ← document.fields? ["can_forward", "min_bandwidth_mbps", "max_forwarding_streams"] with
  | [canForward, minBandwidth, maxStreams] =>
    pure ⟨← withDefault false Shape.flag canForward, ← withDefault 0 Shape.real minBandwidth,
      ← withDefault 0 (Shape.natural countBound) maxStreams⟩
  | _ => .none

end Capabilities

namespace Load

/-- A report as a JSON value. -/
def toJson (load : Load Float) : Value :=
  .record ([("bandwidth_mbps", .real load.bandwidth),
      ("cpu_usage_percent", .real load.cpuPercent),
      ("memory_usage_percent", .real load.memoryPercent),
      ("rtt_ms", .int load.rttMillis),
      ("packet_loss_percent", .real load.lossPercent)] ++
    load.timestamp.toList.map (fun timestamp => ("timestamp", timestamp.toJson)))

/-- The shape of a report. -/
def shape : Shape (Load Float) := fun document => do
  match ← document.fields? ["bandwidth_mbps", "cpu_usage_percent", "memory_usage_percent",
      "rtt_ms", "packet_loss_percent", "timestamp"] with
  | [bandwidth, cpu, memory, rtt, loss, timestamp] =>
    pure
      { bandwidth := ← required Shape.real bandwidth
        cpuPercent := ← required Shape.real cpu
        memoryPercent := ← required Shape.real memory
        rttMillis := ← required (Shape.natural countBound) rtt
        lossPercent := ← required Shape.real loss
        timestamp := ← withDefault none (Shape.map some Timestamp.shape) timestamp }
  | _ => none

end Load

end RelayMesh
