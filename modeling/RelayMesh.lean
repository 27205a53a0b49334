import RelayMesh.Table
import RelayMesh.Text.Blank
import RelayMesh.Text.Hex
import RelayMesh.Text.Numeral
import RelayMesh.Json.Shape
import RelayMesh.Time.Span
import RelayMesh.Time.Timestamp
import RelayMesh.Scalar
import RelayMesh.Error
import RelayMesh.Media
import RelayMesh.Load
import RelayMesh.Codec.Reframing
import RelayMesh.Codec.Preference
import RelayMesh.Settings
import RelayMesh.Stream.Basic
import RelayMesh.Selection
import RelayMesh.Room.Basic
import RelayMesh.Hub.Health
import RelayMesh.Session.Lifecycle
import RelayMesh.Link.Basic
import RelayMesh.Wire.Views
import RelayMesh.Message.Inbound
import RelayMesh.Server.Handling
import RelayMesh.Server.Pages
import RelayMesh.Main
import RelayMesh.Proofs.Hub.Cap
import RelayMesh.Proofs.Room.Relation
import RelayMesh.Proofs.Room.Assigning
import RelayMesh.Proofs.Run
import RelayMesh.Proofs.Hub.Run
import RelayMesh.Proofs.Hub.Relation
import RelayMesh.Proofs.Wire
import RelayMesh.Proofs.Hub.Nodes
import RelayMesh.Proofs.Server.Standing
import RelayMesh.Proofs.Server.Ownership
import RelayMesh.Proofs.Server.Run
import RelayMesh.Proofs.Server.Informed
import RelayMesh.Proofs.Room.Admission
import RelayMesh.Proofs.Hub.Vacancy
import RelayMesh.Proofs.Hub.Tenants
import RelayMesh.Proofs.Server.Stages
import RelayMesh.Proofs.Server.Roll
import RelayMesh.Proofs.Server.Accounted
import RelayMesh.Proofs.Server.Routing
import RelayMesh.Proofs.Room.Incumbency
import RelayMesh.Proofs.Room.Settling
import RelayMesh.Proofs.Room.Placement
import RelayMesh.Proofs.Hub.Settling
import RelayMesh.Proofs.Hub.Rest
import RelayMesh.Proofs.Hub.Mending
import RelayMesh.Proofs.Server.Superseded
import RelayMesh.Proofs.Server.Refusal
import RelayMesh.Proofs.Session.Replay
import RelayMesh.Proofs.Server.Paths
import RelayMesh.Proofs.Hub.Stray
import RelayMesh.Proofs.Link.Closing
import RelayMesh.Proofs.Server.Register
import RelayMesh.Proofs.Json.Reading
import RelayMesh.Proofs.Json.Shape
import RelayMesh.Proofs.Room.Departure
import RelayMesh.Proofs.Text.ByteOrder
import RelayMesh.Proofs.Selection.Coverage
import RelayMesh.Proofs.Scalar.Rounding
import RelayMesh.Proofs.Selection.Worsening
import RelayMesh.Proofs.Hub.Reevaluation
import RelayMesh.Proofs.Stream.Recovery
import RelayMesh.Proofs.Stream.Content
import RelayMesh.Proofs.Hub.Reporting
import RelayMesh.Proofs.Hub.Retention
import RelayMesh.Proofs.Room.Clearance
import RelayMesh.Proofs.Hub.Eviction
import RelayMesh.Proofs.Hub.Liveness
import RelayMesh.Proofs.Codec.Reframing
import RelayMesh.Proofs.Codec.Preference
import RelayMesh.Proofs.Json.Grammar
import RelayMesh.Proofs.Message.Grammar
import RelayMesh.Proofs.Selection.Range
import RelayMesh.Proofs.Hub.Watch
import RelayMesh.Proofs.Link.Resolution
import RelayMesh.Proofs.Wire.Recoding
import RelayMesh.Proofs.Codec.Counting
