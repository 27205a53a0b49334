import RelayMesh.Time.Span

/-!
# Causes of failure

One type for every way in which an operation is refused.  `RelayError.message`
is the wording that peers see, and `RelayError.isRecoverable` says which
failures a session survives: those that blame one message and leave the
session usable.
-/

namespace RelayMesh

/-- Why an operation was refused. -/
inductive RelayError where
  /-- The operation needs a live connection. -/
  | notInitialized
  | connectionClosed
  | gatheringTimeout (waited : Span)
  | noCandidates
  | missingLocalDescription
  | invalidDescription (detail : String)
  | ambiguousDescription (detail : String)
  | malformedMessage (detail : String)
  | roomNotFound (room : String)
  | nodeNotFound (node : String)
  | streamNotFound (stream : String)
  /-- A node was asked to relay a stream that it publishes itself. -/
  | selfForwarding (node stream : String)
  | codec (detail : String)
  /-- The bytes of a frame are too many to be counted. -/
  | frameTooLong
  | media (detail : String)
  | webSocket (detail : String)
  | json (detail : String)
  | io (detail : String)
  | addressSyntax
deriving Repr, DecidableEq

namespace RelayError

/-- The wording of a failure. -/
def message : RelayError → String
  | notInitialized => "connection not initialized"
  | connectionClosed => "connection closed"
  | gatheringTimeout waited => "ICE gathering timeout after " ++ waited.text
  | noCandidates => "no ICE candidates generated"
  | missingLocalDescription => "local description is missing"
  | invalidDescription detail => "Invalid session description: " ++ detail
  | ambiguousDescription detail => "Cannot infer description type: " ++ detail
  | malformedMessage detail => "Malformed signaling message: " ++ detail
  | roomNotFound room => "Room " ++ room ++ " not found"
  | nodeNotFound node => "Node " ++ node ++ " not found"
  | streamNotFound stream => "Stream " ++ stream ++ " not found"
  | selfForwarding node stream => "Node " ++ node ++ " cannot forward its own stream " ++ stream
  | codec detail => "Codec error: " ++ detail
  | frameTooLong => "frame too long"
  | media detail => "Media error: " ++ detail
  | webSocket detail => "WebSocket error: " ++ detail
  | json detail => "JSON error: " ++ detail
  | io detail => "IO error: " ++ detail
  | addressSyntax => "Address parse error: invalid socket address syntax"

/-- Whether a session goes on after the failure. -/
def isRecoverable : RelayError → Bool
  | invalidDescription _ | ambiguousDescription _ | malformedMessage _ | roomNotFound _
  | nodeNotFound _ | streamNotFound _ | selfForwarding _ _ | json _ => true
  | _ => false

end RelayError

end RelayMesh
