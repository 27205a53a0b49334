import RelayMesh.Server.Basic
import RelayMesh.Server.Target
import RelayMesh.Wire.Views

/-!
# Debug pages

Two pages show the rooms and the sessions.  They can be read only, and one
slash may follow their paths.  A request whose method or target is malformed
has no response.
-/

namespace RelayMesh

open Json

/-- The content of a response. -/
inductive Body where
  | json (value : Value)
  | text (text : String)

/-- A response to a request for a page. -/
structure Response where
  status : Nat
  body : Body

/-- A debug page. -/
inductive Page where
  | rooms
  | sessions
deriving Repr, DecidableEq

namespace Page

/-- The pages. -/
def all : List Page := [rooms, sessions]

/-- The path of a page. -/
def path : Page → String
  | rooms => "/debug/rooms"
  | sessions => "/debug/sessions"

/-- The page that a target asks for. -/
def ofTarget : Target → Option Page
  | .path path => all.find? (fun page => path = page.path || path = page.path ++ "/")
  | .server => none

end Page

namespace Server

/-- The content of a page. -/
def page (server : Server) : Page → Value
  | .rooms => .array (server.hub.view.map RoomView.toJson)
  | .sessions => server.lifecycle.summary.toJson

/-- The response to a request, if it is well formed. -/
def respond (server : Server) (method target : String) : Option Response := do
  guard (isMethod method)
  match Page.ofTarget (← Target.read target) with
  | none => pure ⟨404, .text ""⟩
  | some page =>
    if method = "GET" then pure ⟨200, .json (server.page page)⟩
    else pure ⟨405, .text "HTTP method not allowed"⟩

end Server

end RelayMesh
