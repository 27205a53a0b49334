import RelayMesh.Text.Blank

/-!
# Request targets

What a request asks for, as it is written.  A target is a path, which may
stand behind a scheme and an authority; or it is an authority alone or a star,
which ask for nothing that has a path.  The query and the fragment of a path
are dropped.

`Target.read` is `none` for a text that is no target, and `isMethod` tells
which words can name the method of a request.  A request with a text of any
other form cannot be made.
-/

namespace RelayMesh

/-- Whether a text can be the name of a request's method. -/
def isMethod (name : String) : Bool :=
  !name.isEmpty && name.toList.all (fun c => c.isAlphanum || "!*+-.^_\x60|~".toList.contains c)

/-- What a request asks for. -/
inductive Target where
  /-- A path, without its query. -/
  | path (path : String)
  /-- The server as a whole. -/
  | server
deriving Repr, DecidableEq

namespace Target

/-- Whether a character may stand in a path. -/
def isPathChar (c : Char) : Bool :=
  c.isAlphanum || "!\"$%&'()*+,-./:;=@[\\]^_\x7b|\x7d~".toList.contains c

/-- Whether a character may stand in a query. -/
def isQueryChar (c : Char) : Bool :=
  let n := c.toNat
  0x21 ≤ n && n ≤ 0x7E && c != '"' && c != '#' && c != '<' && c != '>'

/-- The path of a text that starts with one; an empty path is a slash. -/
def readPath (text : List Char) : Option Target :=
  let text := text.takeWhile (· ≠ '#')
  let path := text.takeWhile (· ≠ '?')
  let query := (text.dropWhile (· ≠ '?')).drop 1
  if path.all isPathChar ∧ query.all (fun c => isQueryChar c) then
    some (.path (if path.isEmpty then "/" else String.ofList path))
  else none

/-- What has been seen of an authority. -/
structure AuthorityScan where
  /-- The colons that are not part of a user's name or of a bracket. -/
  colons : Nat := 0
  /-- Whether a bracket was opened. -/
  opened : Bool := false
  /-- Whether a bracket was closed. -/
  closed : Bool := false
  /-- Whether there is a percent sign that is not part of a user's name or of a bracket. -/
  percent : Bool := false
deriving Repr, DecidableEq

/-- What has been seen after one more character; `none` where it may not stand. -/
def AuthorityScan.step (seen : AuthorityScan) (c : Char) : Option AuthorityScan :=
  match c with
  | ':' => if seen.colons < 8 then some { seen with colons := seen.colons + 1 } else none
  | '[' => if seen.percent || seen.opened then none else some { seen with opened := true }
  | ']' =>
    if !seen.opened || seen.closed then none
    else some { seen with closed := true, colons := 0, percent := false }
  | '@' => some { seen with colons := 0, percent := false }
  | '%' => some { seen with percent := true }
  | _ => if c.isAlphanum || "!$&'()*+,-.;=_~".toList.contains c then some seen else none

/-- Whether a text is an authority: a host with an optional port, perhaps behind a user's name. -/
def isAuthority (text : List Char) : Bool :=
  match text.foldlM AuthorityScan.step {} with
  | none => false
  | some seen =>
    seen.opened == seen.closed && seen.colons ≤ 1 && !seen.percent && text.getLast? != some '@'

/-- The characters that may stand in a scheme. -/
def isSchemeChar (c : Char) : Bool :=
  c.isAlphanum || ['+', '-', '.', '~'].contains c

/-- The length of the scheme of a text, if it has one. -/
def schemeLength? (text : List Char) : Option Nat :=
  let scheme := text.takeWhile isSchemeChar
  if "://".toList.isPrefixOf (text.drop scheme.length) then some scheme.length else none

/-- Whether a character ends an authority. -/
def endsAuthority (c : Char) : Bool :=
  ['/', '?', '#'].contains c

/-- The greatest number of bytes of a target. -/
def maxSize : Nat := 65534

/-- The greatest length of a scheme. -/
def maxSchemeLength : Nat := 64

/-- The target that a text gives, if it gives one. -/
def read (text : String) : Option Target :=
  if maxSize < text.utf8ByteSize then none
  else
    match text.toList with
    | [] => none
    | ['*'] => some .server
    | '/' :: rest => readPath ('/' :: rest)
    | chars =>
      match schemeLength? chars with
      | none => if isAuthority chars then some .server else none
      | some length =>
        let rest := chars.drop (length + 3)
        let authority := rest.takeWhile (fun c => !endsAuthority c)
        if length ≤ maxSchemeLength ∧ !authority.isEmpty ∧ isAuthority authority then
          readPath (rest.drop authority.length)
        else none

end Target

end RelayMesh
