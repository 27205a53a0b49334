import RelayMesh.Settings

/-!
# The command line

Two arguments set what the environment sets otherwise: where the server waits
for peers, and the port of the debug pages.  An argument and its value are two
words, or one word with an equals sign between.
-/

namespace RelayMesh.CommandLine

/-- An argument that sets something. -/
inductive Argument where
  | address
  | debugPort
deriving Repr, DecidableEq

/-- The arguments by their names. -/
def arguments : List (String × Argument) :=
  [("--ws-addr", .address), ("--debug-port", .debugPort)]

/-- A line that says how the program is called. -/
def usage : String :=
  "usage: relaymesh [--ws-addr ADDRESS] [--debug-port PORT]"

/-- The settings with one of them set. -/
def set (settings : Settings) (value : String) : Argument → Except String Settings
  | .address => .ok { settings with address := value }
  | .debugPort =>
    match Text.readNatural UInt16.size value.toList with
    | some debugPort => .ok { settings with debugPort }
    | none => .error ("not a port: " ++ value)

/-- A word cut at its first equals sign. -/
def cutAtEquals (word : String) : Option (String × String) :=
  match word.toList.dropWhile (· ≠ '=') with
  | _ :: value => some (String.ofList (word.toList.takeWhile (· ≠ '=')), String.ofList value)
  | [] => none

/-- The settings with what the words of a command line set. -/
def apply (settings : Settings) : List String → Except String Settings
  | [] => .ok settings
  | word :: rest =>
    match cutAtEquals word with
    | some (name, value) =>
      match arguments.lookup name with
      | some argument => (set settings value argument).bind (apply · rest)
      | none => .error usage
    | none =>
      match arguments.lookup word, rest with
      | some argument, value :: rest => (set settings value argument).bind (apply · rest)
      | _, _ => .error usage

end RelayMesh.CommandLine
