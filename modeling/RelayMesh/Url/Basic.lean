import RelayMesh.Url.Host

/-!
# Addresses with a scheme

`Url.read?` gives the parts of an address such as
`https://user@example.org:8080/path?query#fragment` that say where it leads,
and its query.  Padding at the ends and tabs and line breaks anywhere do not
count.  What follows the scheme depends on its family (`Url.Family`):

* a scheme of the web always has a host, after any number of slashes;
* a file has a host only after two slashes, and may leave it out;
* any other scheme has a host only after two slashes; it may be empty where
  neither a user nor a port is given.

Who the user is, the path and the fragment are not kept.
-/

namespace RelayMesh

/-- The parts of an address. -/
structure Url where
  /-- The scheme, in lower case. -/
  scheme : String
  host : Option Url.Host := none
  port : Option Nat := none
  /-- The query, which is empty where there is none. -/
  query : String := ""
deriving Repr, DecidableEq

namespace Url

open Text

/-! ## Families of schemes -/

/-- What the form of an address depends on. -/
inductive Family where
  | web
  | file
  | other
deriving Repr, DecidableEq

/-- The schemes of the web. -/
def webSchemes : List String := ["http", "https", "ws", "wss", "ftp"]

/-- The family of a scheme in lower case. -/
def Family.ofScheme (scheme : String) : Family :=
  if webSchemes.contains scheme then .web else if scheme = "file" then .file else .other

/-- Whether a character counts as a slash. -/
def isSlash (c : Char) : Bool :=
  c = '/' || c = '\\'

/-- Whether a character ends the part of an address that says where it leads. -/
def Family.endsAuthority (family : Family) (c : Char) : Bool :=
  c = '/' || c = '?' || c = '#' || (family != .other && c = '\\')

/-! ## Host and port -/

/-- The port of a text: up to 65535, and none at all where no digit stands.  A backslash ends it. -/
def readPort? (text : List Char) : Option (Option Nat) :=
  let digits := text.takeWhile Char.isDigit
  let rest := text.dropWhile Char.isDigit
  if !rest.isEmpty && rest.head? != some '\\' then none
  else if digits.isEmpty then some none
  else if digitsValue digits < 65536 then some (some (digitsValue digits))
  else none

/-- The part of a text before the first colon that is not in brackets. -/
def beforePort (inBrackets : Bool) : List Char → List Char
  | [] => []
  | ':' :: rest => if inBrackets then ':' :: beforePort inBrackets rest else []
  | '[' :: rest => '[' :: beforePort true rest
  | ']' :: rest => ']' :: beforePort false rest
  | c :: rest => c :: beforePort inBrackets rest

/-- The part of a text before the last at sign, if there is one, and the part after it. -/
def splitUser (text : List Char) : Option (List Char) × List Char :=
  let place := (splitOn '@' text).getLast?.getD []
  if place.length < text.length then (some (text.take (text.length - place.length - 1)), place)
  else (none, place)

/-- Whether a text names a user; a colon alone stands for no name and no password. -/
def isUser (text : List Char) : Bool :=
  text ≠ [] ∧ text ≠ [':']

/-- The port of a text that starts with the colon before it. -/
def readPortAfterColon? : List Char → Option (Option Nat)
  | ':' :: digits => readPort? digits
  | _ => some none

/-- The host and the port of an address of the web. -/
def readWebAuthority? (text : List Char) : Option (Host × Option Nat) := do
  let (_, place) := splitUser text
  let host := beforePort false place
  guard (!host.isEmpty)
  pure (← Host.readDomain? host, ← readPortAfterColon? (place.drop host.length))

/-- Whether a text is the letter of a drive, which takes the place of the host of a file. -/
def isDrive : List Char → Bool
  | [letter, mark] => letter.isAlpha && (mark = ':' || mark = '|')
  | _ => false

/-- The host of a file. -/
def readFileAuthority? (text : List Char) : Option (Option Host) :=
  if text.isEmpty || isDrive text then some none else (Host.readDomain? text).map some

/-- The host and the port of an address of no special scheme.  An at sign with nothing around it is
refused where something follows the text. -/
def readOtherAuthority? (text : List Char) (isLast : Bool) :
    Option (Option Host × Option Nat) := do
  let (user, place) := splitUser text
  let host := beforePort false place
  if host.isEmpty then
    guard (place.isEmpty && !user.any isUser && (isLast || user != some []))
    pure (none, none)
  else
    pure (some (← Host.readPlain? host), ← readPortAfterColon? (place.drop host.length))

/-- The host and the port of what follows the colon after a scheme. -/
def readAuthority? (family : Family) (text : List Char) : Option (Option Host × Option Nat) :=
  let authority := (·.takeWhile (fun c => !family.endsAuthority c))
  match family, text with
  | .web, _ => (readWebAuthority? (authority (text.dropWhile isSlash))).map
    (fun (host, port) => (some host, port))
  | .file, a :: b :: rest =>
    if isSlash a && isSlash b then (readFileAuthority? (authority rest)).map (·, none)
    else some (none, none)
  | .other, '/' :: '/' :: rest =>
    readOtherAuthority? (authority rest) ((authority rest).length = rest.length)
  | _, _ => some (none, none)

/-! ## The whole address -/

/-- Whether a character is a control character or a space, which do not count at the ends. -/
def isPadding (c : Char) : Bool :=
  c.toNat ≤ 0x20

/-- A text without what does not count: padding at its ends, and tabs and line breaks. -/
def clean (text : List Char) : List Char :=
  (((text.dropWhile isPadding).reverse.dropWhile isPadding).reverse).filter
    (fun c => c ≠ '\t' ∧ c ≠ '\n' ∧ c ≠ '\r')

/-- Whether a text is a scheme: a letter, and then letters, digits, plus signs, hyphens and
points. -/
def isScheme (text : List Char) : Bool :=
  text.head?.any Char.isAlpha &&
    text.all (fun c => c.isAlphanum || ['+', '-', '.'].contains c)

/-- The query of what follows a scheme: from the first question mark to the fragment. -/
def queryOf (text : List Char) : List Char :=
  ((text.takeWhile (· ≠ '#')).dropWhile (· ≠ '?')).drop 1

/-- The parts of the address that a text gives, if it gives one. -/
def read? (text : List Char) : Option Url := do
  let text := clean text
  let scheme := text.takeWhile (· ≠ ':')
  guard (isScheme scheme && scheme.length < text.length)
  let scheme := String.ofList (scheme.map Char.toLower)
  let rest := (text.dropWhile (· ≠ ':')).drop 1
  let (host, port) ← readAuthority? (Family.ofScheme scheme) rest
  pure { scheme, host, port, query := String.ofList (queryOf rest) }

end Url

end RelayMesh
