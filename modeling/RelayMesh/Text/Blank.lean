/-!
# Blanks, lines and words

Texts are cut as lists of characters.  A blank is a character with the
Unicode property `White_Space`; this set is wider than that of
`Char.isWhitespace`.  `trim` drops blanks from both ends, `words` are the
maximal runs without blanks, and `splitOn` cuts at every occurrence of one
character.
-/

namespace RelayMesh.Text

/-- Whether a character has the property `White_Space`. -/
def isBlank (c : Char) : Bool :=
  let n := c.toNat
  (9 ≤ n && n ≤ 13) || n == 0x20 || n == 0x85 || n == 0xA0 || n == 0x1680 ||
    (0x2000 ≤ n && n ≤ 0x200A) || n == 0x2028 || n == 0x2029 || n == 0x202F ||
    n == 0x205F || n == 0x3000

/-- A text without its leading blanks. -/
def trimStart (text : List Char) : List Char :=
  text.dropWhile isBlank

/-- A text without its leading and trailing blanks. -/
def trim (text : List Char) : List Char :=
  (trimStart (trimStart text).reverse).reverse

/-- The parts of a text between the occurrences of `separator`; there is always at least one. -/
def splitOn (separator : Char) : List Char → List (List Char)
  | [] => [[]]
  | c :: rest =>
    if c = separator then [] :: splitOn separator rest
    else
      match splitOn separator rest with
      | [] => [[c]]
      | part :: parts => (c :: part) :: parts

/-- The lines of a text, without the blanks around them. -/
def trimmedLines (text : List Char) : List (List Char) :=
  (splitOn '\n' text).map trim

/-- The maximal runs of a text that hold no blank. -/
def words (text : List Char) : List (List Char) :=
  (splitOn ' ' (text.map (fun c => if isBlank c then ' ' else c))).filter (fun word => !word.isEmpty)

/-- The first `limit` characters followed by three dots, when the text is longer than that. -/
def preview (text : String) (limit : Nat) : String :=
  if limit < text.length then String.ofList (text.toList.take limit) ++ "..." else text

end RelayMesh.Text
