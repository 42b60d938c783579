import Flagpost.Json.Value
import Flagpost.Text.Hex

/-!
# Flagpost — writing documents

Two layouts of one grammar. `Json.compact` puts no white space anywhere and
is what a client is sent; `Json.pretty` puts each item and each member on a
line of its own, indented by two spaces for each level, and is what is kept
in files. An empty array or object stays on its line in both.
-/

namespace Flagpost

namespace Json

/-- A character inside the quotation marks of a string. -/
def escapeChar (c : Char) : List Char :=
  if c = '"' then ['\\', '"']
  else if c = '\\' then ['\\', '\\']
  else if c = '\n' then ['\\', 'n']
  else if c = '\r' then ['\\', 'r']
  else if c = '\t' then ['\\', 't']
  else if c = '\x08' then ['\\', 'b']
  else if c = '\x0c' then ['\\', 'f']
  else if c.toNat < 0x20 then ['\\', 'u'] ++ Hex.padded 4 c.toNat
  else [c]

/-- A string with its quotation marks. -/
def quoted (s : String) : List Char := '"' :: s.toList.flatMap escapeChar ++ ['"']

/-- A number. -/
def numberText : Number → List Char
  | .whole n => Decimal.ofInt n
  | .real x => Shortest.text x

/-- A truth value. -/
def boolText (b : Bool) : List Char := if b then "true".toList else "false".toList

mutual

/-- The value without white space. -/
def compact : Json → List Char
  | .null => "null".toList
  | .bool b => boolText b
  | .number n => numberText n
  | .string s => quoted s
  | .array items => '[' :: compactItems items ++ [']']
  | .object members => '\x7b' :: compactMembers members ++ ['\x7d']

/-- Items with commas between them. -/
def compactItems : List Json → List Char
  | [] => []
  | [item] => compact item
  | item :: rest => compact item ++ ',' :: compactItems rest

/-- Members with commas between them. -/
def compactMembers : List (String × Json) → List Char
  | [] => []
  | [(name, value)] => quoted name ++ ':' :: compact value
  | (name, value) :: rest => quoted name ++ ':' :: compact value ++ ',' :: compactMembers rest

end

/-- A new line at a level. -/
def indent (level : Nat) : List Char := '\n' :: List.replicate (2 * level) ' '

mutual

/-- The value, laid out at a level. -/
def prettyAt (level : Nat) : Json → List Char
  | .null => "null".toList
  | .bool b => boolText b
  | .number n => numberText n
  | .string s => quoted s
  | .array [] => ['[', ']']
  | .array (item :: rest) =>
    '[' :: prettyItems (level + 1) (item :: rest) ++ indent level ++ [']']
  | .object [] => ['\x7b', '\x7d']
  | .object (member :: rest) =>
    '\x7b' :: prettyMembers (level + 1) (member :: rest) ++ indent level ++ ['\x7d']

/-- Items, each on a line of its own. -/
def prettyItems (level : Nat) : List Json → List Char
  | [] => []
  | [item] => indent level ++ prettyAt level item
  | item :: rest => indent level ++ prettyAt level item ++ ',' :: prettyItems level rest

/-- Members, each on a line of its own. -/
def prettyMembers (level : Nat) : List (String × Json) → List Char
  | [] => []
  | [(name, value)] => indent level ++ quoted name ++ ':' :: ' ' :: prettyAt level value
  | (name, value) :: rest =>
    indent level ++ quoted name ++ ':' :: ' ' :: prettyAt level value ++
      ',' :: prettyMembers level rest

end

/-- The value, laid out from the left margin. -/
def pretty (value : Json) : List Char := prettyAt 0 value

/-- The value without white space, as text. -/
def compactText (value : Json) : String := String.ofList value.compact

/-- The value laid out, as text. -/
def prettyText (value : Json) : String := String.ofList value.pretty

end Json

end Flagpost
