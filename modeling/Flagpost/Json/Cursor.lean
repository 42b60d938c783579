import Flagpost.Json.Shape
import Flagpost.Text.Utf8

/-!
# Flagpost — a place in a document

A document is read byte by byte. The `Cursor` holds the bytes that are still
to come and the place reached: the line, and how many bytes of that line have
been read. A reader is an action on the cursor that may fail; a failure
carries its place, which is either the place reached (`failHere`) or the
place behind the byte that is looked at (`failAtNext`).
-/

namespace Flagpost

/-- The bytes to come and the place reached. `bound`, the length of the whole
document, says how long a reader may have to go on. -/
structure Cursor where
  rest : Bytes
  line : Nat
  column : Nat
  bound : Nat

/-- Why a document cannot be read. -/
inductive JsonProblem
  | endInValue
  | endInArray
  | endInObject
  | endInString
  | valueExpected
  | wordExpected
  | colonExpected
  | commaOrBracketExpected
  | commaOrBraceExpected
  | nameExpected
  | trailingComma
  | trailingCharacters
  | numberInvalid
  | numberTooLarge
  | escapeInvalid
  | controlCharacter
  | loneSurrogate
  | endOfHexEscape
  | notText
  | shape (error : ShapeError)

/-- The wording of a problem. -/
def JsonProblem.message : JsonProblem → String
  | .endInValue => "EOF while parsing a value"
  | .endInArray => "EOF while parsing a list"
  | .endInObject => "EOF while parsing an object"
  | .endInString => "EOF while parsing a string"
  | .valueExpected => "expected value"
  | .wordExpected => "expected ident"
  | .colonExpected => "expected `:`"
  | .commaOrBracketExpected => "expected `,` or `]`"
  | .commaOrBraceExpected => "expected `,` or `\x7d`"
  | .nameExpected => "key must be a string"
  | .trailingComma => "trailing comma"
  | .trailingCharacters => "trailing characters"
  | .numberInvalid => "invalid number"
  | .numberTooLarge => "number out of range"
  | .escapeInvalid => "invalid escape"
  | .controlCharacter => "control character (\\u0000-\\u001F) found while parsing a string"
  | .loneSurrogate => "lone leading surrogate in hex escape"
  | .endOfHexEscape => "unexpected end of hex escape"
  | .notText => "invalid unicode code point"
  | .shape error => error.message

/-- A problem and its place. -/
structure JsonError where
  problem : JsonProblem
  line : Nat
  column : Nat

/-- The problem with its place. -/
def JsonError.message (e : JsonError) : String :=
  e.problem.message ++ " at line " ++ String.ofList (Decimal.digits e.line) ++ " column " ++
    String.ofList (Decimal.digits e.column)

/-- The problem as a diagnosis, with its parts named. -/
def JsonError.diagnosis (e : JsonError) : String :=
  "Error(" ++ Quoted.quote e.problem.message ++ ", line: " ++
    String.ofList (Decimal.digits e.line) ++ ", column: " ++
    String.ofList (Decimal.digits e.column) ++ ")"

namespace Cursor

/-- The start of a document. -/
def start (document : Bytes) : Cursor := ⟨document, 1, 0, document.length⟩

/-- The byte a line ends with. -/
def newline : UInt8 := 0x0A

/-- Behind the next byte. -/
def advance (c : Cursor) : Cursor :=
  match c.rest with
  | [] => c
  | b :: rest =>
    if b = newline then ⟨rest, c.line + 1, 0, c.bound⟩ else ⟨rest, c.line, c.column + 1, c.bound⟩

/-- Is the byte white space of a document? -/
def isSpace (b : UInt8) : Bool := b == 0x20 || b == 0x0A || b == 0x09 || b == 0x0D

/-- Behind the white space that comes next, from a line and a column. -/
def skip (bound : Nat) : Bytes → Nat → Nat → Cursor
  | [], line, column => ⟨[], line, column, bound⟩
  | b :: rest, line, column =>
    if b = newline then skip bound rest (line + 1) 0
    else if isSpace b then skip bound rest line (column + 1)
    else ⟨b :: rest, line, column, bound⟩

/-- Behind the white space that comes next. -/
def skipSpace (c : Cursor) : Cursor := skip c.bound c.rest c.line c.column

/-- The problem, at the place reached. -/
def errorHere (c : Cursor) (problem : JsonProblem) : JsonError := ⟨problem, c.line, c.column⟩

/-- The problem, at the place behind the next byte. -/
def errorAtNext (c : Cursor) (problem : JsonProblem) : JsonError :=
  c.advance.errorHere problem

end Cursor

/-- An action on the cursor that reads an `α` or fails. -/
abbrev JsonReader (α : Type) := StateT Cursor (Except JsonError) α

namespace JsonReader

/-- Fails at the place reached. -/
def failHere {α : Type} (problem : JsonProblem) : JsonReader α :=
  fun c => .error (c.errorHere problem)

/-- Fails at the place behind the next byte. -/
def failAtNext {α : Type} (problem : JsonProblem) : JsonReader α :=
  fun c => .error (c.errorAtNext problem)

/-- The next byte, which stays to come. -/
def peek : JsonReader (Option UInt8) := fun c => .ok (c.rest.head?, c)

/-- The next byte that is no white space, which stays to come. -/
def peekToken : JsonReader (Option UInt8) :=
  fun c => .ok (c.skipSpace.rest.head?, c.skipSpace)

/-- Passes the next byte. -/
def pass : JsonReader Unit := fun c => .ok ((), c.advance)

/-- Takes the next byte. -/
def next : JsonReader (Option UInt8) := fun c => .ok (c.rest.head?, c.advance)

/-- A number of steps that is enough to pass all bytes to come, one or more
at each step, and to find that none is left. -/
def steps : JsonReader Nat := fun c => .ok (c.bound + 1, c)

/-- Passes the bytes that satisfy `p`, and answers with them. -/
def takeWhile (p : UInt8 → Bool) : JsonReader Bytes :=
  fun c =>
    let taken := c.rest.takeWhile p
    .ok (taken, taken.foldl (fun c _ => c.advance) c)

/-- Runs a reader on a whole document. -/
def run {α : Type} (reader : JsonReader α) (document : Bytes) : Except JsonError α :=
  match reader (Cursor.start document) with
  | .ok (a, _) => .ok a
  | .error e => .error e

end JsonReader

end Flagpost
