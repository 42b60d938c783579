import Flagpost.Json.Skip

/-!
# Flagpost — reading what is asked for

A document is read straight into what it is read for: a text, a truth value,
a list, or a record with named fields. The readers here check the shape as
they go, so a field of the wrong type is reported before a fault further on
in the document.

A record is described by its `Slot`s: the name of each field, whether it must
be there, and how its value is stored in what has been read so far. It may be
written as an object, in any order and with unknown members in between, or as
an array of its fields in the order of the slots. A fault of the record as a
whole (a field that is missing or written twice, an array that is too short)
is reported where the record ends, if it ends there, and otherwise where its
end was looked for.
-/

namespace Flagpost.JsonReader

/-- Fails with a shape error at the place reached. -/
def failShape {α : Type} (error : ShapeError) : JsonReader α := failHere (.shape error)

/-- Reads a value that is not the one expected, far enough to say what it is,
and fails. -/
def failType {α : Type} (expected : String) : JsonReader α := do
  match ← peekToken with
  | none => failAtNext .endInValue
  | some b =>
    if b = 0x6E then
      pass
      passWord ull
      failShape (.type .null expected)
    else if b = 0x74 then
      pass
      passWord rue
      failShape (.type (.bool true) expected)
    else if b = 0x66 then
      pass
      passWord alse
      failShape (.type (.bool false) expected)
    else if b = 0x2D then
      pass
      let n ← readNumber false
      failShape (.type (Found.ofJson (.number n)) expected)
    else if isDigit b then
      let n ← readNumber true
      failShape (.type (Found.ofJson (.number n)) expected)
    else if b = quote then
      let s ← readString
      failShape (.type (.string s) expected)
    else if b = 0x5B then failShape (.type .array expected)
    else if b = 0x7B then failShape (.type .object expected)
    else failAtNext .valueExpected

/-- Reads a text. -/
def readText (expected : String) : JsonReader String := do
  match ← peekToken with
  | some 0x22 => readString
  | _ => failType expected

/-- Reads a truth value. -/
def readBool : JsonReader Bool := do
  match ← peekToken with
  | some 0x74 =>
    pass
    passWord rue
    pure true
  | some 0x66 =>
    pass
    passWord alse
    pure false
  | _ => failType "a boolean"

/-- Reads a timestamp, written as a text. -/
def readTimestamp : JsonReader Timestamp := do
  let text ← readText "an RFC 3339 formatted date and time string"
  match Timestamp.read text with
  | .ok t => pure t
  | .error e => failShape (.timestamp e)

-- ---------------------------------------------------------------------------
-- Brackets
-- ---------------------------------------------------------------------------

/-- Passes what comes before the next item of an array and tells whether
there is one. `first` tells whether it would be the first. -/
def nextItem (first : Bool) : JsonReader Bool := do
  match ← peekToken with
  | none => failAtNext .endInArray
  | some b =>
    if b = 0x5D then pure false
    else if first then pure true
    else if b = comma then
      pass
      match ← peekToken with
      | some 0x5D => failAtNext .trailingComma
      | some _ => pure true
      | none => failAtNext .endInValue
    else failAtNext .commaOrBracketExpected

/-- Passes the end of an array. -/
def endArray : JsonReader Unit := do
  match ← peekToken with
  | some 0x5D => pass
  | some 0x2C =>
    pass
    match ← peekToken with
    | some 0x5D => failAtNext .trailingComma
    | _ => failAtNext .trailingCharacters
  | some _ => failAtNext .trailingCharacters
  | none => failAtNext .endInArray

/-- The name of the next member of an object, if there is one. `first` tells
whether it would be the first. -/
def nextName? (first : Bool) : JsonReader (Option String) := do
  match ← peekToken with
  | none => failAtNext .endInObject
  | some b =>
    if b = 0x7D then pure none
    else if first then
      if b = quote then return some (← readString) else failAtNext .nameExpected
    else if b = comma then
      pass
      match ← peekToken with
      | some 0x22 => return some (← readString)
      | some 0x7D => failAtNext .trailingComma
      | some _ => failAtNext .nameExpected
      | none => failAtNext .endInValue
    else failAtNext .commaOrBraceExpected

/-- Passes the end of an object. -/
def endObject : JsonReader Unit := do
  match ← peekToken with
  | some 0x7D => pass
  | some 0x2C => failAtNext .trailingComma
  | some _ => failAtNext .trailingCharacters
  | none => failAtNext .endInObject

/-- Where the end of an array is looked for. -/
def settleArray (c : Cursor) : Cursor :=
  let c := c.skipSpace
  match c.rest.head? with
  | some 0x5D => c.advance
  | some 0x2C => c.advance.skipSpace
  | _ => c

/-- Where the end of an object is looked for. -/
def settleObject (c : Cursor) : Cursor :=
  let c := c.skipSpace
  match c.rest.head? with
  | some 0x7D => c.advance
  | _ => c

/-- Ends a record: with its end, or with its fault where the end was looked
for. -/
def finish {α : Type} (settle : Cursor → Cursor) (close : JsonReader Unit)
    (result : Except ShapeError α) : JsonReader α :=
  match result with
  | .ok a => do
    close
    pure a
  | .error e => fun c => .error ((settle c).errorHere (.shape e))

-- ---------------------------------------------------------------------------
-- Lists and records
-- ---------------------------------------------------------------------------

/-- Reads the items of an array. `done` has those read so far, the last
first. -/
def readItems {α : Type} (item : JsonReader α) : Nat → List α → JsonReader (List α)
  | 0, done => pure done.reverse
  | fuel + 1, done => do
    if ← nextItem done.isEmpty then
      let a ← item
      readItems item fuel (a :: done)
    else pure done.reverse

/-- Reads an array of items. -/
def readList {α : Type} (item : JsonReader α) : JsonReader (List α) := do
  match ← peekToken with
  | some 0x5B =>
    pass
    let items ← readItems item (← steps) []
    endArray
    pure items
  | _ => failType "a sequence"

/-- A field of a record: its name, whether it must be there, whether it has
been read, and how it is read. -/
structure Slot (σ : Type) where
  name : String
  required : Bool
  isFilled : σ → Bool
  fill : σ → JsonReader σ

/-- Reads the members of an object into the slots. -/
def readMembers {σ : Type} (slots : List (Slot σ)) :
    Nat → Bool → σ → JsonReader (Except ShapeError σ)
  | 0, _, read => pure (.ok read)
  | fuel + 1, first, read => do
    match ← nextName? first with
    | none => pure (.ok read)
    | some name =>
      match slots.find? (·.name == name) with
      | none =>
        passColon
        skipValue
        readMembers slots fuel false read
      | some slot =>
        if slot.isFilled read then pure (.error (.repeated name))
        else
          passColon
          let read ← slot.fill read
          readMembers slots fuel false read

/-- The first field that must be there and is not. -/
def missing? {σ : Type} (slots : List (Slot σ)) (read : σ) : Option String :=
  (slots.find? fun slot => slot.required && !slot.isFilled read).map (·.name)

/-- Reads the items of an array into the slots, in order. -/
def readPositions {σ : Type} (expected : String) :
    List (Slot σ) → Nat → σ → JsonReader (Except ShapeError σ)
  | [], _, read => pure (.ok read)
  | slot :: rest, index, read => do
    if ← nextItem (index == 0) then
      let read ← slot.fill read
      readPositions expected rest (index + 1) read
    else
      match (slot :: rest).findIdx? (·.required) with
      | some i => pure (.error (.length (index + i) expected))
      | none => pure (.ok read)

/-- Reads a record, called `what`, into its slots. -/
def readRecord {σ : Type} (what : String) (slots : List (Slot σ)) (empty : σ) :
    JsonReader σ := do
  match ← peekToken with
  | some 0x5B =>
    pass
    let count := String.ofList (Decimal.digits slots.length)
    let result ← readPositions (what ++ " with " ++ count ++ " elements") slots 0 empty
    finish settleArray endArray result
  | some 0x7B =>
    pass
    let result ← readMembers slots (← steps) true empty
    let result :=
      match result with
      | .ok read =>
        match missing? slots read with
        | some name => .error (.missing name)
        | none => .ok read
      | .error e => .error e
    finish settleObject endObject result
  | _ => failType what

/-- Reads a whole document: nothing but white space may follow. -/
def whole {α : Type} (reader : JsonReader α) : JsonReader α := do
  let a ← reader
  match ← peekToken with
  | some _ => failAtNext .trailingCharacters
  | none => pure a

end Flagpost.JsonReader
