import Flagpost.Text.Blank

/-!
# Flagpost — header fields

The header of a request is a list of fields in the order they were sent. A
name is kept in small letters; a value is bytes, and is read as text only if
every byte of it is visible ASCII, a space or a tab. Where a field may be
repeated, the first one counts.
-/

namespace Flagpost

/-- One header field. -/
structure Field where
  name : String
  value : Bytes
deriving DecidableEq

/-- The fields of a request, in order. -/
abbrev Header := List Field

namespace Header

/-- Why a field is refused. -/
inductive FieldError
  | name
  | value
deriving DecidableEq

/-- The wording of a refusal. -/
def FieldError.message : FieldError → String
  | .name => "invalid HTTP header name"
  | .value => "failed to parse header value"

/-- The most characters the name of a field may have. -/
def maxNameLength : Nat := 65535

/-- A character a method or the name of a field may have. -/
def isTokenChar (c : Char) : Bool := c.isAlphanum || "!#$%&'*+-.^_`|~".toList.contains c

/-- A byte the value of a field may have. -/
def isValueByte (b : UInt8) : Bool := (0x20 ≤ b && b != 0x7F) || b == 0x09

/-- Makes a field from a name in any case and the bytes of its value. -/
def field? (name : String) (value : Bytes) : Except FieldError Field :=
  if name.isEmpty || maxNameLength < name.length || !name.toList.all isTokenChar then .error .name
  else if !value.all isValueByte then .error .value
  else .ok ⟨lowercased name, value⟩

/-- The first value under a name. -/
def first? (header : Header) (name : String) : Option Bytes :=
  (header.find? (·.name == name)).map (·.value)

/-- A byte of a value that is read as text. -/
def isVisible (b : UInt8) : Bool := (0x20 ≤ b && b < 0x7F) || b == 0x09

/-- The text of a value, if it has one. -/
def text? (value : Bytes) : Option (List Char) :=
  if value.all isVisible then some (value.map fun b => Char.ofNat b.toNat) else none

/-- The first value under a name, if it is text. -/
def firstText? (header : Header) (name : String) : Option (List Char) :=
  (header.first? name).bind text?

end Header

end Flagpost
