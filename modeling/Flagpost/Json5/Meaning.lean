import Flagpost.Json.Value
import Flagpost.Json5.Syntax

/-!
# Flagpost — what a JSON5 document means

The second step of reading a configuration file: numbers are evaluated,
escapes are put together to text, and the members of an object are sorted by
name, of two with one name the later one kept. The first fault in the order
of the document is the one reported.

A number without point and exponent is whole and has to fit sixty-four bits;
a hexadecimal number has to fit thirty-two. Infinity and not-a-number have no
place among the values and become null.
-/

namespace Flagpost

/-- Why a document has no meaning. -/
inductive Json5Error
  | syntaxFault
  | integer
  | hex
  | number
  | numberTooLarge
  | trailSurrogate
  | noTrailSurrogate
  | otherThanTrailSurrogate
deriving DecidableEq

/-- The wording of a fault. -/
def Json5Error.message : Json5Error → String
  | .syntaxFault => "the document is not well-formed"
  | .integer => "error parsing integer"
  | .hex => "error parsing hex"
  | .number => "error parsing number"
  | .numberTooLarge => "error parsing number: too large"
  | .trailSurrogate => "unexpected unicode trail surrogate"
  | .noTrailSurrogate => "missing unicode trail surrogate"
  | .otherThanTrailSurrogate => "expecting unicode trail surrogate"

namespace Json5

-- ---------------------------------------------------------------------------
-- Text
-- ---------------------------------------------------------------------------

/-- The character that stands for a character behind a backslash. -/
def simpleEscape (c : Char) : Char :=
  if c = 'b' then '\x08'
  else if c = 'f' then '\x0c'
  else if c = 'n' then '\n'
  else if c = 'r' then '\r'
  else if c = 't' then '\t'
  else if c = 'v' then '\x0b'
  else if c = '0' then '\x00'
  else c

/-- The number a piece is if it is read as hexadecimal digits. -/
def hexOf? : StringPiece → Option Nat
  | .char c | .escaped c => Hex.value? c
  | .byte n | .unit n => some n

/-- Is the unit the first half of a character? -/
def isLead (n : Nat) : Bool := 0xD800 ≤ n && n ≤ 0xDBFF

/-- Is the unit the second half of a character? -/
def isTrail (n : Nat) : Bool := 0xDC00 ≤ n && n ≤ 0xDFFF

/-- The character of two halves. The seventeenth bit is set and not counted up,
so the halves of a character of an even plane make one of the plane before. -/
def join (lead trail : Nat) : Char :=
  Char.ofNat (((lead - 0xD800) * 1024) ||| (trail - 0xDC00 + 0x10000))

/-- The characters of some pieces. Behind a unit that is the first half of a
character the next piece, however it is written, has to give the digits of the
second half. -/
def charsOf : List StringPiece → Except Json5Error (List Char)
  | [] => .ok []
  | .char c :: rest => (charsOf rest).map (c :: ·)
  | .escaped c :: rest => (charsOf rest).map (simpleEscape c :: ·)
  | .byte n :: rest => (charsOf rest).map (Char.ofNat n :: ·)
  | .unit n :: rest =>
    if isTrail n then .error .trailSurrogate
    else if !isLead n then (charsOf rest).map (Char.ofNat n :: ·)
    else
      match rest with
      | [] => .error .noTrailSurrogate
      | piece :: rest =>
        match hexOf? piece with
        | none => .error .hex
        | some m =>
          if isTrail m then (charsOf rest).map (join n m :: ·)
          else .error .otherThanTrailSurrogate

/-- The text of some pieces. -/
def textOf (pieces : List StringPiece) : Except Json5Error String :=
  (charsOf pieces).map String.ofList

-- ---------------------------------------------------------------------------
-- Numbers
-- ---------------------------------------------------------------------------

/-- The digits of a hexadecimal number without sign. -/
def hexDigits? : List Char → Option (List Char)
  | '0' :: x :: d :: rest => if x = 'x' ∨ x = 'X' then some (d :: rest) else none
  | _ => none

/-- The sign of a number, and the number without it. -/
def splitSign : List Char → Bool × List Char
  | '-' :: rest => (true, rest)
  | '+' :: rest => (false, rest)
  | text => (false, text)

/-- The ways to write a number that is not finite. A plus sign is not one of
them. -/
def unboundedNames : List (List Char) :=
  ["Infinity".toList, "-Infinity".toList, "NaN".toList, "-NaN".toList]

/-- Is the number written as a whole number? -/
def isWhole (text : List Char) : Bool :=
  !text.contains '.' &&
    ((hexDigits? text).isSome || !(text.contains 'e' || text.contains 'E')) &&
    !unboundedNames.contains text

/-- A hexadecimal number is below this. -/
def hexLimit : Nat := 4294967296

/-- The greatest whole number; the least is one further from zero. -/
def maxWhole : Nat := 9223372036854775807

/-- The value of a hexadecimal number. -/
def hexValue (digits : List Char) : Except Json5Error Int :=
  let n := digits.foldl (fun n c => n * 16 + (Hex.value? c).getD 0) 0
  if n < hexLimit then .ok n else .error .hex

/-- The value of a number that is written as a whole number. -/
def wholeValue (text : List Char) : Except Json5Error Int :=
  match hexDigits? text with
  | some digits => hexValue digits
  | none =>
    let (negative, digits) := splitSign text
    if !digits.all Char.isDigit then .error .integer
    else
      let n := Decimal.valueOf digits
      if (if negative then maxWhole + 1 else maxWhole) < n then .error .integer
      else .ok (if negative then -n else n)

/-- The parts of a number with a point or an exponent: the digits before and
behind the point, and the exponent. -/
def decimalParts? (text : List Char) : Option (List Char × List Char × Int) :=
  let whole := text.takeWhile Char.isDigit
  let rest := text.drop whole.length
  let fraction :=
    match rest with
    | '.' :: rest => rest.takeWhile Char.isDigit
    | _ => []
  let rest :=
    match rest with
    | '.' :: rest => rest.drop fraction.length
    | rest => rest
  match rest with
  | [] => some (whole, fraction, 0)
  | c :: rest =>
    if c = 'e' ∨ c = 'E' then
      let (negative, digits) := splitSign rest
      if digits.isEmpty ∨ !digits.all Char.isDigit then none
      else
        let n : Int := Decimal.valueOf digits
        some (whole, fraction, if negative then -n else n)
    else none

/-- The value of a number with a point or an exponent; null if it is written
as one that is not finite. -/
def realValue (text : List Char) : Except Json5Error Json :=
  if unboundedNames.contains text then .ok .null
  else
    let (negative, unsigned) := splitSign text
    match decimalParts? unsigned with
    | none => .error .number
    | some (whole, fraction, exponent) =>
      let digits := Decimal.valueOf (whole ++ fraction)
      match Binary64.ofDecimal? negative digits (exponent - fraction.length) with
      | some x => .ok (.number (.real x))
      | none => .error .numberTooLarge

/-- The value of a number. -/
def numberValue (text : List Char) : Except Json5Error Json :=
  if isWhole text then (wholeValue text).map Json.whole else realValue text

-- ---------------------------------------------------------------------------
-- Values
-- ---------------------------------------------------------------------------

mutual

/-- What a document means. -/
def meaning : Json5 → Except Json5Error Json
  | .null => .ok .null
  | .bool b => .ok (.bool b)
  | .number text => numberValue text
  | .string pieces => (textOf pieces).map .string
  | .array items => (meanings items).map .array
  | .object members => (memberMeanings members).map fun ms => .object (Json.sorted ms)

/-- What some items mean. -/
def meanings : List Json5 → Except Json5Error (List Json)
  | [] => .ok []
  | item :: rest => do
    let value ← meaning item
    let values ← meanings rest
    pure (value :: values)

/-- What some members mean. -/
def memberMeanings : List (List StringPiece × Json5) → Except Json5Error (List (String × Json))
  | [] => .ok []
  | (name, item) :: rest => do
    let name ← textOf name
    let value ← meaning item
    let values ← memberMeanings rest
    pure ((name, value) :: values)

end

end Json5

/-- The value of a JSON5 document. -/
def Json.ofJson5 (text : String) : Except Json5Error Json :=
  match Json5.ofText? text with
  | some document => document.meaning
  | none => .error .syntaxFault

end Flagpost
