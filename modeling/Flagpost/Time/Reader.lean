import Flagpost.Text.Blank
import Flagpost.Time.Timestamp

/-!
# Flagpost — reading timestamps

A timestamp in a hook store may have been written by hand, so it is read
leniently: numbers may be shorter than their usual width, white space may
stand before each part, a space may take the place of the `T`, and the offset
from UTC may be `Z`, `UTC` or hours and minutes with or without a colon. The
result is the same point in time in UTC.

Numbers are checked where they are read, the day of the month once everything
has been read, and the offset last.
-/

namespace Flagpost

/-- Why a text is no timestamp. -/
inductive TimestampError
  | outOfRange
  | impossible
  | invalid
  | tooShort
  | tooLong
deriving DecidableEq

/-- The wording of a refusal. -/
def TimestampError.message : TimestampError → String
  | .outOfRange => "input is out of range"
  | .impossible => "no possible date and time matching input"
  | .invalid => "input contains invalid characters"
  | .tooShort => "premature end of input"
  | .tooLong => "trailing input"

namespace Timestamp

/-- Reads at least one and at most `most` digits. -/
def readDigits (most : Nat) (text : List Char) :
    Except TimestampError (List Char × List Char) :=
  match text with
  | [] => .error .tooShort
  | c :: _ =>
    if !c.isDigit then .error .invalid
    else
      let digits := (text.take most).takeWhile Char.isDigit
      .ok (digits, text.drop digits.length)

/-- Reads a number of at most two digits between two bounds, and white space
before it. -/
def readNumber (least greatest : Nat) (text : List Char) :
    Except TimestampError (Nat × List Char) := do
  let (digits, rest) ← readDigits 2 (Blank.trimStart text)
  let n := Decimal.valueOf digits
  if least ≤ n ∧ n ≤ greatest then .ok (n, rest) else .error .outOfRange

/-- The largest number a year is read up to. -/
def yearBound : Int := 2147483647

/-- Reads a year: up to four digits, or a sign and any number of them. -/
def readYear (text : List Char) : Except TimestampError (Int × List Char) := do
  let text := Blank.trimStart text
  let (year, rest) ←
    match text with
    | '-' :: digits => do
      let (digits, rest) ← readDigits digits.length digits
      pure (-(Decimal.valueOf digits : Int), rest)
    | '+' :: digits => do
      let (digits, rest) ← readDigits digits.length digits
      pure ((Decimal.valueOf digits : Int), rest)
    | _ => do
      let (digits, rest) ← readDigits 4 text
      pure ((Decimal.valueOf digits : Int), rest)
  if -yearBound - 1 ≤ year ∧ year ≤ yearBound then .ok (year, rest) else .error .outOfRange

/-- Reads a separator, and white space before it. -/
def readSeparator (separator : Char) (text : List Char) : Except TimestampError (List Char) :=
  match Blank.trimStart text with
  | [] => .error .tooShort
  | c :: rest => if c = separator then .ok rest else .error .invalid

/-- Reads the fraction of a second as nanoseconds. Digits past the ninth are
left out. -/
def readFraction (text : List Char) : Except TimestampError (Nat × List Char) :=
  match text with
  | '.' :: rest => do
    let (digits, rest) ← readDigits 9 rest
    pure (Decimal.valueOf digits * Nat.pow 10 (9 - digits.length), rest.dropWhile Char.isDigit)
  | _ => .ok (0, text)

/-- Reads two digits as they stand. -/
def readTwoDigits (text : List Char) : Except TimestampError ((Char × Char) × List Char) :=
  match text with
  | a :: b :: rest => .ok ((a, b), rest)
  | [a] => if 0x80 ≤ a.toNat then .error .invalid else .error .tooShort
  | [] => .error .tooShort

/-- Reads hours and minutes of an offset, behind its sign. -/
def readHoursMinutes (text : List Char) : Except TimestampError (Nat × List Char) := do
  let ((h₁, h₂), rest) ← readTwoDigits text
  if !(h₁.isDigit && h₂.isDigit) then throw .invalid
  let rest := rest.dropWhile fun c => c == ':' || isBlank c
  let ((m₁, m₂), rest) ← readTwoDigits rest
  if !(m₁.isDigit && m₂.isDigit) then throw .invalid
  if '5' < m₁ then throw .outOfRange
  pure (Decimal.valueOf [h₁, h₂] * 3600 + Decimal.valueOf [m₁, m₂] * 60, rest)

/-- Reads the offset from UTC, in seconds. -/
def readOffset (text : List Char) : Except TimestampError (Int × List Char) :=
  match text with
  | [] => .error .tooShort
  | c :: rest =>
    if (text.take 3).map Char.toUpper == ['U', 'T', 'C'] then .ok (0, text.drop 3)
    else if c = 'Z' ∨ c = 'z' then .ok (0, rest)
    else if c = '+' then do
      let (seconds, rest) ← readHoursMinutes rest
      pure ((seconds : Int), rest)
    else if c = '-' ∨ c = '\u2212' then do
      let (seconds, rest) ← readHoursMinutes rest
      pure (-(seconds : Int), rest)
    else .error .invalid

/-- The error, if there is no value. -/
def orElseError {α : Type} (e : TimestampError) : Option α → Except TimestampError α
  | some a => .ok a
  | none => .error e

/-- Reads a timestamp. -/
def readChars (text : List Char) : Except TimestampError Timestamp := do
  let (year, rest) ← readYear text
  let rest ← readSeparator '-' rest
  let (month, rest) ← readNumber 1 12 rest
  let rest ← readSeparator '-' rest
  let (day, rest) ← readNumber 1 31 rest
  let rest ←
    match rest with
    | [] => throw .tooShort
    | c :: rest => if c = 'T' ∨ c = 't' ∨ c = ' ' then pure rest else throw .invalid
  let (hour, rest) ← readNumber 0 23 rest
  let rest ← readSeparator ':' rest
  let (minute, rest) ← readNumber 0 59 rest
  let rest ← readSeparator ':' rest
  let (second, rest) ← readNumber 0 60 rest
  let (fraction, rest) ← readFraction rest
  let (offset, rest) ← readOffset (Blank.trimStart rest)
  if !(Blank.trimStart rest).isEmpty then throw .tooLong
  let date ← orElseError .outOfRange (Date.of? year month day)
  let second₀ := hour * 3600 + minute * 60
  let shown ←
    orElseError .outOfRange <|
      if second = 60 then of? date (second₀ + 59) (1000000000 + fraction)
      else of? date (second₀ + second) fraction
  if 86400 ≤ offset.natAbs then throw .outOfRange
  orElseError .impossible (shown.atOffset? offset)

/-- Reads a timestamp. -/
def read (text : String) : Except TimestampError Timestamp := readChars text.toList

end Timestamp

end Flagpost
