import Flagpost.Json.Cursor

/-!
# Flagpost — numbers of a document

A number is read digit by digit into a significand of sixty-four bits. Digits
that no longer fit are counted into the exponent and otherwise left out. A
number without fraction and exponent that fits is whole; all others become
floating-point numbers, the significand scaled by the largest powers of ten
the format has, with a rounding at each step. A minus sign before a zero
makes a floating-point zero, the only one that keeps the sign.
-/

namespace Flagpost.JsonReader

/-- The greatest significand. -/
def maxSignificand : Nat := 18446744073709551615

/-- The greatest exponent that is read. -/
def maxExponent : Nat := 2147483647

/-- A decimal digit. -/
def isDigit (b : UInt8) : Bool := 0x30 ≤ b && b ≤ 0x39

/-- The value of a digit. -/
def digitValue (b : UInt8) : Nat := b.toNat - 0x30

/-- An `e` of either case. -/
def isExponentMark (b : UInt8) : Bool := b == 0x65 || b == 0x45

/-- A power of ten as a floating-point number. -/
def power? (n : Nat) : Option Binary64 := Binary64.ofNat? false (Nat.pow 10 n)

/-- The significand times a power of ten, scaled down in steps of `10 ^ 308`
while the power is below the least one; none if the result is too large. -/
def scale? : Nat → Binary64 → Int → Option Binary64
  | 0, x, _ => some x
  | steps + 1, x, exponent =>
    if exponent.natAbs ≤ 308 then do
      let power ← power? exponent.natAbs
      if 0 ≤ exponent then x.times? power else x.over? power
    else if x.isZero then some x
    else if 0 ≤ exponent then none
    else do
      let power ← power? 308
      let x ← x.over? power
      scale? steps x (exponent + 308)

/-- The floating-point number `± significand · 10 ^ exponent`. -/
def real (positive : Bool) (significand : Nat) (exponent : Int) : JsonReader Number :=
  match (Binary64.ofNat? (!positive) significand).bind fun x => scale? 8 x exponent with
  | some x => pure (.real x)
  | none => failHere .numberTooLarge

/-- The significand after some digits, how many of them went into it, and
those that no longer fitted. -/
def accumulate : Nat → Bytes → Nat × Nat × Bytes
  | significand, [] => (significand, 0, [])
  | significand, b :: rest =>
    if maxSignificand < significand * 10 + digitValue b then (significand, 0, b :: rest)
    else
      let (total, count, left) := accumulate (significand * 10 + digitValue b) rest
      (total, count + 1, left)

/-- Reads an exponent whose mark comes next. -/
def readExponent (positive : Bool) (significand : Nat) (exponent : Int) : JsonReader Number := do
  pass
  let sign ← peek
  let up := sign != some 0x2D
  if sign = some 0x2B ∨ sign = some 0x2D then pass
  match ← next with
  | none => failHere .endInValue
  | some b =>
    if !isDigit b then failHere .numberInvalid
    else readExponentDigits up (digitValue b)
where
  /-- Reads the digits behind the first one. -/
  readExponentDigits (up : Bool) (first : Nat) : JsonReader Number := do
    let digits ← (fun c => .ok (c.rest.takeWhile isDigit, c) : JsonReader Bytes)
    let (value, left) := bounded first digits
    if left.isEmpty then
      let _ ← takeWhile isDigit
      real positive significand (if up then exponent + value else exponent - value)
    else
      -- the exponent is past all bounds; fail behind the digit that showed it
      let fitting := digits.length - left.length
      let _ ← passCount (fitting + 1)
      if significand ≠ 0 ∧ up then failHere .numberTooLarge
      else
        let _ ← takeWhile isDigit
        pure (.real (Binary64.zero (!positive)))
  /-- The value of the digits up to the greatest exponent, and those behind. -/
  bounded : Nat → Bytes → Nat × Bytes
    | value, [] => (value, [])
    | value, b :: rest =>
      if maxExponent < value * 10 + digitValue b then (value, b :: rest)
      else bounded (value * 10 + digitValue b) rest
  /-- Passes so many bytes. -/
  passCount : Nat → JsonReader Unit
    | 0 => pure ()
    | count + 1 => do
      pass
      passCount count

/-- Reads a fraction whose point comes next. -/
def readFraction (positive : Bool) (significand : Nat) (exponent : Int) : JsonReader Number := do
  pass
  let digits ← takeWhile isDigit
  if digits.isEmpty then
    match ← peek with
    | some _ => failAtNext .numberInvalid
    | none => failAtNext .endInValue
  else
    let (significand, count, _) := accumulate significand digits
    let exponent := exponent - count
    match ← peek with
    | some b =>
      if isExponentMark b then readExponent positive significand exponent
      else real positive significand exponent
    | none => real positive significand exponent

/-- How far from zero the least whole number is. -/
def minWholeMagnitude : Nat := 9223372036854775808

/-- Reads what follows the whole part of a number. `exponent` counts the
digits that did not fit. -/
def readAfterWhole (positive : Bool) (significand exponent : Nat) : JsonReader Number := do
  match ← peek with
  | some 0x2E => readFraction positive significand exponent
  | found =>
    if found.any isExponentMark then readExponent positive significand exponent
    else if exponent ≠ 0 then real positive significand exponent
    else if positive then pure (.whole significand)
    else if significand = 0 ∨ minWholeMagnitude < significand then
      match Binary64.ofNat? true significand with
      | some x => pure (.real x)
      | none => failHere .numberTooLarge
    else pure (.whole (-(significand : Int)))

/-- Reads a number whose first digit comes next, behind its sign. -/
def readNumber (positive : Bool) : JsonReader Number := do
  match ← next with
  | none => failHere .endInValue
  | some b =>
    if b = 0x30 then
      match ← peek with
      | some c =>
        if isDigit c then failAtNext .numberInvalid else readAfterWhole positive 0 0
      | none => readAfterWhole positive 0 0
    else if isDigit b then
      let digits ← takeWhile isDigit
      let (significand, _, left) := accumulate (digitValue b) digits
      readAfterWhole positive significand left.length
    else failHere .numberInvalid

/-- Passes the digits of an exponent whose mark comes next. -/
def skipExponent : JsonReader Unit := do
  pass
  let sign ← peek
  if sign = some 0x2B ∨ sign = some 0x2D then pass
  match ← next with
  | some b =>
    if isDigit b then
      let _ ← takeWhile isDigit
      pure ()
    else failHere .numberInvalid
  | none => failHere .numberInvalid

/-- Passes a number nobody asks for, behind its sign. -/
def skipNumber : JsonReader Unit := do
  match ← next with
  | none => failHere .numberInvalid
  | some b =>
    if b = 0x30 then
      match ← peek with
      | some c => if isDigit c then failAtNext .numberInvalid else skipAfterWhole
      | none => skipAfterWhole
    else if isDigit b then
      let _ ← takeWhile isDigit
      skipAfterWhole
    else failHere .numberInvalid
where
  /-- Passes a fraction and an exponent, if they come next. -/
  skipAfterWhole : JsonReader Unit := do
    match ← peek with
    | some 0x2E =>
      pass
      let digits ← takeWhile isDigit
      if digits.isEmpty then failAtNext .numberInvalid
      else
        match ← peek with
        | some b => if isExponentMark b then skipExponent else pure ()
        | none => pure ()
    | some b => if isExponentMark b then skipExponent else pure ()
    | none => pure ()

end Flagpost.JsonReader
