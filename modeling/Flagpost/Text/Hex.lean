import Flagpost.Text.Utf8

/-!
# Flagpost — hexadecimal

Bytes and numbers in small hexadecimal digits, and the reading of a digit of
either case.
-/

namespace Flagpost.Hex

/-- The small digit for a value below sixteen. -/
def digit (n : Nat) : Char := Nat.digitChar n

/-- The two digits of a byte. -/
def ofByte (b : UInt8) : List Char := [digit (b.toNat / 16), digit (b.toNat % 16)]

/-- The digits of a byte sequence, two for each byte. -/
def ofBytes (bytes : Bytes) : List Char := bytes.flatMap ofByte

/-- The digits of a number, at least one. -/
def ofNat (n : Nat) : List Char := Nat.toDigits 16 n

/-- The digits of a number, padded with zeros to `width`. -/
def padded (width n : Nat) : List Char :=
  List.replicate (width - (ofNat n).length) '0' ++ ofNat n

/-- The value of a digit of either case. -/
def value? (c : Char) : Option Nat :=
  if '0' ≤ c ∧ c ≤ '9' then some (c.toNat - '0'.toNat)
  else if 'a' ≤ c ∧ c ≤ 'f' then some (c.toNat - 'a'.toNat + 10)
  else if 'A' ≤ c ∧ c ≤ 'F' then some (c.toNat - 'A'.toNat + 10)
  else none

/-- The value of a digit of either case, given as its byte. -/
def byteValue? (b : UInt8) : Option Nat := value? (Char.ofNat b.toNat)

/-- A small hexadecimal digit. -/
def isSmallDigit (c : Char) : Bool := ('0' ≤ c && c ≤ '9') || ('a' ≤ c && c ≤ 'f')

end Flagpost.Hex
