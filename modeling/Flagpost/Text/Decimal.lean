/-!
# Flagpost — decimal digits

Whole numbers in decimal, with or without padding, and the reading of runs
of digits.
-/

namespace Flagpost.Decimal

/-- The digits of a number. -/
def digits (n : Nat) : List Char := Nat.toDigits 10 n

/-- The digits of a number, padded with zeros to `width`. -/
def padded (width n : Nat) : List Char :=
  List.replicate (width - (digits n).length) '0' ++ digits n

/-- An integer with a minus sign where it needs one. -/
def ofInt (n : Int) : List Char :=
  if n < 0 then '-' :: digits n.natAbs else digits n.natAbs

/-- The value of a digit. -/
def value (c : Char) : Nat := c.toNat - '0'.toNat

/-- The value of a run of digits, read from the left. -/
def valueOf (digits : List Char) : Nat := digits.foldl (fun n c => n * 10 + value c) 0

end Flagpost.Decimal
