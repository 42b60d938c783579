/-!
# Flagpost — binary floating point

A number with a fraction or an exponent in a document is kept in the
sixty-four-bit format of IEEE 754: a sign, and a whole number of units of a
power of two. All arithmetic here is exact arithmetic on whole numbers
followed by one rounding, to the nearest representable value and to the even
one of two that are equally near.
-/

namespace Flagpost

/-- A finite number `± mantissa · 2 ^ exponent`. The mantissa has at most 53
bits, and exactly 53 unless the exponent is the least one. -/
structure Binary64 where
  negative : Bool
  mantissa : Nat
  exponent : Int
deriving DecidableEq

namespace Binary64

/-- The least exponent of a unit. -/
def leastExponent : Int := -1074

/-- The greatest exponent of a unit. -/
def greatestExponent : Int := 971

/-- Zero, with a sign. -/
def zero (negative : Bool) : Binary64 := ⟨negative, 0, leastExponent⟩

/-- The numerator and denominator of `num / den` in units of `2 ^ e`. -/
def inUnits (num den : Nat) (e : Int) : Nat × Nat :=
  if 0 ≤ e then (num, den * Nat.pow 2 e.toNat) else (num * Nat.pow 2 (-e).toNat, den)

/-- The quotient to the nearest whole number, a half to the even one. -/
def roundQuotient (num den : Nat) : Nat :=
  let q := num / den
  let r := num % den
  if 2 * r > den ∨ (2 * r = den ∧ q % 2 = 1) then q + 1 else q

/-- The exponent of the unit that `num / den` is rounded to. -/
def unitExponent (num den : Nat) : Int :=
  let e : Int := (num.log2 : Int) - den.log2 - 52
  let (n, d) := inUnits num den e
  let e := if n / d < Nat.pow 2 52 then e - 1 else e
  max e leastExponent

/-- The nearest number to `num / den`; none if that is too large. -/
def ofQuotient? (negative : Bool) (num den : Nat) : Option Binary64 :=
  if num = 0 then some (zero negative)
  else
    let e := unitExponent num den
    let (n, d) := inUnits num den e
    let m := roundQuotient n d
    let (m, e) := if m = Nat.pow 2 53 then (Nat.pow 2 52, e + 1) else (m, e)
    if greatestExponent < e then none else some ⟨negative, m, e⟩

/-- The nearest number to a whole number. -/
def ofNat? (negative : Bool) (n : Nat) : Option Binary64 := ofQuotient? negative n 1

/-- The nearest number to `digits · 10 ^ power`; none if that is too large.
Powers far outside the range are settled without computing them. -/
def ofDecimal? (negative : Bool) (digits : Nat) (power : Int) : Option Binary64 :=
  if digits = 0 then some (zero negative)
  else
    let size : Int := (Nat.toDigits 10 digits).length
    if 400 < power + size then none
    else if power + size < -400 then some (zero negative)
    else if 0 ≤ power then ofQuotient? negative (digits * Nat.pow 10 power.toNat) 1
    else ofQuotient? negative digits (Nat.pow 10 (-power).toNat)

/-- The number as a quotient of whole numbers, the sign left aside. -/
def quotient (x : Binary64) : Nat × Nat :=
  if 0 ≤ x.exponent then (x.mantissa * Nat.pow 2 x.exponent.toNat, 1)
  else (x.mantissa, Nat.pow 2 (-x.exponent).toNat)

/-- The product of two numbers, with the sign of the first. -/
def times? (x y : Binary64) : Option Binary64 :=
  let (a, b) := x.quotient
  let (c, d) := y.quotient
  ofQuotient? x.negative (a * c) (b * d)

/-- The quotient of two numbers, with the sign of the first. -/
def over? (x y : Binary64) : Option Binary64 :=
  let (a, b) := x.quotient
  let (c, d) := y.quotient
  ofQuotient? x.negative (a * d) (b * c)

/-- Is it zero, of either sign? -/
def isZero (x : Binary64) : Bool := x.mantissa == 0

end Binary64

end Flagpost
