import Flagpost.Number.Binary64
import Flagpost.Text.Decimal

/-!
# Flagpost — the shortest decimal form

A floating-point number is written with the fewest digits that read back as
the same number; of two such forms with equally few digits, the one nearer to
the number. The digits are found by trying: for one digit, two digits and so
on, the two decimals next to the number are looked at, and the first grid
with a decimal that reads back decides.

Where the digits go is a matter of style: positional, with at least one
digit behind the point, while the first digit stands for a power of ten from
−5 to 15, and with a signed exponent outside that range.
-/

namespace Flagpost.Shortest

/-- A decimal `0.d₁d₂… · 10 ^ point`. -/
structure Decimal where
  digits : List Char
  point : Int

/-- Compares `a / b` with `c / d`. -/
def compareQuotients (a b c d : Nat) : Ordering := compare (a * d) (c * b)

/-- The position of the first digit of `num / den`, by counting up or down
from one; the search ends because the numbers have finite length. -/
def magnitude (num den : Nat) : Int :=
  if den ≤ num then ((Nat.toDigits 10 (num / den)).length : Int) - 1
  else
    -- the first digit of `num / den` stands right where `den / num` needs it
    let k := (Nat.toDigits 10 (den / num)).length
    if den ≤ num * Nat.pow 10 (k - 1) then -((k - 1 : Nat) : Int) else -(k : Int)

/-- Does the decimal `n · unit` lie where numbers round to `x`? `unit` is a
quotient. The ends belong to `x` when its mantissa is even. -/
def readsBack (x : Binary64) (n unitNum unitDen : Nat) : Bool :=
  -- everything in quarters of the unit of `x`
  let below := if x.mantissa = Nat.pow 2 52 ∧ x.exponent ≠ Binary64.leastExponent then 1 else 2
  let quarter : Binary64 := ⟨false, 1, x.exponent - 2⟩
  let (qn, qd) := quarter.quotient
  let low := compareQuotients (n * unitNum) unitDen ((4 * x.mantissa - below) * qn) qd
  let high := compareQuotients (n * unitNum) unitDen ((4 * x.mantissa + 2) * qn) qd
  if x.mantissa % 2 = 0 then low != .lt && high != .gt else low == .gt && high == .lt

/-- The decimal with `count` digits that reads back as `x` and is nearest to
it, if one of the two next to `x` reads back. The answer is in units of
`10 ^ (first - count + 1)`. -/
def onGrid? (x : Binary64) (first : Int) (count : Nat) : Option Nat :=
  let (num, den) := x.quotient
  let power := first - count + 1
  let (unitNum, unitDen) :=
    if 0 ≤ power then (Nat.pow 10 power.toNat, 1) else (1, Nat.pow 10 (-power).toNat)
  let low := num * unitDen / (den * unitNum)
  let high := low + 1
  let lowOk := readsBack x low unitNum unitDen
  let highOk := readsBack x high unitNum unitDen
  if lowOk && highOk then
    -- twice the number against the middle of the two
    match compareQuotients (2 * num) den ((2 * low + 1) * unitNum) unitDen with
    | .lt => some low
    | .gt => some high
    | .eq => some (if low % 2 = 0 then low else high)
  else if lowOk then some low
  else if highOk then some high
  else none

/-- The first grid, of those with `count` digits or more, that reads back. -/
def search (x : Binary64) (first : Int) : Nat → Nat → Nat × Nat
  | 0, count => (count, (onGrid? x first count).getD 0)
  | tries + 1, count =>
    match onGrid? x first count with
    | some n => (count, n)
    | none => search x first tries (count + 1)

/-- The text without the zeros at its end. -/
def dropZeros (digits : List Char) : List Char := (digits.reverse.dropWhile (· == '0')).reverse

/-- The shortest decimal that reads back as `x`, which is not zero. -/
def ofBinary64 (x : Binary64) : Decimal :=
  let (num, den) := x.quotient
  let first := magnitude num den
  let (count, n) := search x first 16 1
  let digits := Nat.toDigits 10 n
  ⟨dropZeros digits, first - count + 1 + digits.length⟩

/-- The number as text. -/
def text (x : Binary64) : List Char :=
  let sign := if x.negative then ['-'] else []
  if x.isZero then sign ++ ['0', '.', '0']
  else
    let d := ofBinary64 x
    let count : Int := d.digits.length
    let exponent := d.point - 1
    if -5 ≤ exponent ∧ exponent ≤ 15 then
      if d.point ≤ 0 then
        sign ++ ['0', '.'] ++ List.replicate (-d.point).toNat '0' ++ d.digits
      else if count ≤ d.point then
        sign ++ d.digits ++ List.replicate (d.point - count).toNat '0' ++ ['.', '0']
      else sign ++ d.digits.take d.point.toNat ++ '.' :: d.digits.drop d.point.toNat
    else
      let mantissa :=
        match d.digits with
        | [] => []
        | [c] => [c]
        | c :: rest => c :: '.' :: rest
      sign ++ mantissa ++ 'e' :: (if exponent < 0 then '-' else '+') ::
        Flagpost.Decimal.digits exponent.natAbs

end Flagpost.Shortest
