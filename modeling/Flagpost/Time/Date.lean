import Flagpost.Text.Decimal

/-!
# Flagpost — calendar dates

Days of the proleptic Gregorian calendar, from the year −262143 to the year
262142. A `Date` is valid by its type: `Date.of?` is the only way to make one
from numbers, and the day after the last one does not exist.
-/

namespace Flagpost

namespace Date

/-- Does the year have a 29 February? -/
def isLeapYear (year : Int) : Bool := year % 4 == 0 && (year % 100 != 0 || year % 400 == 0)

/-- The number of days of a month. -/
def daysIn (year : Int) (month : Nat) : Nat :=
  if month = 2 then (if isLeapYear year then 29 else 28)
  else if month = 4 ∨ month = 6 ∨ month = 9 ∨ month = 11 then 30
  else 31

/-- The first year that can be written. -/
def firstYear : Int := -262143

/-- The last year that can be written. -/
def lastYear : Int := 262142

/-- A day that exists. -/
structure Exists (year : Int) (month day : Nat) : Prop where
  year_ge : firstYear ≤ year
  year_le : year ≤ lastYear
  month_pos : 1 ≤ month
  month_le : month ≤ 12
  day_pos : 1 ≤ day
  day_le : day ≤ daysIn year month

instance (year : Int) (month day : Nat) : Decidable (Exists year month day) :=
  decidable_of_iff
    (firstYear ≤ year ∧ year ≤ lastYear ∧ 1 ≤ month ∧ month ≤ 12 ∧ 1 ≤ day ∧
      day ≤ daysIn year month)
    ⟨fun ⟨a, b, c, d, e, f⟩ => ⟨a, b, c, d, e, f⟩,
      fun ⟨a, b, c, d, e, f⟩ => ⟨a, b, c, d, e, f⟩⟩

end Date

/-- A day of the calendar. -/
structure Date where
  year : Int
  month : Nat
  day : Nat
  exists_ : Date.Exists year month day
deriving DecidableEq

namespace Date

/-- The day with these numbers, if there is one. -/
def of? (year : Int) (month day : Nat) : Option Date :=
  if h : Exists year month day then some ⟨year, month, day, h⟩ else none

/-- The day after. -/
def next? (d : Date) : Option Date :=
  (of? d.year d.month (d.day + 1)).or
    ((of? d.year (d.month + 1) 1).or (of? (d.year + 1) 1 1))

/-- The day before. -/
def previous? (d : Date) : Option Date :=
  (of? d.year d.month (d.day - 1)).or
    ((of? d.year (d.month - 1) (daysIn d.year (d.month - 1))).or (of? (d.year - 1) 12 31))

/-- The first of January 1970. -/
def epoch : Date := ⟨1970, 1, 1, by decide⟩

/-- A number that grows from each day to the next. -/
def rank (d : Date) : Int := (d.year * 13 + d.month) * 32 + d.day

/-- The year: four digits, or a sign and at least four. -/
def yearText (year : Int) : List Char :=
  if 0 ≤ year ∧ year ≤ 9999 then Decimal.padded 4 year.natAbs
  else (if year < 0 then '-' else '+') :: Decimal.padded 4 year.natAbs

/-- Year, month and day, with hyphens between them. -/
def text (d : Date) : List Char :=
  yearText d.year ++ '-' :: Decimal.padded 2 d.month ++ '-' :: Decimal.padded 2 d.day

end Date

end Flagpost
