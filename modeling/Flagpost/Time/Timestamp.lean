import Flagpost.Time.Date

/-!
# Flagpost — timestamps

A point in time, in UTC, to the nanosecond. A leap second belongs to the
second before it: its nanoseconds run from one billion to two, and only the
last second of a minute can have one.

* `Timestamp.rank` orders timestamps: it is an integer that is larger for the
  later of two.
* `Timestamp.next?` is the timestamp one nanosecond later. The last timestamp
  has none.
* `Timestamp.text` writes a timestamp so that no precision is lost: the
  fraction has three, six or nine digits, or is left out when it is zero.
-/

namespace Flagpost

/-- A point in time: a day, a second of that day, and nanoseconds. -/
structure Timestamp where
  date : Date
  second : Nat
  nano : Nat
  second_lt : second < 86400
  nano_lt : nano < 2000000000
  leap : 1000000000 ≤ nano → second % 60 = 59
deriving DecidableEq

namespace Timestamp

/-- The timestamp with these parts, if there is one. -/
def of? (date : Date) (second nano : Nat) : Option Timestamp :=
  if h : second < 86400 ∧ nano < 2000000000 ∧ (1000000000 ≤ nano → second % 60 = 59) then
    some ⟨date, second, nano, h.1, h.2.1, h.2.2⟩
  else none

/-- The start of a day. -/
def startOf (date : Date) : Timestamp := ⟨date, 0, 0, by decide, by decide, by decide⟩

/-- The first moment of 1970, which stands for a time that was never set. -/
def epoch : Timestamp := startOf Date.epoch

/-- An integer that is larger for the later of two timestamps. -/
def rank (t : Timestamp) : Int := (t.date.rank * 86400 + t.second) * 2000000000 + t.nano

instance : LT Timestamp := ⟨fun a b => a.rank < b.rank⟩

instance : LE Timestamp := ⟨fun a b => a.rank ≤ b.rank⟩

instance (a b : Timestamp) : Decidable (a < b) := inferInstanceAs (Decidable (a.rank < b.rank))

instance (a b : Timestamp) : Decidable (a ≤ b) := inferInstanceAs (Decidable (a.rank ≤ b.rank))

/-- One nanosecond later. -/
def next? (t : Timestamp) : Option Timestamp :=
  if t.nano + 1 = 1000000000 ∨ t.nano + 1 = 2000000000 then
    if t.second + 1 < 86400 then of? t.date (t.second + 1) 0
    else t.date.next?.map startOf
  else of? t.date t.second (t.nano + 1)

/-- The timestamp in UTC that a clock ahead of UTC by `offset` seconds shows
as `t`. -/
def atOffset? (t : Timestamp) (offset : Int) : Option Timestamp :=
  let second := (t.second : Int) - offset
  if second < 0 then t.date.previous?.bind fun date => of? date (second + 86400).toNat t.nano
  else if second < 86400 then of? t.date second.toNat t.nano
  else t.date.next?.bind fun date => of? date (second - 86400).toNat t.nano

/-- Hours, minutes and seconds; a leap second is second 60. -/
def clockText (t : Timestamp) : List Char :=
  Decimal.padded 2 (t.second / 3600) ++ ':' :: Decimal.padded 2 (t.second / 60 % 60) ++
    ':' :: Decimal.padded 2 (t.second % 60 + t.nano / 1000000000)

/-- The fraction of the second, in the fewest groups of three digits. -/
def fractionText (t : Timestamp) : List Char :=
  let nano := t.nano % 1000000000
  if nano = 0 then []
  else if nano % 1000000 = 0 then '.' :: Decimal.padded 3 (nano / 1000000)
  else if nano % 1000 = 0 then '.' :: Decimal.padded 6 (nano / 1000)
  else '.' :: Decimal.padded 9 nano

/-- The timestamp in full. -/
def chars (t : Timestamp) : List Char :=
  t.date.text ++ 'T' :: t.clockText ++ t.fractionText ++ ['Z']

/-- The timestamp in full, as text. -/
def text (t : Timestamp) : String := String.ofList t.chars

/-- The timestamp without its fraction. -/
def textToSecond (t : Timestamp) : String :=
  String.ofList (t.date.text ++ 'T' :: t.clockText ++ ['Z'])

end Timestamp

end Flagpost
