import Flagpost.Time.Timestamp

/-!
# Flagpost — the clock of the machine

A machine counts seconds since the start of 1970. Going between that count
and the calendar uses eras of 400 years, each of 146097 days, that begin on
the first of March, so that the leap day is the last day of its year.
-/

namespace Flagpost

/-- Days from 1 March of the year 0 to 1 January 1970. -/
def daysBeforeEpoch : Int := 719468

/-- The date so many days after 1 January 1970. -/
def Date.ofDays? (days : Int) : Option Date :=
  let shifted := days + daysBeforeEpoch
  let era := shifted.fdiv 146097
  let dayOfEra := (shifted - era * 146097).toNat
  let yearOfEra := (dayOfEra - dayOfEra / 1460 + dayOfEra / 36524 - dayOfEra / 146096) / 365
  let dayOfYear := dayOfEra - (365 * yearOfEra + yearOfEra / 4 - yearOfEra / 100)
  let march := (5 * dayOfYear + 2) / 153
  let day := dayOfYear - (153 * march + 2) / 5 + 1
  let month := if march < 10 then march + 3 else march - 9
  let year := (yearOfEra : Int) + era * 400 + (if month ≤ 2 then 1 else 0)
  Date.of? year month day

/-- Days from 1 January 1970 to a date. -/
def Date.toDays (date : Date) : Int :=
  let year := if date.month ≤ 2 then date.year - 1 else date.year
  let era := year.fdiv 400
  let yearOfEra := (year - era * 400).toNat
  let march := if date.month > 2 then date.month - 3 else date.month + 9
  let dayOfYear := (153 * march + 2) / 5 + date.day - 1
  let dayOfEra := yearOfEra * 365 + yearOfEra / 4 - yearOfEra / 100 + dayOfYear
  era * 146097 + dayOfEra - daysBeforeEpoch

namespace Timestamp

/-- The timestamp so many nanoseconds after the start of 1970. -/
def ofNanos? (nanos : Int) : Option Timestamp :=
  let seconds := nanos.fdiv 1000000000
  let days := seconds.fdiv 86400
  (Date.ofDays? days).bind fun date =>
    of? date (seconds - days * 86400).toNat (nanos - seconds * 1000000000).toNat

/-- Whole seconds since the start of 1970. -/
def toSeconds (t : Timestamp) : Int := t.date.toDays * 86400 + t.second

end Timestamp

end Flagpost
