import Flagpost.Time.Timestamp
import Mathlib.Order.Basic

/-!
# Flagpost — the order of timestamps

Timestamps are ordered by their rank, and the timestamp one nanosecond later is
the later of the two (`Timestamp.lt_of_next?`): the second may end there, a leap
second may, and so may the day, the month and the year.
-/

namespace Flagpost

namespace Date

theorem of?_eq_some {year : Int} {month day : Nat} {d : Date} (h : of? year month day = some d) :
    d.year = year ∧ d.month = month ∧ d.day = day := by
  rw [of?] at h
  split at h
  · cases h
    exact ⟨rfl, rfl, rfl⟩
  · cases h

theorem rank_of_of? {year : Int} {month day : Nat} {d : Date} (h : of? year month day = some d) :
    d.rank = (year * 13 + month) * 32 + day := by
  obtain ⟨hyear, hmonth, hday⟩ := of?_eq_some h
  rw [rank, hyear, hmonth, hday]

theorem day_le (d : Date) : d.day ≤ 31 := by
  have hday := d.exists_.day_le
  unfold daysIn at hday
  split at hday
  · split at hday <;> omega
  · split at hday <;> omega

/-- The day after is later. -/
theorem rank_lt_of_next? {d e : Date} (h : d.next? = some e) : d.rank < e.rank := by
  have hday := d.day_le
  have hmonth := d.exists_.month_le
  rw [next?, Option.or_eq_some_iff, Option.or_eq_some_iff] at h
  rcases h with hsame | ⟨-, hmonth' | ⟨-, hyear⟩⟩
  · rw [rank_of_of? hsame, rank]
    omega
  · rw [rank_of_of? hmonth', rank]
    omega
  · rw [rank_of_of? hyear, rank]
    omega

end Date

namespace Timestamp

instance : Preorder Timestamp where
  le_refl t := Int.le_refl t.rank
  le_trans _ _ _ := Int.le_trans
  lt_iff_le_not_ge _ _ := Int.lt_iff_le_and_not_ge

theorem rank_of_of? {date : Date} {second nano : Nat} {t : Timestamp}
    (h : of? date second nano = some t) :
    t.rank = (date.rank * 86400 + second) * 2000000000 + nano := by
  rw [of?] at h
  split at h
  · cases h
    rfl
  · cases h

/-- One nanosecond later is later. -/
theorem lt_of_next? {t u : Timestamp} (h : t.next? = some u) : t < u := by
  have hsecond := t.second_lt
  have hnano := t.nano_lt
  show t.rank < u.rank
  rw [next?] at h
  split at h
  · split at h
    · -- the next second begins
      rw [rank_of_of? h, rank]
      omega
    · -- the next day begins
      obtain ⟨date, hdate, rfl⟩ := Option.map_eq_some_iff.1 h
      have hlater := Date.rank_lt_of_next? hdate
      show t.rank < (date.rank * 86400 + (0 : Nat)) * 2000000000 + (0 : Nat)
      rw [rank]
      omega
  · rw [rank_of_of? h, rank]
    omega

end Timestamp

end Flagpost
