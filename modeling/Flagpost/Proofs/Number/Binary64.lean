import Flagpost.Number.Binary64
import Flagpost.Proofs.Text.Digits
import Mathlib.Algebra.Order.Field.Power
import Mathlib.Data.Int.Log
import Mathlib.Data.Nat.Cast.Order.Field
import Mathlib.Data.Rat.Floor
import Mathlib.Tactic.FieldSimp
import Mathlib.Tactic.Linarith
import Mathlib.Tactic.NormNum
import Mathlib.Tactic.Positivity
import Mathlib.Tactic.Ring

/-!
# Flagpost — what a quotient is rounded to

A quotient is measured in units of a power of two, chosen so that the measure has
fifty-three bits, and rounded to a whole number of units. The exponent of the unit is
that of a logarithm (`unitExponent_eq`), so the power of two in which a quotient lies
decides it, and no more has to be said about how it is computed.

The quotients that are rounded to a number `x` are those around it (`Near`): up to half a
unit away, and below only a quarter where the numbers lie twice as dense, the ends
included if the mantissa is even.

* `ofQuotient?_of_near` — what is near a number is rounded to it;
* `sound_of_ofQuotient?`, `sound_of_ofDecimal?` — what comes of rounding is a number of
  the format.
-/

namespace Flagpost.Binary64

variable {x : Binary64} {num den n d m : Nat} {negative : Bool} {e : Int}

-- ---------------------------------------------------------------------------
-- The format
-- ---------------------------------------------------------------------------

/-- A number of the format: the mantissa has at most fifty-three bits, exactly so many
unless the unit is the least, and the unit is neither too small nor too large. -/
structure Sound (x : Binary64) : Prop where
  mantissa : x.mantissa < 2 ^ 53
  least : leastExponent ≤ x.exponent
  greatest : x.exponent ≤ greatestExponent
  normal : x.exponent = leastExponent ∨ 2 ^ 52 ≤ x.mantissa

theorem sound_zero (negative : Bool) : (zero negative).Sound where
  mantissa := Nat.two_pow_pos 53
  least := le_refl leastExponent
  greatest := show leastExponent ≤ greatestExponent by decide
  normal := .inl rfl

/-- The unit of a number. -/
def unit (x : Binary64) : ℚ := 2 ^ x.exponent

theorem unit_pos (x : Binary64) : 0 < x.unit := zpow_pos (by norm_num) _

-- ---------------------------------------------------------------------------
-- Units
-- ---------------------------------------------------------------------------

theorem inUnits_pos (hden : 0 < den) (num : Nat) (e : Int) : 0 < (inUnits num den e).2 := by
  rw [inUnits]
  split
  · exact Nat.mul_pos hden (Nat.pow_pos (by decide))
  · exact hden

theorem inUnits_div (num den : Nat) (e : Int) :
    ((inUnits num den e).1 : ℚ) / (inUnits num den e).2 = num / den / 2 ^ e := by
  rw [inUnits]
  split
  · -- the unit is a whole number, and goes to the denominator
    rename_i he
    obtain ⟨k, rfl⟩ := Int.eq_ofNat_of_zero_le he
    rw [Int.toNat_natCast, Nat.pow_eq]
    push_cast
    rw [zpow_natCast, div_div]
  · -- the unit is a part of one, and goes to the numerator
    rename_i he
    obtain ⟨k, hk⟩ := Int.eq_ofNat_of_zero_le (show 0 ≤ -e by omega)
    obtain rfl : e = -k := by omega
    rw [neg_neg, Int.toNat_natCast, Nat.pow_eq]
    push_cast
    rw [zpow_neg, zpow_natCast, div_inv_eq_mul]
    ring

/-- A quotient of two numbers with so many bits lies between two powers of two. -/
theorem log2_bounds (hnum : num ≠ 0) (hden : den ≠ 0) :
    (2 : ℚ) ^ ((num.log2 : Int) - den.log2 - 1) < num / den ∧
      (num : ℚ) / den < 2 ^ ((num.log2 : Int) - den.log2 + 1) := by
  have hnumLow : (2 : ℚ) ^ num.log2 ≤ num := by exact_mod_cast Nat.log2_self_le hnum
  have hnumHigh : (num : ℚ) < 2 ^ (num.log2 + 1) := by exact_mod_cast Nat.lt_log2_self
  have hdenLow : (2 : ℚ) ^ den.log2 ≤ den := by exact_mod_cast Nat.log2_self_le hden
  have hdenHigh : (den : ℚ) < 2 ^ (den.log2 + 1) := by exact_mod_cast Nat.lt_log2_self
  have hpos : (0 : ℚ) < den := by positivity
  constructor
  · -- the least numerator over the greatest denominator
    rw [lt_div_iff₀ hpos, sub_sub, zpow_sub₀ (by norm_num), div_mul_eq_mul_div,
      div_lt_iff₀ (by positivity)]
    have hpow : (0 : ℚ) < 2 ^ num.log2 := by positivity
    calc (2 : ℚ) ^ (num.log2 : Int) * den < 2 ^ (num.log2 : Int) * 2 ^ ((den.log2 : Int) + 1) := by
          rw [zpow_natCast]
          exact mul_lt_mul_of_pos_left (by exact_mod_cast hdenHigh) hpow
      _ ≤ num * 2 ^ ((den.log2 : Int) + 1) := by
          rw [zpow_natCast]
          exact mul_le_mul_of_nonneg_right hnumLow (by positivity)
  · -- the greatest numerator over the least denominator
    rw [div_lt_iff₀ hpos, show (num.log2 : Int) - den.log2 + 1 = (num.log2 + 1 : Int) - den.log2 by
      ring, zpow_sub₀ (by norm_num), div_mul_eq_mul_div, lt_div_iff₀ (by positivity)]
    calc (num : ℚ) * 2 ^ (den.log2 : Int) ≤ num * den := by
          rw [zpow_natCast]
          exact mul_le_mul_of_nonneg_left hdenLow (by positivity)
      _ < 2 ^ ((num.log2 : Int) + 1) * den :=
          mul_lt_mul_of_pos_right (by exact_mod_cast hnumHigh) hpos

/-- The unit is chosen by the logarithm of the quotient. -/
theorem unitExponent_eq (hnum : num ≠ 0) (hden : den ≠ 0) :
    unitExponent num den = max (Int.log 2 ((num : ℚ) / den) - 52) leastExponent := by
  obtain ⟨hlow, hhigh⟩ := log2_bounds hnum hden
  have hpos : (0 : ℚ) < num / den := by positivity
  set k : Int := (num.log2 : Int) - den.log2 with hk
  -- the trial division tells on which side of the middle power the quotient lies
  have hfloor : (inUnits num den (k - 52)).1 / (inUnits num den (k - 52)).2 < 2 ^ 52 ↔
      (num : ℚ) / den < 2 ^ k := by
    have hd : (0 : ℚ) < (inUnits num den (k - 52)).2 := by
      exact_mod_cast inUnits_pos (Nat.pos_of_ne_zero hden) num (k - 52)
    have hdiv := inUnits_div num den (k - 52)
    rw [Nat.div_lt_iff_lt_mul (inUnits_pos (Nat.pos_of_ne_zero hden) num (k - 52)),
      ← Nat.cast_lt (α := ℚ), Nat.cast_mul, Nat.cast_pow, Nat.cast_ofNat]
    have hpow : (2 : ℚ) ^ 52 * 2 ^ (k - 52) = 2 ^ k := by
      rw [← zpow_natCast, ← zpow_add₀ (by norm_num)]
      congr 1
      omega
    rw [← div_lt_iff₀ hd, hdiv, div_lt_iff₀ (by positivity), hpow]
  rw [unitExponent]
  dsimp only
  rw [← hk, Nat.pow_eq]
  congr 1
  split
  · -- below it, the logarithm is one less than the lengths say
    rename_i hlt
    have hlog : Int.log 2 ((num : ℚ) / den) = k - 1 := by
      have h₁ := (Int.zpow_le_iff_le_log (by norm_num : 1 < 2) hpos).1 hlow.le
      have h₂ := (Int.lt_zpow_iff_log_lt (by norm_num : 1 < 2) hpos).1 (hfloor.1 hlt)
      omega
    omega
  · -- at it or above, the lengths are right
    rename_i hge
    have hlog : Int.log 2 ((num : ℚ) / den) = k := by
      have h₁ := (Int.zpow_le_iff_le_log (by norm_num : 1 < 2) hpos).1
        (not_lt.1 (mt hfloor.2 hge))
      have h₂ := (Int.lt_zpow_iff_log_lt (by norm_num : 1 < 2) hpos).1 hhigh
      omega
    omega

-- ---------------------------------------------------------------------------
-- Rounding to whole numbers
-- ---------------------------------------------------------------------------

theorem le_roundQuotient (hd : 0 < d) (h : (m : ℚ) ≤ n / d) : m ≤ roundQuotient n d := by
  have hpos : (0 : ℚ) < d := by exact_mod_cast hd
  have hfloor : m ≤ n / d := by
    rw [Nat.le_div_iff_mul_le hd]
    rw [le_div_iff₀ hpos] at h
    exact_mod_cast h
  rw [roundQuotient]
  split <;> omega

theorem roundQuotient_le (hd : 0 < d) (h : (n : ℚ) / d < m) : roundQuotient n d ≤ m := by
  have hpos : (0 : ℚ) < d := by exact_mod_cast hd
  have hfloor : n / d < m := by
    rw [Nat.div_lt_iff_lt_mul hd]
    rw [div_lt_iff₀ hpos] at h
    exact_mod_cast h
  rw [roundQuotient]
  split <;> omega

/-- A quotient is rounded to a whole number that is at most a half away, if the number is
even or nearer. -/
theorem roundQuotient_eq (hd : 0 < d) (hlow : (m : ℚ) - 1 / 2 ≤ n / d)
    (hhigh : (n : ℚ) / d ≤ m + 1 / 2)
    (hends : m % 2 = 0 ∨ (m : ℚ) - 1 / 2 < n / d ∧ (n : ℚ) / d < m + 1 / 2) :
    roundQuotient n d = m := by
  have hpos : (0 : ℚ) < d := by exact_mod_cast hd
  -- the same in whole numbers
  have hlow' : 2 * (m * d) ≤ 2 * n + d := by
    rw [le_div_iff₀ hpos] at hlow
    have : (2 : ℚ) * (m * d) ≤ 2 * n + d := by linarith
    exact_mod_cast this
  have hhigh' : 2 * n ≤ 2 * (m * d) + d := by
    rw [div_le_iff₀ hpos] at hhigh
    have : (2 : ℚ) * n ≤ 2 * (m * d) + d := by linarith
    exact_mod_cast this
  have hends' : m % 2 = 0 ∨ 2 * (m * d) < 2 * n + d ∧ 2 * n < 2 * (m * d) + d := by
    refine hends.imp_right fun ⟨hl, hh⟩ => ?_
    rw [lt_div_iff₀ hpos] at hl
    rw [div_lt_iff₀ hpos] at hh
    have hl' : (2 : ℚ) * (m * d) < 2 * n + d := by linarith
    have hh' : (2 : ℚ) * n < 2 * (m * d) + d := by linarith
    exact ⟨by exact_mod_cast hl', by exact_mod_cast hh'⟩
  have hsplit : d * (n / d) + n % d = n := Nat.div_add_mod n d
  have hrest : n % d < d := Nat.mod_lt n hd
  rw [roundQuotient]
  generalize n / d = q at hsplit
  generalize n % d = r at hsplit hrest
  subst hsplit
  -- the whole part is the number, or the one before it
  have hcases : m = q ∨ m = q + 1 := by
    have hle : q ≤ m := by
      by_contra hlt
      have hstep : m + 1 ≤ q := by omega
      have hmul := Nat.mul_le_mul_left d hstep
      rw [Nat.mul_add, Nat.mul_comm d m] at hmul
      omega
    have hge : m ≤ q + 1 := by
      by_contra hlt
      have hstep : q + 2 ≤ m := by omega
      have hmul := Nat.mul_le_mul_left d hstep
      rw [Nat.mul_add, Nat.mul_comm d m] at hmul
      omega
    omega
  rcases hcases with rfl | rfl
  · rw [Nat.mul_comm m d] at hlow' hhigh' hends'
    rw [if_neg]
    omega
  · rw [Nat.add_mul, Nat.mul_comm q d, Nat.one_mul] at hlow' hhigh' hends'
    rw [if_pos]
    omega

-- ---------------------------------------------------------------------------
-- The nearest number
-- ---------------------------------------------------------------------------

/-- How far below a number quotients are rounded to it, in quarters of its unit: half a
unit, or a quarter where the units below are half as large. -/
def quartersBelow (x : Binary64) : Nat :=
  if x.mantissa = 2 ^ 52 ∧ x.exponent ≠ leastExponent then 1 else 2

/-- The quotients that are rounded to a number, measured in its unit. -/
structure Near (x : Binary64) (v : ℚ) : Prop where
  low : x.mantissa - (x.quartersBelow : ℚ) / 4 ≤ v / x.unit
  high : v / x.unit ≤ x.mantissa + 1 / 2
  ends : x.mantissa % 2 = 0 ∨
    x.mantissa - (x.quartersBelow : ℚ) / 4 < v / x.unit ∧ v / x.unit < x.mantissa + 1 / 2

theorem quartersBelow_le (x : Binary64) : x.quartersBelow ≤ 2 := by
  rw [quartersBelow]
  split <;> omega

theorem Near.pos {v : ℚ} (h : x.Near v) (hmantissa : 0 < x.mantissa) : 0 < v := by
  have hquarters : (x.quartersBelow : ℚ) ≤ 2 := by exact_mod_cast quartersBelow_le x
  have hone : (1 : ℚ) ≤ x.mantissa := by exact_mod_cast hmantissa
  have hmeasure : 0 < v / x.unit := by linarith [h.low]
  exact (div_pos_iff_of_pos_right x.unit_pos).1 hmeasure

/-- A quotient is rounded as its measure in the chosen unit is. -/
theorem ofQuotient?_of_round (hnum : num ≠ 0)
    (hround : roundQuotient (inUnits num den (unitExponent num den)).1
      (inUnits num den (unitExponent num den)).2 = m) :
    ofQuotient? negative num den =
      if m = 2 ^ 53 then
        if greatestExponent < unitExponent num den + 1 then none
        else some ⟨negative, 2 ^ 52, unitExponent num den + 1⟩
      else if greatestExponent < unitExponent num den then none
      else some ⟨negative, m, unitExponent num den⟩ := by
  rw [ofQuotient?, if_neg hnum]
  dsimp only
  rw [hround, Nat.pow_eq, Nat.pow_eq]
  by_cases hcarry : m = 2 ^ 53
  · rw [if_pos hcarry, if_pos hcarry]
  · rw [if_neg hcarry, if_neg hcarry]

theorem Near.lt_two_zpow {v : ℚ} (h : x.Near v) (hx : x.Sound) : v < 2 ^ (x.exponent + 53) := by
  have hfull : (x.mantissa : ℚ) + 1 ≤ 2 ^ 53 := by exact_mod_cast hx.mantissa
  have hmeasure : v / x.unit < 2 ^ 53 := by linarith [h.high]
  rw [div_lt_iff₀ x.unit_pos] at hmeasure
  rwa [zpow_add₀ (by norm_num), mul_comm]

theorem Near.num_ne_zero (h : x.Near ((num : ℚ) / den)) (hmantissa : 0 < x.mantissa) : num ≠ 0 := by
  rintro rfl
  have hpos := h.pos hmantissa
  simp at hpos

/-- Near a number, and not below all numbers with its unit, a quotient is measured in the
unit of the number. -/
theorem ofQuotient?_of_near_same (hx : x.Sound) (hmantissa : 0 < x.mantissa) (hden : 0 < den)
    (h : x.Near ((num : ℚ) / den))
    (hsame : x.exponent = leastExponent ∨ (2 : ℚ) ^ (x.exponent + 52) ≤ num / den) :
    ofQuotient? x.negative num den = some x := by
  have hnum := h.num_ne_zero hmantissa
  have hpos := h.pos hmantissa
  -- the logarithm of the quotient is that of the number, or both are at the least unit
  have hexponent : unitExponent num den = x.exponent := by
    have hupper := (Int.lt_zpow_iff_log_lt (by norm_num : 1 < 2) hpos).1 (h.lt_two_zpow hx)
    have hleast := hx.least
    rw [unitExponent_eq hnum hden.ne']
    rcases hsame with heq | hlower
    · omega
    · have hlog := (Int.zpow_le_iff_le_log (by norm_num : 1 < 2) hpos).1 hlower
      omega
  have hdiv := inUnits_div num den x.exponent
  have hquarters : (x.quartersBelow : ℚ) ≤ 2 := by exact_mod_cast quartersBelow_le x
  -- within half a unit of the number, and at the half only where it is even
  have hround : roundQuotient (inUnits num den x.exponent).1 (inUnits num den x.exponent).2 =
      x.mantissa := by
    refine roundQuotient_eq (inUnits_pos hden num _) ?_ ?_
      (h.ends.imp_right fun ⟨hlow, hhigh⟩ => ⟨?_, ?_⟩) <;> rw [hdiv, ← unit]
    · linarith [h.low]
    · exact h.high
    · linarith
    · exact hhigh
  rw [ofQuotient?_of_round hnum (hexponent.symm ▸ hround), hexponent, if_neg hx.mantissa.ne,
    if_neg (not_lt.2 hx.greatest)]

/-- Below all numbers with its unit, only a quarter of the unit is near a number, which has
the least mantissa. -/
theorem Near.of_lt {v : ℚ} (h : x.Near v) (hx : x.Sound) (hleast : x.exponent ≠ leastExponent)
    (hlt : v < 2 ^ (x.exponent + 52)) :
    x.mantissa = 2 ^ 52 ∧ 2 ^ 52 - 1 / 4 ≤ v / x.unit ∧ v / x.unit < 2 ^ 52 := by
  have hbelow : v / x.unit < 2 ^ 52 := by
    rwa [div_lt_iff₀ x.unit_pos, unit, ← zpow_natCast, ← zpow_add₀ (by norm_num), add_comm]
  have hquarters : (x.quartersBelow : ℚ) ≤ 2 := by exact_mod_cast quartersBelow_le x
  have hmantissa : x.mantissa = 2 ^ 52 := by
    refine le_antisymm ?_ (hx.normal.resolve_left hleast)
    by_contra hmore
    have hmore : (2 : ℚ) ^ 52 + 1 ≤ x.mantissa := by exact_mod_cast not_le.1 hmore
    linarith [h.low]
  have hone : x.quartersBelow = 1 := if_pos ⟨hmantissa, hleast⟩
  have hlow := h.low
  rw [hmantissa, hone] at hlow
  push_cast at hlow
  exact ⟨hmantissa, hlow, hbelow⟩

/-- There the unit is half as large, and what a quotient is rounded to has one bit too many. -/
theorem ofQuotient?_of_near_half (hx : x.Sound) (hmantissa : 0 < x.mantissa) (hden : 0 < den)
    (h : x.Near ((num : ℚ) / den)) (hleast : x.exponent ≠ leastExponent)
    (hlt : (num : ℚ) / den < 2 ^ (x.exponent + 52)) :
    ofQuotient? x.negative num den = some x := by
  obtain ⟨hmantissa', hlow, hbelow⟩ := h.of_lt hx hleast hlt
  have hnum := h.num_ne_zero hmantissa
  have hpos := h.pos hmantissa
  -- the quotient is just below a power of two, so its unit is half that of the number
  have hexponent : unitExponent num den = x.exponent - 1 := by
    have hlower : (2 : ℚ) ^ (x.exponent + 51) ≤ num / den := by
      have hmeasure : (2 : ℚ) ^ 51 ≤ num / den / x.unit := by linarith
      rw [le_div_iff₀ x.unit_pos] at hmeasure
      rwa [zpow_add₀ (by norm_num), mul_comm]
    have hlog := (Int.zpow_le_iff_le_log (by norm_num : 1 < 2) hpos).1 hlower
    have hlog' := (Int.lt_zpow_iff_log_lt (by norm_num : 1 < 2) hpos).1 hlt
    have := hx.least
    rw [unitExponent_eq hnum hden.ne']
    omega
  have hdiv : ((inUnits num den (x.exponent - 1)).1 : ℚ) / (inUnits num den (x.exponent - 1)).2 =
      2 * (num / den / x.unit) := by
    rw [inUnits_div, zpow_sub₀ (by norm_num), unit]
    field_simp
  -- the number itself is one bit too long in this unit
  have hround : roundQuotient (inUnits num den (x.exponent - 1)).1
      (inUnits num den (x.exponent - 1)).2 = 2 ^ 53 := by
    refine roundQuotient_eq (inUnits_pos hden num _) ?_ ?_ (.inl (by norm_num)) <;>
      rw [hdiv] <;> push_cast
    · linarith
    · linarith
  rw [ofQuotient?_of_round hnum (hexponent.symm ▸ hround), hexponent, if_pos rfl, sub_add_cancel,
    if_neg (not_lt.2 hx.greatest), ← hmantissa']

/-- **Nearness decides.** A quotient near a number of the format that is not zero is rounded
to the number. -/
theorem ofQuotient?_of_near (hx : x.Sound) (hmantissa : 0 < x.mantissa) (hden : 0 < den)
    (h : x.Near ((num : ℚ) / den)) : ofQuotient? x.negative num den = some x := by
  by_cases hsame : x.exponent = leastExponent ∨ (2 : ℚ) ^ (x.exponent + 52) ≤ num / den
  · exact ofQuotient?_of_near_same hx hmantissa hden h hsame
  · obtain ⟨hleast, hlt⟩ := not_or.1 hsame
    exact ofQuotient?_of_near_half hx hmantissa hden h hleast (not_le.1 hlt)

-- ---------------------------------------------------------------------------
-- What comes of rounding
-- ---------------------------------------------------------------------------

/-- In the chosen unit a quotient measures less than fifty-four bits, -/
theorem measure_lt (hnum : num ≠ 0) (hden : den ≠ 0) :
    (num : ℚ) / den / 2 ^ unitExponent num den < 2 ^ 53 := by
  have hpos : (0 : ℚ) < num / den := by positivity
  have hexponent := unitExponent_eq hnum hden
  rw [div_lt_iff₀ (by positivity), ← zpow_natCast, ← zpow_add₀ (by norm_num)]
  refine (Int.lt_zpow_iff_log_lt (by norm_num : 1 < 2) hpos).2 ?_
  push_cast
  omega

/-- and fifty-three bits, unless it is the least. -/
theorem le_measure (hnum : num ≠ 0) (hden : den ≠ 0) (h : unitExponent num den ≠ leastExponent) :
    2 ^ 52 ≤ (num : ℚ) / den / 2 ^ unitExponent num den := by
  have hpos : (0 : ℚ) < num / den := by positivity
  have hexponent := unitExponent_eq hnum hden
  rw [le_div_iff₀ (by positivity), ← zpow_natCast, ← zpow_add₀ (by norm_num)]
  refine (Int.zpow_le_iff_le_log (by norm_num : 1 < 2) hpos).2 ?_
  push_cast
  omega

/-- What a quotient is rounded to is a number of the format. -/
theorem sound_of_ofQuotient? (hden : 0 < den) (h : ofQuotient? negative num den = some x) :
    x.Sound := by
  -- zero is a number of the format
  by_cases hnum : num = 0
  · rw [ofQuotient?, if_pos hnum] at h
    cases h
    exact sound_zero negative
  have hd := inUnits_pos hden num (unitExponent num den)
  have hdiv := inUnits_div num den (unitExponent num den)
  have hleast : leastExponent ≤ unitExponent num den := by
    rw [unitExponent_eq hnum hden.ne']
    exact le_max_right _ _
  have hle := roundQuotient_le (m := 2 ^ 53) hd (by
    rw [hdiv]
    exact_mod_cast measure_lt hnum hden.ne')
  have hge : unitExponent num den = leastExponent ∨ 2 ^ 52 ≤ roundQuotient
      (inUnits num den (unitExponent num den)).1 (inUnits num den (unitExponent num den)).2 := by
    refine or_iff_not_imp_left.2 fun hne => le_roundQuotient hd ?_
    rw [hdiv]
    exact_mod_cast le_measure hnum hden.ne' hne
  rw [ofQuotient?_of_round hnum rfl] at h
  split at h
  · -- the rounding carried into a further bit, and the unit is doubled
    split at h <;> cases h
    rename_i hgreatest
    exact ⟨show 2 ^ 52 < 2 ^ 53 by decide, le_add_of_le_of_nonneg hleast (by decide),
      not_lt.1 hgreatest, .inr (le_refl _)⟩
  · -- the mantissa has the bits it may have
    rename_i hcarry
    split at h <;> cases h
    rename_i hgreatest
    exact ⟨lt_of_le_of_ne hle hcarry, hleast, not_lt.1 hgreatest, hge⟩

theorem sound_of_ofDecimal? {digits : Nat} {power : Int}
    (h : ofDecimal? negative digits power = some x) : x.Sound := by
  rw [ofDecimal?] at h
  dsimp only at h
  split at h
  · cases h
    exact sound_zero negative
  · split at h
    · cases h
    · split at h
      · cases h
        exact sound_zero negative
      · split at h
        · exact sound_of_ofQuotient? Nat.one_pos h
        · exact sound_of_ofQuotient? (Nat.pow_pos (by decide)) h

-- ---------------------------------------------------------------------------
-- Decimals
-- ---------------------------------------------------------------------------

theorem two_zpow_lt : (2 : ℚ) ^ (1200 : Int) < 10 ^ (400 : Int) := by
  rw [show (1200 : Int) = 3 * 400 by norm_num, zpow_mul]
  exact zpow_lt_zpow_left₀ (by norm_num) (by norm_num) (by norm_num)

/-- What is near a number of the format is far from the bounds at which a decimal is given
up. -/
theorem Near.bounds {v : ℚ} (h : x.Near v) (hx : x.Sound) (hmantissa : 0 < x.mantissa) :
    10 ^ (-400 : Int) < v ∧ v < 10 ^ (400 : Int) := by
  have hquarters : (x.quartersBelow : ℚ) ≤ 2 := by exact_mod_cast quartersBelow_le x
  have hone : (1 : ℚ) ≤ x.mantissa := by exact_mod_cast hmantissa
  have hfull : (x.mantissa : ℚ) + 1 ≤ 2 ^ 53 := by exact_mod_cast hx.mantissa
  have hlow : 1 / 2 ≤ v / x.unit := by linarith [h.low]
  have hhigh : v / x.unit ≤ 2 ^ 53 := by linarith [h.high]
  rw [le_div_iff₀ x.unit_pos] at hlow
  rw [div_le_iff₀ x.unit_pos] at hhigh
  constructor
  · -- the least unit is far above the lower bound
    calc (10 : ℚ) ^ (-400 : Int) < 2 ^ (-1200 : Int) := by
          rw [zpow_neg, zpow_neg]
          exact inv_strictAnti₀ (by positivity) two_zpow_lt
      _ ≤ 2 ^ (-1 + x.exponent) := by
          refine zpow_le_zpow_right₀ (by norm_num) ?_
          have hleast := hx.least
          rw [leastExponent] at hleast
          omega
      _ = 1 / 2 * x.unit := by rw [zpow_add₀ (by norm_num), unit, zpow_neg_one, one_div]
      _ ≤ v := hlow
  · -- the greatest unit is far below the upper bound
    calc v ≤ 2 ^ 53 * x.unit := hhigh
      _ = 2 ^ (53 + x.exponent) := by
          rw [zpow_add₀ (by norm_num), unit]
          norm_cast
      _ ≤ 2 ^ (1200 : Int) := by
          refine zpow_le_zpow_right₀ (by norm_num) ?_
          have hgreatest := hx.greatest
          rw [greatestExponent] at hgreatest
          omega
      _ < 10 ^ (400 : Int) := two_zpow_lt

/-- **Decimals near a number.** A decimal near a number of the format that is not zero is read
as the number. -/
theorem ofDecimal?_of_near {digits : Nat} {power : Int} (hx : x.Sound) (hmantissa : 0 < x.mantissa)
    (h : x.Near ((digits : ℚ) * 10 ^ power)) : ofDecimal? x.negative digits power = some x := by
  have hpos := h.pos hmantissa
  have hdigits : digits ≠ 0 := by
    rintro rfl
    simp at hpos
  obtain ⟨hlow, hhigh⟩ := h.bounds hx hmantissa
  set size := (Decimal.digits digits).length with hsize
  have hsizePos : 0 < size := Nat.length_toDigits_pos
  -- a decimal with so many digits and this power is neither too small
  have habove : -400 < power + size := by
    have hlt : (digits : ℚ) < 10 ^ (size : Int) := by
      exact_mod_cast Decimal.lt_pow_length_digits digits
    have hpow : (10 : ℚ) ^ (-400 : Int) < 10 ^ (power + size) := by
      rw [zpow_add₀ (by norm_num), mul_comm]
      exact hlow.trans (mul_lt_mul_of_pos_right hlt (by positivity))
    exact (zpow_lt_zpow_iff_right₀ (by norm_num)).1 hpow
  -- nor too large to be looked at
  have hbelow : power + size ≤ 400 := by
    have hle : (10 : ℚ) ^ ((size - 1 : Nat) : Int) ≤ digits := by
      exact_mod_cast Decimal.pow_length_digits_le hdigits
    have hpow : (10 : ℚ) ^ (power + (size - 1 : Nat)) < 10 ^ (400 : Int) := by
      rw [zpow_add₀ (by norm_num), mul_comm]
      exact (mul_le_mul_of_nonneg_right hle (by positivity)).trans_lt hhigh
    have := (zpow_lt_zpow_iff_right₀ (by norm_num)).1 hpow
    omega
  rw [ofDecimal?, if_neg hdigits]
  dsimp only
  rw [← Decimal.digits, ← hsize, if_neg (by omega), if_neg (by omega)]
  split
  · -- the decimal is a whole number
    rename_i hpower
    obtain ⟨k, rfl⟩ := Int.eq_ofNat_of_zero_le hpower
    refine ofQuotient?_of_near hx hmantissa Nat.one_pos ?_
    rw [Int.toNat_natCast, Nat.pow_eq]
    rw [zpow_natCast] at h
    push_cast
    rwa [div_one]
  · -- the decimal is a quotient by a power of ten
    rename_i hpower
    obtain ⟨k, hk⟩ := Int.eq_ofNat_of_zero_le (show 0 ≤ -power by omega)
    obtain rfl : power = -k := by omega
    refine ofQuotient?_of_near hx hmantissa (Nat.pow_pos (by decide)) ?_
    rw [neg_neg, Int.toNat_natCast, Nat.pow_eq]
    rw [zpow_neg, zpow_natCast] at h
    push_cast
    rwa [div_eq_mul_inv]

end Flagpost.Binary64
