import Flagpost.Number.Shortest
import Flagpost.Proofs.Number.Binary64

/-!
# Flagpost — the shortest decimal form reads back

The decimal that is written for a number lies near it, so it is read as the number
(`ofDecimal?_ofBinary64`). Each grid of decimals is finer than the one before, and the one
with seventeen digits is finer than the numbers are apart: of the two decimals next to a
number, one is then nearer to it than to any other number (`onGrid?_seventeen`). So the
search ends with a decimal that reads back, whichever grid it ends on.
-/

namespace Flagpost

namespace Shortest

open Binary64

variable {x : Binary64} {num den n : Nat} {a b c d : Nat} {first : Int}

-- ---------------------------------------------------------------------------
-- The number as a quotient
-- ---------------------------------------------------------------------------

theorem quotient_pos (x : Binary64) : 0 < x.quotient.2 := by
  rw [quotient]
  split
  · exact Nat.one_pos
  · exact Nat.pow_pos (by decide)

theorem quotient_div (x : Binary64) :
    (x.quotient.1 : ℚ) / x.quotient.2 = x.mantissa * x.unit := by
  rw [quotient, unit]
  split
  · rename_i he
    obtain ⟨k, hk⟩ := Int.eq_ofNat_of_zero_le he
    rw [hk, Int.toNat_natCast, Nat.pow_eq]
    push_cast
    rw [zpow_natCast, div_one]
  · rename_i he
    obtain ⟨k, hk⟩ := Int.eq_ofNat_of_zero_le (show 0 ≤ -x.exponent by omega)
    obtain hk' : x.exponent = -k := by omega
    rw [hk', neg_neg, Int.toNat_natCast, Nat.pow_eq]
    push_cast
    rw [zpow_neg, zpow_natCast, div_eq_mul_inv]

theorem compareQuotients_eq_lt (hb : 0 < b) (hd : 0 < d) :
    compareQuotients a b c d = .lt ↔ (a : ℚ) / b < c / d := by
  have hbq : (0 : ℚ) < b := by exact_mod_cast hb
  have hdq : (0 : ℚ) < d := by exact_mod_cast hd
  rw [compareQuotients, Nat.compare_eq_lt, div_lt_div_iff₀ hbq hdq]
  exact_mod_cast Iff.rfl

theorem compareQuotients_eq_gt (hb : 0 < b) (hd : 0 < d) :
    compareQuotients a b c d = .gt ↔ (c : ℚ) / d < a / b := by
  have hbq : (0 : ℚ) < b := by exact_mod_cast hb
  have hdq : (0 : ℚ) < d := by exact_mod_cast hd
  rw [compareQuotients, Nat.compare_eq_gt, div_lt_div_iff₀ hdq hbq]
  exact_mod_cast Iff.rfl

/-- The test of a decimal says whether it lies near the number. -/
theorem readsBack_iff (hmantissa : 0 < x.mantissa) {unitNum unitDen : Nat} (hunit : 0 < unitDen) :
    readsBack x n unitNum unitDen = true ↔ x.Near ((n : ℚ) * (unitNum / unitDen)) := by
  set quarter : Binary64 := ⟨false, 1, x.exponent - 2⟩ with hquarter
  have hq := quotient_pos quarter
  have hpos := x.unit_pos
  have hdiv : (quarter.quotient.1 : ℚ) / quarter.quotient.2 = x.unit / 4 := by
    rw [quotient_div, hquarter, unit, unit]
    dsimp only
    rw [zpow_sub₀ (by norm_num)]
    norm_num
  set v : ℚ := n * (unitNum / unitDen) with hv
  have hvalue : (((n * unitNum : Nat) : ℚ)) / unitDen = v := by
    rw [hv]
    push_cast
    ring
  have hlow : ((((4 * x.mantissa - x.quartersBelow) * quarter.quotient.1 : Nat) : ℚ)) /
      quarter.quotient.2 = (x.mantissa - (x.quartersBelow : ℚ) / 4) * x.unit := by
    have hle : x.quartersBelow ≤ 4 * x.mantissa := by
      have := quartersBelow_le x
      omega
    rw [Nat.cast_mul, mul_div_assoc, hdiv, Nat.cast_sub hle]
    push_cast
    ring
  have hhigh : ((((4 * x.mantissa + 2) * quarter.quotient.1 : Nat) : ℚ)) /
      quarter.quotient.2 = (x.mantissa + 1 / 2) * x.unit := by
    rw [Nat.cast_mul, mul_div_assoc, hdiv]
    push_cast
    ring
  -- the two comparisons, in units of the number
  have hlowLt : compareQuotients (n * unitNum) unitDen
      ((4 * x.mantissa - x.quartersBelow) * quarter.quotient.1) quarter.quotient.2 = .lt ↔
        v / x.unit < x.mantissa - (x.quartersBelow : ℚ) / 4 := by
    rw [compareQuotients_eq_lt hunit hq, hvalue, hlow, div_lt_iff₀ hpos]
  have hlowGt : compareQuotients (n * unitNum) unitDen
      ((4 * x.mantissa - x.quartersBelow) * quarter.quotient.1) quarter.quotient.2 = .gt ↔
        x.mantissa - (x.quartersBelow : ℚ) / 4 < v / x.unit := by
    rw [compareQuotients_eq_gt hunit hq, hvalue, hlow, lt_div_iff₀ hpos]
  have hhighLt : compareQuotients (n * unitNum) unitDen
      ((4 * x.mantissa + 2) * quarter.quotient.1) quarter.quotient.2 = .lt ↔
        v / x.unit < x.mantissa + 1 / 2 := by
    rw [compareQuotients_eq_lt hunit hq, hvalue, hhigh, div_lt_iff₀ hpos]
  have hhighGt : compareQuotients (n * unitNum) unitDen
      ((4 * x.mantissa + 2) * quarter.quotient.1) quarter.quotient.2 = .gt ↔
        x.mantissa + 1 / 2 < v / x.unit := by
    rw [compareQuotients_eq_gt hunit hq, hvalue, hhigh, lt_div_iff₀ hpos]
  rw [readsBack]
  dsimp only
  have hbelow : (if x.mantissa = Nat.pow 2 52 ∧ x.exponent ≠ leastExponent then 1 else 2) =
      x.quartersBelow := rfl
  rw [hbelow, ← hquarter]
  split
  · rename_i heven
    rw [Bool.and_eq_true, bne_iff_ne, bne_iff_ne, ne_eq, ne_eq, hlowLt, hhighGt, not_lt, not_lt]
    exact ⟨fun h => ⟨h.1, h.2, .inl heven⟩, fun h => ⟨h.low, h.high⟩⟩
  · rename_i hodd
    rw [Bool.and_eq_true, beq_iff_eq, beq_iff_eq, hlowGt, hhighLt]
    exact ⟨fun h => ⟨h.1.le, h.2.le, .inr h⟩, fun h => h.ends.resolve_left hodd⟩

-- ---------------------------------------------------------------------------
-- One grid
-- ---------------------------------------------------------------------------

/-- A decimal that is no further than the number itself from the middle between two
numbers is near the number. -/
theorem near_or_below {v : ℚ} (h : v / x.unit ≤ x.mantissa) :
    x.Near v ∨ v / x.unit ≤ x.mantissa - (x.quartersBelow : ℚ) / 4 := by
  by_cases hlow : v / x.unit ≤ x.mantissa - (x.quartersBelow : ℚ) / 4
  · exact .inr hlow
  · have hlow := not_le.1 hlow
    exact .inl ⟨hlow.le, by linarith, .inr ⟨hlow, by linarith⟩⟩

theorem near_or_above {v : ℚ} (h : x.mantissa ≤ v / x.unit) :
    x.Near v ∨ x.mantissa + 1 / 2 ≤ v / x.unit := by
  have hquarters : 0 < (x.quartersBelow : ℚ) := by
    rw [quartersBelow]
    split <;> norm_num
  by_cases hhigh : x.mantissa + 1 / 2 ≤ v / x.unit
  · exact .inr hhigh
  · have hhigh := not_le.1 hhigh
    exact .inl ⟨by linarith, hhigh.le, .inr ⟨by linarith, hhigh⟩⟩

/-- The unit of a grid as a quotient. -/
theorem gridUnit_cases (power : Int) : ∃ unitNum unitDen : Nat,
    (if 0 ≤ power then (Nat.pow 10 power.toNat, 1) else (1, Nat.pow 10 (-power).toNat)) =
      (unitNum, unitDen) ∧ 0 < unitNum ∧ 0 < unitDen ∧ (unitNum : ℚ) / unitDen = 10 ^ power := by
  split
  · rename_i hpower
    obtain ⟨k, rfl⟩ := Int.eq_ofNat_of_zero_le hpower
    refine ⟨_, _, rfl, Nat.pow_pos (by decide), Nat.one_pos, ?_⟩
    rw [Int.toNat_natCast, Nat.pow_eq]
    push_cast
    rw [zpow_natCast, div_one]
  · rename_i hpower
    obtain ⟨k, hk⟩ := Int.eq_ofNat_of_zero_le (show 0 ≤ -power by omega)
    obtain rfl : power = -k := by omega
    refine ⟨_, _, rfl, Nat.one_pos, Nat.pow_pos (by decide), ?_⟩
    rw [neg_neg, Int.toNat_natCast, Nat.pow_eq]
    push_cast
    rw [zpow_neg, zpow_natCast, one_div]

/-- A grid answers with a decimal near the number, -/
theorem near_of_onGrid? {count : Nat} (hmantissa : 0 < x.mantissa)
    (h : onGrid? x first count = some n) : x.Near ((n : ℚ) * 10 ^ (first - count + 1)) := by
  obtain ⟨unitNum, unitDen, hpair, -, hunit, hdiv⟩ := gridUnit_cases (first - count + 1)
  rw [← hdiv]
  refine (readsBack_iff hmantissa hunit).1 ?_
  rw [onGrid?] at h
  dsimp only at h
  rw [hpair] at h
  dsimp only at h
  split at h
  · -- both neighbours on the grid read back, and the nearer one is taken, or the even one
    rename_i hboth
    rw [Bool.and_eq_true] at hboth
    split at h <;> cases h
    · exact hboth.1
    · exact hboth.2
    · split
      · exact hboth.1
      · exact hboth.2
  · -- at most one of them reads back
    split at h
    · rename_i hlow
      cases h
      exact hlow
    · split at h
      · rename_i hhigh
        cases h
        exact hhigh
      · cases h

/-- and it has no answer only if the number is more than a unit of the grid wide. -/
theorem wide_of_onGrid?_none {count : Nat} (hmantissa : 0 < x.mantissa)
    (h : onGrid? x first count = none) :
    1 / 2 + (x.quartersBelow : ℚ) / 4 ≤ 10 ^ (first - count + 1) / x.unit := by
  obtain ⟨unitNum, unitDen, hpair, hunitNum, hunit, hdiv⟩ := gridUnit_cases (first - count + 1)
  rw [← hdiv]
  rw [onGrid?] at h
  dsimp only at h
  rw [hpair] at h
  dsimp only at h
  set low := x.quotient.1 * unitDen / (x.quotient.2 * unitNum) with hfloor
  split at h
  · split at h <;> cases h
  split at h
  · cases h
  rename_i hlowFar
  split at h
  · cases h
  rename_i hhighFar
  rw [readsBack_iff hmantissa hunit] at hlowFar hhighFar
  -- the number is between the two decimals
  have hpos := x.unit_pos
  have hgrid : (0 : ℚ) < unitNum / unitDen := by positivity
  have hquotient : (0 : ℚ) < x.quotient.2 := by exact_mod_cast quotient_pos x
  have hcells : ((x.quotient.1 * unitDen : Nat) : ℚ) / (x.quotient.2 * unitNum : Nat) =
      x.mantissa * x.unit / (unitNum / unitDen) := by
    rw [← quotient_div]
    push_cast
    field_simp
  have hbelow : (low : ℚ) * (unitNum / unitDen) / x.unit ≤ x.mantissa := by
    have hle : (low : ℚ) ≤ x.mantissa * x.unit / (unitNum / unitDen) :=
      hcells ▸ Nat.cast_div_le
    rw [le_div_iff₀ hgrid] at hle
    rwa [div_le_iff₀ hpos]
  have habove : x.mantissa ≤ ((low + 1 : Nat) : ℚ) * (unitNum / unitDen) / x.unit := by
    have hlt : x.quotient.1 * unitDen < (low + 1) * (x.quotient.2 * unitNum) :=
      (Nat.div_lt_iff_lt_mul (Nat.mul_pos (quotient_pos x) hunitNum)).1 (Nat.lt_succ_self low)
    have hcell : x.mantissa * x.unit / (unitNum / unitDen) < ((low + 1 : Nat) : ℚ) := by
      rw [← hcells, div_lt_iff₀ (by exact_mod_cast Nat.mul_pos (quotient_pos x) hunitNum)]
      exact_mod_cast hlt
    rw [div_lt_iff₀ hgrid] at hcell
    rw [le_div_iff₀ hpos]
    exact hcell.le
  have hfarLow := (near_or_below hbelow).resolve_left hlowFar
  have hfarHigh := (near_or_above habove).resolve_left hhighFar
  push_cast at hfarHigh
  have hstep : ((low : ℚ) + 1) * (unitNum / unitDen) / x.unit =
      low * (unitNum / unitDen) / x.unit + unitNum / unitDen / x.unit := by ring
  rw [hstep] at hfarHigh
  linarith

-- ---------------------------------------------------------------------------
-- The position of the first digit
-- ---------------------------------------------------------------------------

theorem magnitude_eq (hnum : 0 < num) (hden : 0 < den) :
    magnitude num den = Int.log 10 ((num : ℚ) / den) := by
  have hdenq : (0 : ℚ) < den := by exact_mod_cast hden
  have hpos : (0 : ℚ) < num / den := by positivity
  -- the powers of ten on both sides of the quotient
  have hlog : ∀ k : Int, (10 : ℚ) ^ k ≤ num / den → (num : ℚ) / den < 10 ^ (k + 1) →
      k = Int.log 10 ((num : ℚ) / den) := by
    intro k hle hlt
    have hle' := (Int.zpow_le_iff_le_log (by norm_num : 1 < 10) hpos).1 hle
    have hlt' := (Int.lt_zpow_iff_log_lt (by norm_num : 1 < 10) hpos).1 hlt
    omega
  rw [magnitude]
  split
  · rename_i hle
    have hwhole : num / den ≠ 0 := (Nat.div_pos hle hden).ne'
    have hlow := (Nat.le_div_iff_mul_le hden).1 (Flagpost.Decimal.pow_length_digits_le hwhole)
    have hhigh := (Nat.div_lt_iff_lt_mul hden).1 (Flagpost.Decimal.lt_pow_length_digits (num / den))
    have hlength : 0 < (Flagpost.Decimal.digits (num / den)).length := Nat.length_toDigits_pos
    rw [← Flagpost.Decimal.digits, ← Nat.cast_pred hlength]
    refine hlog _ ?_ ?_
    · rw [zpow_natCast, le_div_iff₀ hdenq]
      exact_mod_cast hlow
    · rw [Nat.cast_pred hlength, sub_add_cancel, zpow_natCast, div_lt_iff₀ hdenq]
      exact_mod_cast hhigh
  · rename_i hlt
    have hwhole : den / num ≠ 0 := (Nat.div_pos (by omega) hnum).ne'
    have hlow := (Nat.le_div_iff_mul_le hnum).1 (Flagpost.Decimal.pow_length_digits_le hwhole)
    have hhigh := (Nat.div_lt_iff_lt_mul hnum).1 (Flagpost.Decimal.lt_pow_length_digits (den / num))
    have hlength : 0 < (Flagpost.Decimal.digits (den / num)).length := Nat.length_toDigits_pos
    dsimp only
    rw [← Flagpost.Decimal.digits, Nat.pow_eq]
    obtain ⟨k, hk⟩ := Nat.exists_eq_add_of_le' hlength
    rw [hk, Nat.add_sub_cancel] at hlow ⊢
    rw [hk] at hhigh
    split
    · rename_i hexact
      have hlow' : (num : ℚ) * 10 ^ k ≤ den := by exact_mod_cast Nat.mul_comm num _ ▸ hlow
      refine hlog _ ?_ ?_
      · rw [zpow_neg, zpow_natCast, ← one_div, div_le_div_iff₀ (by positivity) hdenq, one_mul]
        exact_mod_cast hexact
      · rw [zpow_add₀ (by norm_num), zpow_neg, zpow_natCast, zpow_one, inv_mul_eq_div,
          div_lt_div_iff₀ hdenq (by positivity)]
        linarith
    · rename_i hinexact
      refine hlog _ ?_ ?_
      · rw [zpow_neg, zpow_natCast, ← one_div, div_le_div_iff₀ (by positivity) hdenq, one_mul]
        exact_mod_cast Nat.mul_comm num _ ▸ hhigh.le
      · rw [show -((k + 1 : Nat) : Int) + 1 = -k by omega, zpow_neg, zpow_natCast, ← one_div,
          div_lt_div_iff₀ hdenq (by positivity), one_mul]
        exact_mod_cast not_le.1 hinexact

-- ---------------------------------------------------------------------------
-- The search
-- ---------------------------------------------------------------------------

/-- The position of the first digit of a number. -/
def firstOf (x : Binary64) : Int := magnitude x.quotient.1 x.quotient.2

theorem pow_firstOf_le (hmantissa : 0 < x.mantissa) : 10 ^ firstOf x ≤ x.mantissa * x.unit := by
  have hpos : (0 : ℚ) < x.mantissa * x.unit :=
    mul_pos (by exact_mod_cast hmantissa) x.unit_pos
  have hnum : 0 < x.quotient.1 := by
    rw [quotient]
    split
    · exact Nat.mul_pos hmantissa (Nat.pow_pos (by decide))
    · exact hmantissa
  rw [firstOf, magnitude_eq hnum (quotient_pos x), quotient_div]
  exact_mod_cast Int.zpow_log_le_self (b := 10) (by norm_num) hpos

/-- Seventeen digits are enough for every number. -/
theorem onGrid?_seventeen (hx : x.Sound) (hmantissa : 0 < x.mantissa) :
    ∃ n, onGrid? x (firstOf x) 17 = some n := by
  cases hgrid : onGrid? x (firstOf x) 17 with
  | some n => exact ⟨n, rfl⟩
  | none =>
    exfalso
    have hwide := wide_of_onGrid?_none hmantissa hgrid
    have hunit := x.unit_pos
    have hfine : (10 : ℚ) ^ (firstOf x - (17 : Nat) + 1) / x.unit ≤ x.mantissa / 10 ^ 16 := by
      rw [div_le_iff₀ hunit, show firstOf x - (17 : Nat) + 1 = firstOf x - (16 : Nat) by norm_num; omega,
        zpow_sub₀ (by norm_num), zpow_natCast, div_mul_eq_mul_div]
      exact div_le_div_of_nonneg_right (pow_firstOf_le hmantissa) (by positivity)
    -- where numbers lie twice as dense below, the mantissa is half as large
    have hmantissaBound : (x.mantissa : ℚ) < 9007199254740992 := by exact_mod_cast hx.mantissa
    rw [quartersBelow] at hwide
    split at hwide
    · rename_i hleast
      rw [hleast.1] at hfine
      norm_num at hwide hfine
      linarith
    · norm_num at hwide hfine
      linarith

/-- The search ends with an answer of some grid. -/
theorem onGrid?_of_search {tries count count' : Nat} (h : search x first tries count = (count', n))
    (hlast : ∃ m, onGrid? x first (count + tries) = some m) : onGrid? x first count' = some n := by
  induction tries generalizing count with
  | zero =>
    -- no try is left, and the last grid has an answer
    obtain ⟨m, hm⟩ := hlast
    rw [Nat.add_zero] at hm
    rw [search, hm] at h
    cases h
    exact hm
  | succ tries ih =>
    rw [search] at h
    split at h
    · rename_i m hm
      cases h
      exact hm
    · exact ih h (by rwa [Nat.add_right_comm] )

-- ---------------------------------------------------------------------------
-- The digits
-- ---------------------------------------------------------------------------

theorem dropZeros_append (digits : List Char) :
    ∃ k, digits = dropZeros digits ++ List.replicate k '0' := by
  have hsplit := List.takeWhile_append_dropWhile (p := (· == '0')) (l := digits.reverse)
  have hzeros : digits.reverse.takeWhile (· == '0') =
      List.replicate (digits.reverse.takeWhile (· == '0')).length '0' :=
    List.eq_replicate_iff.2 ⟨rfl, fun c hc => beq_iff_eq.1 (List.all_eq_true.1 List.all_takeWhile c hc)⟩
  refine ⟨(digits.reverse.takeWhile (· == '0')).length, ?_⟩
  have hreverse := congrArg List.reverse hsplit
  rw [List.reverse_append, List.reverse_reverse, hzeros, List.reverse_replicate] at hreverse
  exact hreverse.symm

/-- The digits of the shortest form: none is missing, the first is no zero, and the decimal
is near the number. -/
theorem ofBinary64_spec (hx : x.Sound) (hmantissa : 0 < x.mantissa) :
    (∃ d ds, (ofBinary64 x).digits = d :: ds ∧ d ≠ '0') ∧
      (∀ c ∈ (ofBinary64 x).digits, c.isDigit = true) ∧
      x.Near ((Flagpost.Decimal.valueOf (ofBinary64 x).digits : ℚ) *
        10 ^ ((ofBinary64 x).point - (ofBinary64 x).digits.length)) := by
  obtain ⟨count, n, hsearch⟩ : ∃ count n, search x (firstOf x) 16 1 = (count, n) := ⟨_, _, rfl⟩
  have hnear := near_of_onGrid? hmantissa
    (onGrid?_of_search hsearch (onGrid?_seventeen hx hmantissa))
  have hdecimal : ofBinary64 x = ⟨dropZeros (Flagpost.Decimal.digits n),
      firstOf x - count + 1 + (Flagpost.Decimal.digits n).length⟩ := by
    show (⟨dropZeros (Flagpost.Decimal.digits (search x (firstOf x) 16 1).2),
      firstOf x - (search x (firstOf x) 16 1).1 + 1 +
        (Flagpost.Decimal.digits (search x (firstOf x) 16 1).2).length⟩ : Decimal) = _
    rw [hsearch]
  -- a decimal near a number is not zero
  have hn : n ≠ 0 := by
    rintro rfl
    have hpos := hnear.pos hmantissa
    simp at hpos
  obtain ⟨d, ds, hdigits, hd, -⟩ := (Flagpost.Decimal.digits_cases n).resolve_left fun h => hn h.1
  obtain ⟨k, hzeros⟩ := dropZeros_append (Flagpost.Decimal.digits n)
  have hvalue := Flagpost.Decimal.valueOf_digits n
  have hmember : ∀ c ∈ Flagpost.Decimal.digits n, c.isDigit = true :=
    fun _ => Flagpost.Decimal.isDigit_of_mem_digits
  rw [hdecimal]
  dsimp only
  generalize Flagpost.Decimal.digits n = digits at *
  generalize dropZeros digits = kept at *
  subst hzeros
  refine ⟨?first, fun c hc => hmember c (List.mem_append_left _ hc), ?near⟩
  case first =>
    -- zeros are dropped at the end only, so the first digit stays
    cases kept with
    | nil => exact absurd (List.eq_of_mem_replicate (hdigits ▸ List.mem_cons_self)) hd
    | cons c cs => exact ⟨c, cs, rfl, (List.cons.inj hdigits).1 ▸ hd⟩
  case near =>
    -- each zero that was dropped is a power of ten in the exponent
    have hpower : firstOf x - count + 1 + ((kept ++ List.replicate k '0').length : Int) -
        kept.length = k + (firstOf x - count + 1) := by
      rw [List.length_append, List.length_replicate]
      push_cast
      ring
    rw [Flagpost.Decimal.valueOf_append_zeros] at hvalue
    rw [hpower, zpow_add₀ (by norm_num), zpow_natCast, ← mul_assoc]
    have hscaled : (Flagpost.Decimal.valueOf kept : ℚ) * 10 ^ k = n := by exact_mod_cast hvalue
    rw [hscaled]
    exact hnear

/-- **The shortest form reads back.** Whatever decimal has the value of the shortest form of a
number that is not zero is read as the number. -/
theorem ofDecimal?_ofBinary64 {digits : Nat} {power : Int} (hx : x.Sound)
    (hmantissa : 0 < x.mantissa)
    (hvalue : (digits : ℚ) * 10 ^ power =
      Flagpost.Decimal.valueOf (ofBinary64 x).digits *
        10 ^ ((ofBinary64 x).point - (ofBinary64 x).digits.length)) :
    ofDecimal? x.negative digits power = some x :=
  ofDecimal?_of_near hx hmantissa (hvalue ▸ (ofBinary64_spec hx hmantissa).2.2)

end Shortest

end Flagpost
