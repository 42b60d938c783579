import Flagpost.Proofs.Json5.Numerals
import Flagpost.Proofs.Number.Shortest

/-!
# Flagpost — numbers with a fraction read back

A number with a fraction is printed in its shortest decimal form, in one of three
positions of the point or with an exponent. Whichever it is, the printed text is a numeral
(`numeralOf`) of the same value as the shortest form (`value_numeral`), and that is enough:
any decimal of this value is read as the number.

* `text_eq_signed`     — what is printed for a number is a numeral with a sign;
* `readSimple_real`    — it is read up to its end,
* `numberValue_real`   — and its value is the number.
-/

namespace Flagpost

-- ---------------------------------------------------------------------------
-- The value of a numeral
-- ---------------------------------------------------------------------------

namespace Json5

variable {s : Numeral}

/-- The digits of a numeral, the point left out. -/
def Numeral.digits (s : Numeral) : List Char := s.whole ++ s.fraction.getD []

/-- The power of ten of its last digit. -/
def Numeral.place (s : Numeral) : Int := power s.exponent - (s.fraction.getD []).length

/-- The value of a numeral with a point or an exponent is the number next to it, if that is
not too large. -/
theorem numberValue_signed {x : Binary64} {negative : Bool} (h : s.Proper)
    (hreal : s.fraction.isSome ∨ s.exponent.isSome)
    (hnear : Binary64.ofDecimal? negative (Decimal.valueOf s.digits) s.place = some x) :
    numberValue (signed negative s.text) = .ok (.number (.real x)) := by
  have hwhole : isWhole (signed negative s.text) = false := by
    rw [Numeral.isWhole_signed h]
    cases hfraction : s.fraction <;> cases hexponent : s.exponent <;> simp_all
  have hnamed : unboundedNames.contains (signed negative s.text) = false := by
    rw [← Bool.not_eq_true, List.contains_iff_mem]
    exact Numeral.not_unbounded_signed h negative
  have hnear' : Binary64.ofDecimal? negative (Decimal.valueOf (s.whole ++ s.fraction.getD []))
      (Numeral.power s.exponent - (s.fraction.getD []).length) = some x := hnear
  rw [numberValue, hwhole, if_neg (by decide), realValue, hnamed, if_neg (by decide),
    Numeral.splitSign_signed h]
  dsimp only
  rw [Numeral.decimalParts?_text h]
  dsimp only
  rw [hnear']

end Json5

namespace Shortest

open Json5 (Numeral signed EndsValue)

variable {x : Binary64} {d : Decimal} {rest : List Char}

-- ---------------------------------------------------------------------------
-- The numeral of a decimal
-- ---------------------------------------------------------------------------

/-- A decimal as it is printed: with the point in its place where that takes few zeros, and
with an exponent otherwise. -/
def numeral (d : Decimal) : Numeral :=
  let count : Int := d.digits.length
  let exponent := d.point - 1
  if -5 ≤ exponent ∧ exponent ≤ 15 then
    if d.point ≤ 0 then ⟨['0'], some (List.replicate (-d.point).toNat '0' ++ d.digits), none⟩
    else if count ≤ d.point then
      ⟨d.digits ++ List.replicate (d.point - count).toNat '0', some ['0'], none⟩
    else ⟨d.digits.take d.point.toNat, some (d.digits.drop d.point.toNat), none⟩
  else
    ⟨d.digits.take 1, if d.digits.length ≤ 1 then none else some (d.digits.drop 1),
      some (decide (exponent < 0), Flagpost.Decimal.digits exponent.natAbs)⟩

/-- The numeral that is printed for a number, the sign left aside. -/
def numeralOf (x : Binary64) : Numeral :=
  if x.isZero then ⟨['0'], some ['0'], none⟩ else numeral (ofBinary64 x)

/-- What is printed for a number is a numeral with a sign. -/
theorem text_eq_signed (x : Binary64) : text x = signed x.negative (numeralOf x).text := by
  rw [text, numeralOf]
  split
  · rfl
  · rw [numeral]
    dsimp only
    generalize ofBinary64 x = d
    split
    · -- below one, or a whole number, or the point between the digits
      split
      · simp [signed, Numeral.text, Numeral.pointText, Numeral.powerText]
      · split
        · simp [signed, Numeral.text, Numeral.pointText, Numeral.powerText]
        · simp [signed, Numeral.text, Numeral.pointText, Numeral.powerText]
    · obtain ⟨digits, point⟩ := d
      -- the point is left out where one digit stands alone
      rcases digits with _ | ⟨c, _ | ⟨c', digits⟩⟩ <;>
        simp [signed, Numeral.text, Numeral.pointText, Numeral.powerText]

/-- The digits of a decimal: there are some, and the first is no zero. -/
structure Proper (d : Decimal) : Prop where
  first : ∃ c cs, d.digits = c :: cs ∧ c ≠ '0'
  digit : ∀ c ∈ d.digits, c.isDigit = true

theorem Proper.length_pos (h : Proper d) : 0 < d.digits.length := by
  obtain ⟨c, cs, hdigits, -⟩ := h.first
  rw [hdigits]
  exact Nat.succ_pos _

theorem isDigit_of_mem_zeros {c : Char} {k : Nat} (h : c ∈ List.replicate k '0') :
    c.isDigit = true := by
  rw [List.eq_of_mem_replicate h]
  rfl

/-- It is a numeral, with a point or an exponent. -/
theorem proper_numeral (h : Proper d) : (numeral d).Proper ∧
    ((numeral d).fraction.isSome ∨ (numeral d).exponent.isSome) := by
  obtain ⟨c, cs, hdigits, hc⟩ := h.first
  have hfirst : ∀ {k : Nat}, 0 < k → ∃ c cs, d.digits.take k = c :: cs ∧ c ≠ '0' := by
    intro k hk
    obtain ⟨k, rfl⟩ := Nat.exists_eq_succ_of_ne_zero hk.ne'
    exact ⟨c, cs.take k, by rw [hdigits, List.take_succ_cons], hc⟩
  have htake : ∀ k, ∀ c ∈ d.digits.take k, c.isDigit = true := fun _ _ hmem =>
    h.digit _ (List.mem_of_mem_take hmem)
  have hdrop : ∀ k, ∀ c ∈ d.digits.drop k, c.isDigit = true := fun _ _ hmem =>
    h.digit _ (List.mem_of_mem_drop hmem)
  rw [numeral]
  split
  · split
    · -- below one: zeros stand between the point and the digits
      refine ⟨⟨.inl rfl, ?whole, ?fraction, nofun⟩, .inl rfl⟩
      case whole => exact List.forall_mem_singleton.2 rfl
      case fraction =>
        rintro ds ⟨⟩ c hmem
        exact (List.mem_append.1 hmem).elim isDigit_of_mem_zeros (h.digit c)
    · split
      · -- a whole number: zeros and a point are put behind the digits
        refine ⟨⟨.inr ⟨c, _, by rw [hdigits, List.cons_append], hc⟩, ?whole, ?fraction, nofun⟩,
          .inl rfl⟩
        case whole =>
          exact fun c hmem => (List.mem_append.1 hmem).elim (h.digit c) isDigit_of_mem_zeros
        case fraction =>
          rintro ds ⟨⟩
          exact List.forall_mem_singleton.2 rfl
      · rename_i hpos _
        -- the point falls between the digits
        refine ⟨⟨.inr (hfirst (by omega)), htake _, ?fraction, nofun⟩, .inl rfl⟩
        case fraction =>
          rintro ds ⟨⟩
          exact hdrop _
  · -- with an exponent, one digit before the point, and a point if there are more
    refine ⟨⟨.inr (hfirst Nat.one_pos), htake 1, ?fraction, ?exponent⟩, .inr rfl⟩
    case fraction =>
      intro ds hds
      split at hds
      · cases hds
      · cases hds
        exact hdrop 1
    case exponent =>
      rintro negative ds ⟨⟩
      exact ⟨Nat.toDigits_ne_nil, fun _ => Flagpost.Decimal.isDigit_of_mem_digits⟩

theorem power_ofInt (e : Int) :
    Numeral.power (some (decide (e < 0), Flagpost.Decimal.digits e.natAbs)) = e := by
  rw [Numeral.power, Flagpost.Decimal.valueOf_digits]
  split <;> rename_i he <;> simp only [decide_eq_true_eq] at he <;> omega

/-- It has the value of the decimal: zeros around the digits move with the point. -/
theorem value_numeral (h : Proper d) :
    (Flagpost.Decimal.valueOf (numeral d).digits : ℚ) * 10 ^ (numeral d).place =
      Flagpost.Decimal.valueOf d.digits * 10 ^ (d.point - d.digits.length) := by
  have hpos := h.length_pos
  rw [numeral, Numeral.digits, Numeral.place]
  split
  · split
    · -- all digits behind the point
      rename_i hpoint
      have hdigits : ['0'] ++ (List.replicate (-d.point).toNat '0' ++ d.digits) =
          List.replicate ((-d.point).toNat + 1) '0' ++ d.digits := by
        rw [List.replicate_succ]
        rfl
      have hplace : Numeral.power none -
          ((List.replicate (-d.point).toNat '0' ++ d.digits).length : Int) =
          d.point - d.digits.length := by
        rw [Numeral.power, List.length_append, List.length_replicate]
        omega
      rw [Option.getD_some, hdigits, Flagpost.Decimal.valueOf_zeros_append, hplace]
    · split
      · -- all digits before it
        rename_i hcount
        obtain ⟨k, hk⟩ := Int.eq_ofNat_of_zero_le (show 0 ≤ d.point - d.digits.length by omega)
        have hdigits : d.digits ++ List.replicate k '0' ++ ['0'] =
            d.digits ++ List.replicate (k + 1) '0' := by
          rw [List.replicate_succ', List.append_assoc]
        rw [Option.getD_some, hk, Int.toNat_natCast, hdigits,
          Flagpost.Decimal.valueOf_append_zeros, Numeral.power, zpow_natCast, pow_succ]
        push_cast
        norm_num
        ring
      · -- and some before it and some behind
        rename_i hpoint hcount
        have hplace : Numeral.power none - ((d.digits.drop d.point.toNat).length : Int) =
            d.point - d.digits.length := by
          rw [Numeral.power, List.length_drop]
          omega
        rw [Option.getD_some, List.take_append_drop, hplace]
  · rw [power_ofInt]
    by_cases hone : d.digits.length ≤ 1
    · have hplace : d.point - 1 - (([] : List Char).length : Int) =
          d.point - d.digits.length := by
        rw [List.length_nil]
        omega
      rw [if_pos hone, Option.getD_none, List.append_nil, List.take_of_length_le hone, hplace]
    · have hplace : d.point - 1 - ((d.digits.drop 1).length : Int) =
          d.point - d.digits.length := by
        rw [List.length_drop]
        omega
      rw [if_neg hone, Option.getD_some, List.take_append_drop, hplace]

-- ---------------------------------------------------------------------------
-- Reading
-- ---------------------------------------------------------------------------

theorem proper_ofBinary64 (hx : x.Sound) (hmantissa : 0 < x.mantissa) : Proper (ofBinary64 x) where
  first := (ofBinary64_spec hx hmantissa).1
  digit := (ofBinary64_spec hx hmantissa).2.1

theorem eq_zero_of_isZero (hx : x.Sound) (h : x.isZero = true) : x = Binary64.zero x.negative := by
  obtain ⟨negative, mantissa, exponent⟩ := x
  obtain rfl : mantissa = 0 := beq_iff_eq.1 h
  have hleast : exponent = Binary64.leastExponent := hx.normal.resolve_right (by simp)
  rw [hleast]
  rfl

theorem mantissa_pos (h : ¬ x.isZero = true) : 0 < x.mantissa :=
  Nat.pos_of_ne_zero fun hzero => h (beq_iff_eq.2 hzero)

theorem proper_numeralOf (hx : x.Sound) : (numeralOf x).Proper ∧
    ((numeralOf x).fraction.isSome ∨ (numeralOf x).exponent.isSome) := by
  rw [numeralOf]
  split
  · refine ⟨⟨.inl rfl, List.forall_mem_singleton.2 rfl, ?_, nofun⟩, .inl rfl⟩
    rintro ds ⟨⟩
    exact List.forall_mem_singleton.2 rfl
  · rename_i hzero
    exact proper_numeral (proper_ofBinary64 hx (mantissa_pos hzero))

/-- What is printed for a number begins with a digit or a minus sign. -/
theorem text_head (hx : x.Sound) :
    ∃ c tail, text x = c :: tail ∧ (c = '-' ∨ c.isDigit = true) :=
  text_eq_signed x ▸ Numeral.signed_head (proper_numeralOf hx).1 _

/-- It is read up to its end, -/
theorem readSimple_real (hx : x.Sound) (hrest : EndsValue rest) :
    Json5.readSimple (text x ++ rest) = some (.number (text x), rest) :=
  text_eq_signed x ▸ Numeral.readSimple_signed (proper_numeralOf hx).1 hrest _

/-- **Numbers with a fraction read back:** and its value is the number. -/
theorem numberValue_real (hx : x.Sound) : Json5.numberValue (text x) = .ok (.number (.real x)) := by
  obtain ⟨hproper, hreal⟩ := proper_numeralOf hx
  rw [text_eq_signed]
  refine Json5.numberValue_signed hproper hreal ?_
  rw [numeralOf]
  split
  · rename_i hzero
    rw [eq_zero_of_isZero hx hzero]
    rfl
  · rename_i hzero
    have hmantissa := mantissa_pos hzero
    exact ofDecimal?_ofBinary64 hx hmantissa (value_numeral (proper_ofBinary64 hx hmantissa))

end Shortest

end Flagpost
