import Flagpost.Text.Decimal
import Flagpost.Text.Hex
import Mathlib.Algebra.Group.Nat.Defs

/-!
# Flagpost — numbers and their digits

A number that was written, padded or not, is a run of digits, and reading the
run gives the number back. Padding makes all numbers below a power of ten
equally long, which is what lets the parts of a timestamp follow each other
without a separator.

* `Decimal.valueOf_padded`        — reading a padded number gives the number.
* `Decimal.length_padded`         — a number that fits is padded to exactly the width.
* `Hex.isSmallDigit_of_mem_ofNat` — a number in hexadecimal is a run of small digits.
-/

namespace Flagpost

namespace Decimal

theorem valueOf_eq_ofDigitChars (digits : List Char) :
    valueOf digits = Nat.ofDigitChars 10 digits 0 := by
  rw [valueOf, Nat.ofDigitChars_eq_foldl]
  congr 1
  funext n c
  rw [value, Nat.mul_comm]

theorem valueOf_padded (width n : Nat) : valueOf (padded width n) = n := by
  rw [valueOf_eq_ofDigitChars, padded, Nat.ofDigitChars_append,
    Nat.ofDigitChars_replicate_zero, Nat.mul_zero, digits, Nat.ofDigitChars_ten_toDigits]

theorem padded_zero (n : Nat) : padded 0 n = digits n := by
  rw [padded, Nat.zero_sub, List.replicate_zero, List.nil_append]

/-- Different numbers have different digits. -/
theorem digits_injective {m n : Nat} (h : digits m = digits n) : m = n := by
  rw [← padded_zero, ← padded_zero] at h
  rw [← valueOf_padded 0 m, h, valueOf_padded]

theorem isDigit_of_mem_padded {width n : Nat} {c : Char} (h : c ∈ padded width n) :
    c.isDigit = true := by
  rw [padded, List.mem_append] at h
  rcases h with h | h
  · rw [List.eq_of_mem_replicate h]
    rfl
  · exact Nat.isDigit_of_mem_toDigits (by decide) (by decide) h

theorem padded_ne_nil (width n : Nat) : padded width n ≠ [] := by
  simp [padded, digits, Nat.toDigits_ne_nil]

theorem exists_isDigit_cons_padded (width n : Nat) :
    ∃ c ds, padded width n = c :: ds ∧ c.isDigit = true := by
  obtain ⟨c, ds, hcd⟩ := List.exists_cons_of_ne_nil (padded_ne_nil width n)
  have hc : c ∈ padded width n := hcd ▸ List.mem_cons_self
  exact ⟨c, ds, hcd, isDigit_of_mem_padded hc⟩

theorem length_padded {width n : Nat} (hw : 0 < width) (h : n < 10 ^ width) :
    (padded width n).length = width := by
  have hle : (digits n).length ≤ width := (Nat.length_toDigits_le_iff (by decide) hw).2 h
  rw [padded, List.length_append, List.length_replicate]
  omega

theorem isDigit_of_mem_digits {c : Char} {n : Nat} (h : c ∈ digits n) : c.isDigit = true :=
  Nat.isDigit_of_mem_toDigits (by decide) (by decide) h

/-- Only the digits of zero begin with a zero. -/
theorem digits_eq_zero_cons {n : Nat} {ds : List Char} (h : digits n = '0' :: ds) : n = 0 := by
  induction n using Nat.strongRecOn generalizing ds with
  | ind n ih =>
    rw [digits, Nat.toDigits_eq_if (by decide)] at h
    split at h
    · -- one digit
      rename_i hlt
      have hdigit : Nat.digitChar n = '0' := (List.cons.inj h).1
      have hsmall : ∀ d < 10, Nat.digitChar d = '0' → d = 0 := by decide
      exact hsmall n hlt hdigit
    · -- more digits: the first is that of a tenth, which would be zero
      rename_i hge
      have hne : Nat.toDigits 10 (n / 10) ≠ [] := Nat.toDigits_ne_nil
      obtain ⟨first, more, hfront⟩ := List.exists_cons_of_ne_nil hne
      rw [hfront, List.cons_append] at h
      have htenth : digits (n / 10) = '0' :: more := by
        rw [digits, hfront, (List.cons.inj h).1]
      have hzero := ih (n / 10) (by omega) htenth
      omega

/-- A number is written as a zero, or it begins with another digit. -/
theorem digits_cases (n : Nat) : (n = 0 ∧ digits n = ['0']) ∨
    ∃ d ds, digits n = d :: ds ∧ d ≠ '0' ∧ d.isDigit = true := by
  by_cases hn : n = 0
  · exact .inl ⟨hn, hn ▸ rfl⟩
  · have hne : digits n ≠ [] := Nat.toDigits_ne_nil
    obtain ⟨d, ds, hds⟩ := List.exists_cons_of_ne_nil hne
    refine .inr ⟨d, ds, hds, ?_, isDigit_of_mem_digits (hds ▸ List.mem_cons_self)⟩
    rintro rfl
    exact hn (digits_eq_zero_cons hds)

/-- A number is below the power of ten with as many zeros as it has digits, -/
theorem lt_pow_length_digits (n : Nat) : n < 10 ^ (digits n).length :=
  (Nat.length_toDigits_le_iff (by decide) Nat.length_toDigits_pos).1 (Nat.le_refl _)

/-- and not below the one with a zero less. -/
theorem pow_length_digits_le {n : Nat} (h : n ≠ 0) : 10 ^ ((digits n).length - 1) ≤ n := by
  by_cases hone : (digits n).length = 1
  · rw [hone]
    exact Nat.pos_of_ne_zero h
  · have hpos : 0 < (digits n).length := Nat.length_toDigits_pos
    have hlong : ¬ (digits n).length ≤ (digits n).length - 1 := by omega
    exact Nat.not_lt.1 (mt (Nat.length_toDigits_le_iff (by decide) (by omega)).2 hlong)

-- ---------------------------------------------------------------------------
-- The value of a run of digits
-- ---------------------------------------------------------------------------

theorem valueOf_concat (ds : List Char) (c : Char) :
    valueOf (ds ++ [c]) = valueOf ds * 10 + value c := by
  rw [valueOf, List.foldl_append]
  rfl

theorem valueOf_digits (n : Nat) : valueOf (digits n) = n := by
  rw [← padded_zero, valueOf_padded]

/-- Zeros behind a number multiply it by a power of ten, -/
theorem valueOf_append_zeros (ds : List Char) (k : Nat) :
    valueOf (ds ++ List.replicate k '0') = valueOf ds * 10 ^ k := by
  induction k with
  | zero => rw [List.replicate_zero, List.append_nil, Nat.pow_zero, Nat.mul_one]
  | succ k ih =>
    rw [List.replicate_succ', ← List.append_assoc, valueOf_concat, ih, Nat.pow_succ, Nat.mul_assoc]
    rfl

/-- and zeros in front of it do not count. -/
theorem valueOf_zeros_append (k : Nat) (ds : List Char) :
    valueOf (List.replicate k '0' ++ ds) = valueOf ds := by
  rw [valueOf_eq_ofDigitChars, Nat.ofDigitChars_append, Nat.ofDigitChars_replicate_zero,
    Nat.mul_zero, valueOf_eq_ofDigitChars]

end Decimal

namespace Hex

variable {n : Nat} {c : Char} {bytes : Bytes}

theorem isSmallDigit_digit (h : n < 16) : isSmallDigit (digit n) = true := by
  have hall : ∀ n < 16, isSmallDigit (digit n) = true := by decide
  exact hall n h

theorem isSmallDigit_of_mem_ofNat (h : c ∈ ofNat n) : isSmallDigit c = true := by
  induction n using Nat.strongRecOn with
  | ind n ih =>
    rw [ofNat, Nat.toDigits_eq_if (by decide)] at h
    split at h
    · rename_i hlt
      rw [List.mem_singleton.1 h]
      exact isSmallDigit_digit hlt
    · rename_i hge
      rcases List.mem_append.1 h with hhigh | hlow
      · exact ih (n / 16) (Nat.div_lt_self (by omega) (by decide)) hhigh
      · rw [List.mem_singleton.1 hlow]
        exact isSmallDigit_digit (Nat.mod_lt n (by decide))

theorem isSmallDigit_of_mem_padded {width : Nat} (h : c ∈ padded width n) :
    isSmallDigit c = true := by
  rw [padded, List.mem_append] at h
  rcases h with hzero | hdigit
  · rw [List.eq_of_mem_replicate hzero]
    rfl
  · exact isSmallDigit_of_mem_ofNat hdigit

theorem length_padded {width : Nat} (hw : 0 < width) (h : n < 16 ^ width) :
    (padded width n).length = width := by
  have hle : (ofNat n).length ≤ width := (Nat.length_toDigits_le_iff (by decide) hw).2 h
  rw [padded, List.length_append, List.length_replicate]
  omega

theorem isSmallDigit_of_mem_ofBytes (h : c ∈ ofBytes bytes) : isSmallDigit c = true := by
  obtain ⟨b, -, hc⟩ := List.mem_flatMap.1 h
  have hb : b.toNat < 256 := b.toNat_lt
  rcases List.mem_cons.1 hc with rfl | hc
  · exact isSmallDigit_digit (by omega)
  · rw [List.mem_singleton.1 hc]
    exact isSmallDigit_digit (by omega)

theorem length_ofBytes (bytes : Bytes) : (ofBytes bytes).length = 2 * bytes.length := by
  induction bytes with
  | nil => rfl
  | cons b bytes ih =>
    rw [ofBytes, List.flatMap_cons, List.length_append, ← ofBytes, ih, List.length_cons]
    show 2 + 2 * bytes.length = 2 * (bytes.length + 1)
    omega

end Hex

end Flagpost
