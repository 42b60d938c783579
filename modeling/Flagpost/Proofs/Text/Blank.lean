import Flagpost.Text.Blank
import Flagpost.Text.Hex
import Mathlib.Data.List.DropRight

/-!
# Flagpost — the ends of a trimmed text

What trimming leaves aside is white space, and a trimmed text does not end in
any. White space has no letters and no digits in it, so nothing that is looked
for by a letter is found there.
-/

namespace Flagpost

variable {c : Char} {text : List Char}

theorem toLower_of_not_isUpper (h : c.isUpper = false) : c.toLower = c :=
  dif_neg (of_decide_eq_false h)

theorem toLower_of_isBlank (h : isBlank c = true) : c.toLower = c := by
  refine toLower_of_not_isUpper (decide_eq_false fun hupper => ?_)
  simp [isBlank, UInt32.le_iff_toNat_le] at *
  omega

theorem Hex.isSmallDigit_of_isBlank (h : isBlank c = true) : Hex.isSmallDigit c = false := by
  simp [isBlank, Hex.isSmallDigit, Char.le_def, UInt32.le_iff_toNat_le] at *
  omega

theorem Hex.toLower_of_isSmallDigit (h : Hex.isSmallDigit c = true) : c.toLower = c := by
  refine toLower_of_not_isUpper (decide_eq_false fun hupper => ?_)
  simp [Hex.isSmallDigit, Char.le_def, UInt32.le_iff_toNat_le] at *
  omega

namespace Blank

/-- What trimming leaves aside is white space. -/
theorem trim_split (text : List Char) : ∃ front back, text = front ++ (trim text ++ back) ∧
    (∀ c ∈ front, isBlank c = true) ∧ ∀ c ∈ back, isBlank c = true := by
  refine ⟨text.takeWhile isBlank, (trimStart text).rtakeWhile isBlank, ?_, ?_, ?_⟩
  · have hend : trim text ++ (trimStart text).rtakeWhile isBlank = trimStart text :=
      List.rdropWhile_append_rtakeWhile
    rw [hend, trimStart, List.takeWhile_append_dropWhile]
  · exact fun c hc => List.mem_takeWhile_imp hc
  · exact fun c hc => List.mem_rtakeWhile_imp hc

/-- Trimming leaves something of a text that is not white space throughout. -/
theorem trim_eq_nil_iff : trim text = [] ↔ ∀ c ∈ text, isBlank c = true := by
  constructor
  · intro hnil c hc
    obtain ⟨front, back, hsplit, hfront, hback⟩ := trim_split text
    rw [hnil, List.nil_append] at hsplit
    rw [hsplit] at hc
    exact (List.mem_append.1 hc).elim (hfront c) (hback c)
  · intro hblank
    rw [trim, trimStart, List.dropWhile_eq_nil_iff.2 hblank]
    rfl

theorem trimEnd_eq_nil_iff : trimEnd text = [] ↔ ∀ c ∈ text, isBlank c = true :=
  List.rdropWhile_eq_nil_iff

/-- What stands before text that is not white space throughout stays. -/
theorem trimEnd_append {more : List Char} (h : trimEnd more ≠ []) (text : List Char) :
    trimEnd (text ++ more) = text ++ trimEnd more := by
  have hne : (more.reverse.dropWhile isBlank).isEmpty = false := by
    rw [List.isEmpty_eq_false_iff]
    intro hnil
    exact h (by rw [trimEnd, dropEndWhile, hnil, List.reverse_nil])
  rw [trimEnd, dropEndWhile, List.reverse_append, List.dropWhile_append, hne,
    if_neg Bool.false_ne_true, List.reverse_append, List.reverse_reverse]
  rfl

theorem trimEnd_cons (hc : isBlank c = false) (text : List Char) :
    trimEnd (c :: text) = c :: trimEnd text := by
  by_cases hnil : trimEnd text = []
  · have hblank : text.reverse.dropWhile isBlank = [] := List.reverse_eq_nil_iff.1 hnil
    rw [hnil, trimEnd, dropEndWhile, List.reverse_cons, List.dropWhile_append, hblank]
    simp [hc]
  · exact trimEnd_append hnil [c]

theorem trimEnd_trimEnd (text : List Char) : trimEnd (trimEnd text) = trimEnd text :=
  List.rdropWhile_idempotent isBlank text

/-- It does not matter at which end a text is trimmed first. -/
theorem trimStart_trimEnd (text : List Char) : trimStart (trimEnd text) = trim text := by
  induction text with
  | nil => rfl
  | cons c text ih =>
    cases hc : isBlank c with
    -- nothing is trimmed at the front
    | false =>
      rw [trimEnd_cons hc, trim, trimStart, trimStart, List.dropWhile_cons_of_neg (by simp [hc]),
        List.dropWhile_cons_of_neg (by simp [hc]), trimEnd_cons hc]
    | true =>
      have hstart : ∀ more, trimStart (c :: more) = trimStart more := fun more =>
        List.dropWhile_cons_of_pos hc
      rw [trim, hstart, ← trim, ← ih]
      -- a blank in front of blanks alone is trimmed at either end
      by_cases hnil : trimEnd text = []
      · have hall : ∀ x ∈ c :: text, isBlank x = true :=
          List.forall_mem_cons.2 ⟨hc, trimEnd_eq_nil_iff.1 hnil⟩
        rw [hnil, trimEnd_eq_nil_iff.2 hall]
      · rw [show trimEnd (c :: text) = c :: trimEnd text from trimEnd_append hnil [c], hstart]

theorem trim_trimEnd (text : List Char) : trim (trimEnd text) = trim text := by
  rw [← trimStart_trimEnd (trimEnd text), trimEnd_trimEnd, trimStart_trimEnd]

theorem trim_trim (text : List Char) : trim (trim text) = trim text := by
  have hstart : trimStart (trim text) = trim text := by
    rw [← trimStart_trimEnd text]
    exact List.dropWhile_idempotent isBlank (trimEnd text)
  rw [trim, hstart, trim, trimEnd_trimEnd]

/-- A trimmed text does not end in white space. -/
theorem getLast_trim (h : trim text ≠ []) : isBlank ((trim text).getLast h) = false := by
  have hlast := List.rdropWhile_last_not isBlank (trimStart text) h
  exact Bool.not_eq_true _ ▸ hlast

/-- If one text ends in another that does not end in white space, there is no
white space behind it. -/
theorem eq_nil_of_append {before front behind : List Char} (hne : text ≠ [])
    (hlast : isBlank (text.getLast hne) = false) (h : before ++ text = front ++ behind)
    (hblank : ∀ c ∈ behind, isBlank c = true) : behind = [] := by
  by_contra hbehind
  have hsame : (before ++ text).getLast (by simp [hne]) = behind.getLast hbehind := by
    simp only [h]
    rw [List.getLast_append_right hbehind]
  rw [List.getLast_append_right hne] at hsame
  rw [hsame, hblank _ (List.getLast_mem hbehind)] at hlast
  cases hlast

end Blank

end Flagpost
