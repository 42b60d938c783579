import Flagpost.Log.Redaction
import Flagpost.Proofs.Text.Blank

/-!
# Flagpost — the passes of masking

Each pass walks a text from the left. Where its shape cannot begin it keeps the
text as it is, and goes on behind it (`Redaction.maskCredentials_append`,
`Redaction.maskParameters_append`, `Redaction.maskTokens_append`); where its
shape begins, the longest text of the shape becomes the mask. No pass makes a
text that is not empty empty.
-/

namespace Flagpost

namespace Redaction

variable {lead text rest : List Char} {c : Char}

theorem isBlank_of_isCredentialChar (h : isCredentialChar c = true) : isBlank c = false := by
  have hcases : c.isAlphanum = true ∨ c ∈ "._~+/=-\u017F\u212A".toList := by
    simpa [isCredentialChar, or_assoc] using h
  rcases hcases with halnum | hother
  · delta Char.isAlphanum Char.isAlpha Char.isUpper Char.isLower Char.isDigit at halnum
    simp [isBlank, UInt32.le_iff_toNat_le] at *
    omega
  · have hall : "._~+/=-\u017F\u212A".toList.all (!isBlank ·) = true := by decide
    simpa using List.all_eq_true.1 hall c hother

@[simp] theorem maskCredentials_nil : maskCredentials [] = [] := by
  rw [maskCredentials]
  rfl

@[simp] theorem maskParameters_nil : maskParameters [] = [] := by
  rw [maskParameters]
  rfl

@[simp] theorem maskTokens_nil (inWord : Bool) : maskTokens inWord [] = [] := by
  rw [maskTokens]

theorem maskCredentials_of_some (h : afterCredential? text = some rest) :
    maskCredentials text = mask ++ maskCredentials rest := by
  rw [maskCredentials]
  split
  · rename_i found hfound
    rw [h] at hfound
    cases hfound
    rfl
  · rename_i hnone
    rw [h] at hnone
    cases hnone

theorem maskCredentials_of_none (h : afterCredential? (c :: rest) = none) :
    maskCredentials (c :: rest) = c :: maskCredentials rest := by
  rw [maskCredentials]
  split
  · rename_i found hfound
    rw [h] at hfound
    cases hfound
  · rfl

/-- What cannot begin the scheme stays as it is. -/
theorem maskCredentials_append (h : ∀ c ∈ lead, c.toLower ≠ 'b') :
    maskCredentials (lead ++ text) = lead ++ maskCredentials text := by
  induction lead with
  | nil => rfl
  | cons c lead ih =>
    rw [List.forall_mem_cons] at h
    have hnone : afterCredential? (c :: (lead ++ text)) = none := by
      have hscheme : afterIgnoringCase? scheme (c :: (lead ++ text)) = none := if_neg h.1
      rw [afterCredential?, hscheme]
    rw [List.cons_append, maskCredentials_of_none hnone, ih h.2, List.cons_append]

theorem maskCredentials_ne_nil (h : text ≠ []) : maskCredentials text ≠ [] := by
  obtain ⟨c, rest, rfl⟩ := List.exists_cons_of_ne_nil h
  cases hafter : afterCredential? (c :: rest) with
  | some behind =>
    rw [maskCredentials_of_some hafter]
    exact List.cons_ne_nil _ _
  | none =>
    rw [maskCredentials_of_none hafter]
    exact List.cons_ne_nil _ _

theorem maskParameters_of_some (h : afterParameter? text = some rest) :
    maskParameters text = parameter ++ mask ++ maskParameters rest := by
  rw [maskParameters]
  split
  · rename_i found hfound
    rw [h] at hfound
    cases hfound
    rfl
  · rename_i hnone
    rw [h] at hnone
    cases hnone

theorem maskParameters_of_none (h : afterParameter? (c :: rest) = none) :
    maskParameters (c :: rest) = c :: maskParameters rest := by
  rw [maskParameters]
  split
  · rename_i found hfound
    rw [h] at hfound
    cases hfound
  · rfl

/-- A parameter cannot begin where there is no `t`. -/
theorem maskParameters_append (h : 't' ∉ lead) :
    maskParameters (lead ++ text) = lead ++ maskParameters text := by
  induction lead with
  | nil => rfl
  | cons c lead ih =>
    rw [List.mem_cons, not_or] at h
    have hnone : afterParameter? (c :: (lead ++ text)) = none := by
      have hname : after? parameter (c :: (lead ++ text)) = none := if_neg (Ne.symm h.1)
      rw [afterParameter?, hname]
    rw [List.cons_append, maskParameters_of_none hnone, ih h.2, List.cons_append]

theorem maskParameters_ne_nil (h : text ≠ []) : maskParameters text ≠ [] := by
  obtain ⟨c, rest, rfl⟩ := List.exists_cons_of_ne_nil h
  rw [maskParameters]
  split
  · exact List.cons_ne_nil _ _
  · exact List.cons_ne_nil _ _

theorem maskTokens_of_some {behind : List Char} (h : afterToken? (c :: rest) = some behind) :
    maskTokens false (c :: rest) = mask ++ maskTokens true behind := by
  rw [maskTokens, if_neg (by decide)]
  split
  · rename_i found hfound
    rw [h] at hfound
    cases hfound
    rfl
  · rename_i hnone
    rw [h] at hnone
    cases hnone

theorem maskTokens_of_none (h : afterToken? (c :: rest) = none) (inWord : Bool) :
    maskTokens inWord (c :: rest) = c :: maskTokens (Unicode.isWord c) rest := by
  rw [maskTokens]
  split
  · rfl
  · split
    · rename_i hsome
      rw [h] at hsome
      cases hsome
    · rfl

/-- A generated token begins with eight digits, so it does not begin shortly
before a character that is none. -/
theorem afterToken?_eq_none (hc : Hex.isSmallDigit c = false) (front rest : List Char)
    (hshort : front.length < 8) : afterToken? (front ++ c :: rest) = none := by
  have hlength : ((front ++ c :: rest).takeWhile Hex.isSmallDigit).length ≤ front.length := by
    rw [List.takeWhile_append]
    split
    · rw [List.takeWhile_cons_of_neg (by simp [hc]), List.append_nil]
    · exact (List.takeWhile_prefix _).length_le
  rw [afterToken?, if_neg (by omega)]

theorem maskTokens_append (h : ∀ c ∈ lead, Hex.isSmallDigit c = false) (inWord : Bool)
    (text : List Char) :
    ∃ inWord', maskTokens inWord (lead ++ text) = lead ++ maskTokens inWord' text := by
  induction lead generalizing inWord with
  | nil => exact ⟨inWord, rfl⟩
  | cons c lead ih =>
    rw [List.forall_mem_cons] at h
    obtain ⟨inWord', hrest⟩ := ih h.2 (Unicode.isWord c)
    have hnone : afterToken? ([] ++ c :: (lead ++ text)) = none :=
      afterToken?_eq_none h.1 [] (lead ++ text) (by decide)
    exact ⟨inWord', by rw [List.cons_append, maskTokens_of_none hnone, hrest, List.cons_append]⟩

theorem maskTokens_ne_nil (inWord : Bool) (h : text ≠ []) : maskTokens inWord text ≠ [] := by
  obtain ⟨c, rest, rfl⟩ := List.exists_cons_of_ne_nil h
  rw [maskTokens]
  split
  · exact List.cons_ne_nil _ _
  · split
    · exact List.cons_ne_nil _ _
    · exact List.cons_ne_nil _ _

end Redaction

end Flagpost
