/-!
# Flagpost — the parts between separators

Paths and routes are taken apart at slashes. The parts have no separator in
them and nothing that was not in the text, and text without separators that
is put behind a text makes the last part longer.
-/

namespace List

variable {α : Type} [BEq α] {sep : α} {text part : List α}

/-- No part has a separator in it. -/
theorem not_mem_of_mem_splitOn [LawfulBEq α] (h : part ∈ text.splitOn sep) : sep ∉ part := by
  induction text generalizing part with
  | nil =>
    rw [splitOn_nil, mem_singleton] at h
    simp [h]
  | cons c text ih =>
    rw [splitOn_cons_eq_if_modifyHead] at h
    split at h
    · -- a separator: an empty part and those of the rest
      rcases mem_cons.1 h with rfl | h
      · simp
      · exact ih h
    · rename_i hc
      obtain ⟨head, tail, hsplit⟩ := exists_cons_of_ne_nil (splitOn_ne_nil sep text)
      rw [hsplit] at h ih
      -- another element gets in front of the first part
      rcases mem_cons.1 h with rfl | h
      · have hhead := ih mem_cons_self
        have hne : sep ≠ c := fun he => hc (beq_iff_eq.2 he.symm)
        simp [hne, hhead]
      · exact ih (mem_cons_of_mem _ h)

/-- What is in a part is in the text. -/
theorem mem_of_mem_splitOn {x : α} (h : part ∈ text.splitOn sep) (hx : x ∈ part) : x ∈ text := by
  induction text generalizing part with
  | nil =>
    rw [splitOn_nil, mem_singleton] at h
    exact h ▸ hx
  | cons c text ih =>
    rw [splitOn_cons_eq_if_modifyHead] at h
    split at h
    · rcases mem_cons.1 h with rfl | h
      · cases hx
      · exact mem_cons_of_mem c (ih h hx)
    · obtain ⟨head, tail, hsplit⟩ := exists_cons_of_ne_nil (splitOn_ne_nil sep text)
      rw [hsplit] at h ih
      rcases mem_cons.1 h with rfl | h
      · rcases mem_cons.1 hx with rfl | hx
        · exact mem_cons_self
        · exact mem_cons_of_mem c (ih mem_cons_self hx)
      · exact mem_cons_of_mem c (ih (mem_cons_of_mem _ h) hx)

/-- What is in the text and is no separator is in a part. -/
theorem exists_mem_splitOn [LawfulBEq α] {x : α} (hx : x ∈ text) (hne : x ≠ sep) :
    ∃ part ∈ text.splitOn sep, x ∈ part := by
  induction text with
  | nil => cases hx
  | cons c text ih =>
    obtain ⟨head, tail, hsplit⟩ := exists_cons_of_ne_nil (splitOn_ne_nil sep text)
    rw [splitOn_cons_eq_if_modifyHead]
    rw [hsplit] at ih ⊢
    rcases mem_cons.1 hx with rfl | hx
    · -- it is the first element, and in the first part
      rw [if_neg (by simpa using hne), modifyHead_cons]
      exact ⟨_, mem_cons_self, mem_cons_self⟩
    · -- it is in the rest, and in a part of the rest
      obtain ⟨part, hpart, hmem⟩ := ih hx
      split
      · exact ⟨part, mem_cons_of_mem _ hpart, hmem⟩
      · rw [modifyHead_cons]
        rcases mem_cons.1 hpart with rfl | hpart
        · exact ⟨_, mem_cons_self, mem_cons_of_mem c hmem⟩
        · exact ⟨part, mem_cons_of_mem _ hpart, hmem⟩

/-- Text without separators makes the last part longer, which is empty only if
the text is or ends in a separator. -/
theorem splitOn_append_of_not_mem [LawfulBEq α] {more : List α} (hm : sep ∉ more)
    (text : List α) :
    ∃ before last, text.splitOn sep = before ++ [last] ∧
      (text ++ more).splitOn sep = before ++ [last ++ more] ∧
      (last = [] → text = [] ∨ text.getLast? = some sep) := by
  induction text with
  | nil => exact ⟨[], [], rfl, splitOn_eq_singleton hm, fun _ => .inl rfl⟩
  | cons c text ih =>
    obtain ⟨before, last, hsplit, hmore, hempty⟩ := ih
    rw [cons_append, splitOn_cons_eq_if_modifyHead, splitOn_cons_eq_if_modifyHead, hsplit, hmore]
    split
    · -- a separator begins a new part, and the last one stays the last
      rename_i hc
      refine ⟨[] :: before, last, rfl, rfl, fun hl => .inr ?_⟩
      rcases hempty hl with rfl | hlast
      · rw [beq_iff_eq.1 hc]
        rfl
      · rw [getLast?_cons, hlast]
        rfl
    · -- a character joins the first part, which may be the last one too
      cases before with
      | nil => exact ⟨[], c :: last, rfl, rfl, fun hl => by cases hl⟩
      | cons part before =>
        refine ⟨(c :: part) :: before, last, rfl, rfl, fun hl => .inr ?_⟩
        rcases hempty hl with rfl | hlast
        · cases before <;> cases hsplit
        · rw [getLast?_cons, hlast]
          rfl

end List
