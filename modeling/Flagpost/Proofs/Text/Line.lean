import Flagpost.Text.Line

/-!
# Flagpost — the first line

`Line.split?` finds the first newline: there is none before it, and where nothing is found
there is none at all. The first line of an input is what is before the newline, or
everything if there is none (`Line.First`).
-/

namespace Flagpost.Line

variable {bytes line rest : Bytes}

theorem split?_eq_some (h : split? bytes = some (line, rest)) : bytes = line ++ ending :: rest := by
  induction bytes generalizing line with
  | nil => cases h
  | cons b bytes ih =>
    rw [split?] at h
    split at h
    · rename_i hb
      cases h
      rw [hb, List.nil_append]
    · obtain ⟨⟨line', rest'⟩, hs, he⟩ := Option.map_eq_some_iff.1 h
      cases he
      rw [ih hs, List.cons_append]

theorem not_mem_of_split?_eq_some (h : split? bytes = some (line, rest)) : ending ∉ line := by
  induction bytes generalizing line with
  | nil => cases h
  | cons b bytes ih =>
    rw [split?] at h
    split at h
    · cases h
      exact List.not_mem_nil
    · rename_i hb
      obtain ⟨⟨line', rest'⟩, hs, he⟩ := Option.map_eq_some_iff.1 h
      cases he
      simp [ih hs, Ne.symm hb]

theorem not_mem_of_split?_eq_none (h : split? bytes = none) : ending ∉ bytes := by
  induction bytes with
  | nil => exact List.not_mem_nil
  | cons b bytes ih =>
    rw [split?] at h
    split at h
    · cases h
    · rename_i hb
      have hrest := ih (Option.map_eq_none_iff.1 h)
      simp [hrest, Ne.symm hb]

theorem split?_append (h : ending ∉ line) (rest : Bytes) :
    split? (line ++ ending :: rest) = some (line, rest) := by
  induction line with
  | nil => rw [List.nil_append, split?, if_pos rfl]
  | cons b line ih =>
    rw [List.mem_cons, not_or] at h
    rw [List.cons_append, split?, if_neg (Ne.symm h.1), ih h.2]
    rfl

/-- The first line of an input, its newline left out, and what is behind it. -/
structure First (input line rest : Bytes) : Prop where
  parts : input = line ++ ending :: rest ∨ input = line ∧ rest = []
  unbroken : ending ∉ line

/-- The first line is the one that is split off, or all of the input. -/
theorem first_iff : First bytes line rest ↔ (split? bytes).getD (bytes, []) = (line, rest) := by
  constructor
  · rintro ⟨rfl | ⟨rfl, rfl⟩, hunbroken⟩
    · rw [split?_append hunbroken, Option.getD_some]
    · -- input that has an ending in it is not all one line
      cases hsplit : split? bytes with
      | none => rfl
      | some parts =>
        rw [split?_eq_some hsplit] at hunbroken
        exact absurd (List.mem_append_right _ List.mem_cons_self) hunbroken
  · intro h
    cases hsplit : split? bytes with
    | none =>
      rw [hsplit, Option.getD_none] at h
      cases h
      exact ⟨.inr ⟨rfl, rfl⟩, not_mem_of_split?_eq_none hsplit⟩
    | some parts =>
      rw [hsplit, Option.getD_some] at h
      cases h
      exact ⟨.inl (split?_eq_some hsplit), not_mem_of_split?_eq_some hsplit⟩

end Flagpost.Line
