/-!
# Flagpost — results

What a computation that may fail tells when it has succeeded: each of its steps has.
-/

namespace Flagpost

variable {ε α β γ : Type}

/-- A step that has succeeded hands its answer on. -/
theorem ok_bind (a : α) (f : α → Except ε β) : (Except.ok a >>= f) = f a := rfl

/-- A computation that succeeds does so at its first step. -/
theorem ok_of_bind {x : Except ε α} {f : α → Except ε β} {b : β} (h : x >>= f = .ok b) :
    ∃ a, x = .ok a ∧ f a = .ok b := by
  cases x with
  | error e => cases h
  | ok a => exact ⟨a, rfl, h⟩

/-- What is made of a result succeeds if there is one. -/
theorem ok_of_map {x : Except ε α} {f : α → β} {b : β} (h : x.map f = .ok b) :
    ∃ a, x = .ok a ∧ f a = b := by
  cases x with
  | error e => cases h
  | ok a => exact ⟨a, rfl, Except.ok.inj h⟩

/-- Results that are put into other words alike are alike. -/
theorem map_eq_map {f : α → γ} {g : β → γ} {x : Except ε α} {y : Except ε β}
    (h : x.map f = y.map g) :
    (∃ e, x = .error e ∧ y = .error e) ∨ ∃ a b, x = .ok a ∧ y = .ok b ∧ f a = g b := by
  cases x with
  | error e =>
    cases y with
    | error e' =>
      cases h
      exact .inl ⟨e, rfl, rfl⟩
    | ok b => cases h
  | ok a =>
    cases y with
    | error e => cases h
    | ok b =>
      rw [Except.map, Except.map, Except.ok.injEq] at h
      exact .inr ⟨a, b, rfl, rfl, h⟩

/-- A computation on each entry of a list has an answer for each. -/
theorem length_of_mapM {f : α → Except ε β} {l : List α} {values : List β}
    (h : l.mapM f = .ok values) : values.length = l.length := by
  induction l generalizing values with
  | nil =>
    cases h
    rfl
  | cons a l ih =>
    rw [List.mapM_cons] at h
    obtain ⟨b, -, h⟩ := ok_of_bind h
    obtain ⟨rest, hrest, h⟩ := ok_of_bind h
    cases h
    rw [List.length_cons, List.length_cons, ih hrest]

end Flagpost
