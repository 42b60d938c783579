import Flagpost.Hook.Basic

/-!
# Flagpost — a collection of hooks

The hooks that are kept, at most one for each identifier, in the order of
their identifiers. The order is part of the type, so a collection is
determined by what it holds: two histories that end with the same hooks end
with the same collection.
-/

namespace Flagpost

/-- Hooks in strictly ascending order of their identifiers. -/
structure Collection where
  hooks : List Hook
  ascending : hooks.Pairwise fun a b => a.id < b.id

namespace Collection

/-- No hooks. -/
def empty : Collection := ⟨[], .nil⟩

/-- The hook with an identifier. -/
def find? (c : Collection) (id : String) : Option Hook := c.hooks.find? (·.id == id)

/-- Is there a hook with this identifier? -/
def contains (c : Collection) (id : String) : Bool := (c.find? id).isSome

/-- How many hooks there are. -/
def size (c : Collection) : Nat := c.hooks.length

/-- Puts a hook in its place in an ascending list, over the one that has its
identifier. -/
def place (hook : Hook) : List Hook → List Hook
  | [] => [hook]
  | h :: rest =>
    if hook.id < h.id then hook :: h :: rest
    else if h.id < hook.id then h :: place hook rest
    else hook :: rest

theorem mem_place {hook x : Hook} {hooks : List Hook} (h : x ∈ place hook hooks) :
    x = hook ∨ x ∈ hooks := by
  induction hooks with
  | nil => simpa [place] using h
  | cons y rest ih =>
    simp only [place] at h
    split at h
    · simpa using h
    · split at h
      · rcases List.mem_cons.1 h with rfl | h
        · exact .inr (by simp)
        · rcases ih h with h | h
          · exact .inl h
          · exact .inr (by simp [h])
      · rcases List.mem_cons.1 h with h | h
        · exact .inl h
        · exact .inr (by simp [h])

theorem place_ascending {hook : Hook} {hooks : List Hook}
    (h : hooks.Pairwise fun a b => a.id < b.id) :
    (place hook hooks).Pairwise fun a b => a.id < b.id := by
  induction hooks with
  | nil => simp [place]
  | cons y rest ih =>
    obtain ⟨hy, hrest⟩ := List.pairwise_cons.1 h
    simp only [place]
    split
    · rename_i hlt
      refine List.pairwise_cons.2 ⟨fun z hz => ?_, h⟩
      rcases List.mem_cons.1 hz with rfl | hz
      · exact hlt
      · exact String.lt_trans hlt (hy z hz)
    · rename_i hle
      split
      · rename_i hgt
        refine List.pairwise_cons.2 ⟨fun z hz => ?_, ih hrest⟩
        rcases mem_place hz with rfl | hz
        · exact hgt
        · exact hy z hz
      · rename_i hge
        have he : y.id = hook.id :=
          String.le_antisymm (String.not_lt.1 hle) (String.not_lt.1 hge)
        refine List.pairwise_cons.2 ⟨fun z hz => ?_, hrest⟩
        exact he ▸ hy z hz

/-- Puts a hook into the collection, over the one that has its identifier. -/
def insert (c : Collection) (hook : Hook) : Collection :=
  ⟨place hook c.hooks, place_ascending c.ascending⟩

/-- Takes the hook with an identifier out of the collection. -/
def erase (c : Collection) (id : String) : Collection :=
  ⟨c.hooks.filter (·.id != id), c.ascending.filter _⟩

/-- The collection of a list of hooks; of two with one identifier the later
one stays. -/
def ofList (hooks : List Hook) : Collection := hooks.foldl insert empty

/-- The identifiers that a list of hooks repeats, one for each repetition, in
order. `seen` has the identifiers that came before. -/
def repeated (seen : List String) : List Hook → List String
  | [] => []
  | h :: rest =>
    if seen.contains h.id then h.id :: repeated seen rest else repeated (h.id :: seen) rest

end Collection

end Flagpost
