import Flagpost.Hook.Collection

/-!
# Flagpost — a collection as a map

What is under each identifier after a change of a collection. Since the order
of the hooks is part of a collection, the hooks in it are all there is to it
(`Collection.ext_mem`), and so is what is under its identifiers
(`Collection.ext_find?`); that a change is taken back by another is then a matter
of looking up.

* `Collection.erase_insert`   — taking out a hook that was new.
* `Collection.insert_insert`  — putting the hook back that was there before.
* `Collection.insert_erase`   — putting the hook back that was taken out.
* `Collection.ofList_hooks`   — the hooks of a collection make the collection.
-/

namespace Flagpost

namespace Collection

variable {c c' : Collection} {hook previous : Hook} {id : String}

-- ---------------------------------------------------------------------------
-- Looking up
-- ---------------------------------------------------------------------------

theorem find?_id (h : c.find? id = some hook) : hook.id = id :=
  beq_iff_eq.1 (List.find?_some (p := fun x : Hook => x.id == id) h)

theorem mem_of_find? (h : c.find? id = some hook) : hook ∈ c.hooks := List.mem_of_find?_eq_some h

theorem find?_place (hook : Hook) (hooks : List Hook) (id : String) :
    (place hook hooks).find? (·.id == id) =
      if hook.id = id then some hook else hooks.find? (·.id == id) := by
  induction hooks with
  | nil => by_cases h : hook.id = id <;> simp [place, h]
  | cons x hooks ih =>
    rw [place]
    split
    · -- it comes before the first hook
      by_cases h : hook.id = id <;> simp [List.find?_cons, h]
    · split
      · -- it comes somewhere behind the first hook
        rename_i hlt
        rw [List.find?_cons, List.find?_cons, ih]
        by_cases h : hook.id = id
        · have hx : (x.id == id) = false := by
            refine beq_false_of_ne fun hx => String.lt_irrefl id ?_
            rw [h, hx] at hlt
            exact hlt
          rw [hx, if_pos h]
        · simp [h]
      · -- it takes the place of the first hook
        rename_i hle hge
        have hx : x.id = hook.id := String.le_antisymm (String.not_lt.1 hle) (String.not_lt.1 hge)
        by_cases h : hook.id = id <;> simp [h, hx]

theorem find?_insert (c : Collection) (hook : Hook) (id : String) :
    (c.insert hook).find? id = if hook.id = id then some hook else c.find? id :=
  find?_place hook c.hooks id

/-- Of two hooks with different identifiers, both are found. -/
theorem find?_insert_insert (c : Collection) {hook hook' : Hook} (hid : hook.id ≠ hook'.id) :
    ((c.insert hook).insert hook').find? hook.id = some hook ∧
      ((c.insert hook).insert hook').find? hook'.id = some hook' := by
  rw [find?_insert, find?_insert, find?_insert, if_neg hid.symm, if_pos rfl, if_pos rfl]
  exact ⟨rfl, rfl⟩

theorem find?_erase (c : Collection) (gone id : String) :
    (c.erase gone).find? id = if id = gone then none else c.find? id := by
  rw [find?, find?, erase, List.find?_filter]
  by_cases h : id = gone
  · subst h
    rw [if_pos rfl, List.find?_eq_none]
    simp
  · rw [if_neg h]
    congr 1
    funext x
    by_cases hx : x.id = id <;> simp [hx, h]

/-- Each hook of a collection is found under its identifier. -/
theorem find?_of_mem (h : hook ∈ c.hooks) : c.find? hook.id = some hook := by
  obtain ⟨hooks, ascending⟩ := c
  induction hooks with
  | nil => cases h
  | cons x hooks ih =>
    obtain ⟨hfirst, hrest⟩ := List.pairwise_cons.1 ascending
    rcases List.mem_cons.1 h with rfl | h
    · simp [find?]
    · have hx : x.id ≠ hook.id := fun hx => String.lt_irrefl hook.id (hx ▸ hfirst hook h)
      have ih := ih hrest h
      rw [find?] at ih ⊢
      simp [hx, ih]

theorem nodup (c : Collection) : c.hooks.Nodup :=
  c.ascending.imp (S := (· ≠ ·)) fun {_ b} hlt he => String.lt_irrefl b.id (he ▸ hlt)

/-- A collection is the set of its hooks. -/
theorem ext_mem (h : ∀ hook, hook ∈ c.hooks ↔ hook ∈ c'.hooks) : c = c' := by
  have hperm := (List.perm_ext_iff_of_nodup c.nodup c'.nodup).2 h
  have heq : c.hooks = c'.hooks := hperm.eq_of_pairwise
    (fun a b _ _ hab hba => absurd (String.lt_trans hab hba) (String.lt_irrefl _))
    c.ascending c'.ascending
  cases c
  cases c'
  cases heq
  rfl

/-- A collection is what it has under each identifier. -/
theorem ext_find? (h : ∀ id, c.find? id = c'.find? id) : c = c' :=
  ext_mem fun x =>
    ⟨fun hx => mem_of_find? (h x.id ▸ find?_of_mem hx),
      fun hx => mem_of_find? ((h x.id).symm ▸ find?_of_mem hx)⟩

-- ---------------------------------------------------------------------------
-- Changes taken back
-- ---------------------------------------------------------------------------

theorem erase_insert (h : c.find? hook.id = none) : (c.insert hook).erase hook.id = c := by
  refine ext_find? fun id => ?_
  rw [find?_erase, find?_insert]
  by_cases hid : id = hook.id
  · rw [if_pos hid, hid, h]
  · rw [if_neg hid, if_neg (Ne.symm hid)]

theorem insert_insert (h : c.find? hook.id = some previous) :
    (c.insert hook).insert previous = c := by
  refine ext_find? fun id => ?_
  have hprevious := find?_id h
  rw [find?_insert, find?_insert]
  by_cases hid : hook.id = id
  · rw [if_pos (hprevious.trans hid), ← hid, h]
  · rw [if_neg (fun he => hid (hprevious.symm.trans he)), if_neg hid]

theorem insert_erase (h : c.find? id = some previous) : (c.erase id).insert previous = c := by
  refine ext_find? fun other => ?_
  have hprevious := find?_id h
  rw [find?_insert, find?_erase]
  by_cases hid : previous.id = other
  · rw [if_pos hid, ← hid, hprevious, h]
  · rw [if_neg hid, if_neg (fun he => hid (hprevious.trans he.symm))]

-- ---------------------------------------------------------------------------
-- Lists
-- ---------------------------------------------------------------------------

theorem place_eq_append {hooks : List Hook} (h : ∀ x ∈ hooks, x.id < hook.id) :
    place hook hooks = hooks ++ [hook] := by
  induction hooks with
  | nil => rfl
  | cons x hooks ih =>
    have hlt : x.id < hook.id := h x List.mem_cons_self
    have hle : ¬ hook.id < x.id := fun hgt => String.lt_irrefl _ (String.lt_trans hlt hgt)
    rw [place, if_neg hle, if_pos hlt, ih fun y hy => h y (List.mem_cons_of_mem _ hy)]
    rfl

theorem hooks_foldl_insert {hooks : List Hook}
    (h : (c.hooks ++ hooks).Pairwise fun a b => a.id < b.id) :
    (hooks.foldl insert c).hooks = c.hooks ++ hooks := by
  induction hooks generalizing c with
  | nil => simp
  | cons hook hooks ih =>
    have hlast : ∀ x ∈ c.hooks, x.id < hook.id := fun x hx =>
      (List.pairwise_append.1 h).2.2 x hx hook List.mem_cons_self
    have hinsert : (c.insert hook).hooks = c.hooks ++ [hook] := place_eq_append hlast
    rw [List.foldl_cons, ih, hinsert, List.append_assoc]
    · rfl
    · rw [hinsert, List.append_assoc]
      exact h

/-- The hooks of a collection make the collection. -/
theorem ofList_hooks (c : Collection) : ofList c.hooks = c := by
  have h : (ofList c.hooks).hooks = c.hooks := hooks_foldl_insert (c := empty) c.ascending
  cases c
  cases hc : ofList _
  rw [hc] at h
  cases h
  rfl

end Collection

end Flagpost
