import Flagpost.File.System

/-!
# Flagpost — the tree after a change

What is at each location after a change of the tree, for each of the changes
the operations are made of. Locations that a change is not about keep their
nodes, whatever the tree looks like: nothing here asks that a node lies in a
directory, or that a location is listed once.

`Keeps` and `Grows` are what most changes have in common. A tree that grows
keeps every node it has; a tree that keeps its directories can still be gone
through the way it could before.
-/

namespace Flagpost

namespace FileSystem

variable {fs fs' : FileSystem} {location other : Location} {number : Nat} {content : Bytes}

-- ---------------------------------------------------------------------------
-- Looking up
-- ---------------------------------------------------------------------------

theorem lookup_cons_of_ne {at' : Location} (h : location ≠ at') (node : Node)
    (nodes : List (Location × Node)) :
    ((at', node) :: nodes).lookup location = nodes.lookup location := by
  rw [List.lookup_cons, beq_false_of_ne h]

theorem lookup_filter (p : Location → Bool) (nodes : List (Location × Node)) (l : Location) :
    (nodes.filter fun entry => p entry.1).lookup l = if p l then nodes.lookup l else none := by
  induction nodes with
  | nil => simp
  | cons entry nodes ih =>
    obtain ⟨at', node⟩ := entry
    by_cases hl : l = at'
    · subst hl
      cases hp : p l with
      | true => simp [hp]
      | false => simp [hp, ih]
    · rw [lookup_cons_of_ne hl]
      cases hp : p at' with
      | true => simp only [List.filter_cons, hp, if_true, lookup_cons_of_ne hl, ih]
      | false => simp only [List.filter_cons, hp, Bool.false_eq_true, if_false, ih]

theorem lookup_map_node (f : Node → Node) (nodes : List (Location × Node)) (l : Location) :
    (nodes.map fun entry => (entry.1, f entry.2)).lookup l = (nodes.lookup l).map f := by
  induction nodes with
  | nil => rfl
  | cons entry nodes ih =>
    obtain ⟨at', node⟩ := entry
    by_cases hl : l = at'
    · subst hl
      rw [List.map_cons, List.lookup_cons_self, List.lookup_cons_self, Option.map_some]
    · rw [List.map_cons, lookup_cons_of_ne hl, lookup_cons_of_ne hl, ih]

/-- A location that only one location goes to has the node of that one. -/
theorem lookup_map_location {moved : Location → Location} {l target : Location}
    {nodes : List (Location × Node)} (h : ∀ entry ∈ nodes, moved entry.1 = target ↔ entry.1 = l) :
    (nodes.map fun entry => (moved entry.1, entry.2)).lookup target = nodes.lookup l := by
  induction nodes with
  | nil => rfl
  | cons entry nodes ih =>
    obtain ⟨at', node⟩ := entry
    have hat := h (at', node) List.mem_cons_self
    have ih := ih fun entry he => h entry (List.mem_cons_of_mem _ he)
    by_cases hl : l = at'
    · subst hl
      have ht : moved l = target := hat.2 rfl
      rw [List.map_cons, ht, List.lookup_cons_self, List.lookup_cons_self]
    · have ht : target ≠ moved at' := fun ht => hl (hat.1 ht.symm).symm
      rw [List.map_cons, lookup_cons_of_ne ht, lookup_cons_of_ne hl, ih]

@[simp] theorem node?_nil (fs : FileSystem) : fs.node? [] = some .directory := if_pos rfl

theorem node?_of_ne_nil (h : location ≠ []) : fs.node? location = fs.nodes.lookup location :=
  if_neg h

/-- A node other than the top is one of the nodes of the tree. -/
theorem mem_nodes {node : Node} (hl : location ≠ []) (h : fs.node? location = some node) :
    (location, node) ∈ fs.nodes := by
  rw [node?_of_ne_nil hl] at h
  obtain ⟨before, behind, hsplit, _⟩ := List.lookup_eq_some_iff.1 h
  rw [hsplit]
  simp

theorem ne_nil_of_file (h : fs.node? location = some (.file number content)) : location ≠ [] := by
  rintro rfl
  rw [node?_nil] at h
  cases h

-- ---------------------------------------------------------------------------
-- Numbers of files
-- ---------------------------------------------------------------------------

theorem eq_of_number {nodes : List (Location × Node)} (h : (fileNumbers nodes).Nodup)
    {a b : Location × Node} (ha : a ∈ nodes) (hb : b ∈ nodes) (hna : a.2.number? = some number)
    (hnb : b.2.number? = some number) : a = b := by
  induction nodes with
  | nil => cases ha
  | cons entry nodes ih =>
    have hin : ∀ x ∈ nodes, x.2.number? = some number → number ∈ fileNumbers nodes :=
      fun x hx hn => List.mem_filterMap.2 ⟨x, hx, hn⟩
    rcases List.mem_cons.1 ha with rfl | ha' <;> rcases List.mem_cons.1 hb with rfl | hb'
    · rfl
    · rw [fileNumbers, List.filterMap_cons_some (f := fun e : Location × Node => e.2.number?) hna] at h
      exact absurd (hin b hb' hnb) (List.nodup_cons.1 h).1
    · rw [fileNumbers, List.filterMap_cons_some (f := fun e : Location × Node => e.2.number?) hnb] at h
      exact absurd (hin a ha' hna) (List.nodup_cons.1 h).1
    · refine ih (h.sublist ?_) ha' hb'
      exact (List.sublist_cons_self entry nodes).filterMap _

/-- Two files that have the same number are one. -/
theorem location_of_number {content' : Bytes}
    (h : fs.node? location = some (.file number content))
    (h' : fs.node? other = some (.file number content')) : location = other := by
  have hentry := eq_of_number fs.unshared (mem_nodes (ne_nil_of_file h) h)
    (mem_nodes (ne_nil_of_file h') h') rfl rfl
  exact congrArg Prod.fst hentry

/-- An open file is as long as what is found at its place. -/
theorem size_eq (h : fs.node? location = some (.file number content)) :
    fs.size number = content.length := by
  have hmem := mem_nodes (ne_nil_of_file h) h
  rw [size]
  generalize hfound : fs.nodes.findSome? _ = found
  cases found with
  | none =>
    -- the file itself would have been found
    have hnone := List.findSome?_eq_none_iff.1 hfound _ hmem
    simp at hnone
  | some length =>
    -- a file of that number is found, and there is only the one
    obtain ⟨⟨at', node⟩, hentry, hlength⟩ := List.exists_of_findSome?_eq_some hfound
    cases node with
    | directory => cases hlength
    | file n content' =>
      dsimp only at hlength
      split at hlength
      · rename_i hn
        subst hn
        cases eq_of_number fs.unshared hentry hmem rfl rfl
        cases hlength
        rfl
      · cases hlength

-- ---------------------------------------------------------------------------
-- Single changes
-- ---------------------------------------------------------------------------

theorem node?_restrict (fs : FileSystem) (p : Location → Bool) (ho : other ≠ []) :
    (fs.restrict fun entry => p entry.1).node? other = if p other then fs.node? other else none := by
  rw [node?_of_ne_nil ho, node?_of_ne_nil ho]
  exact lookup_filter p fs.nodes other

theorem node?_addDirectory (fs : FileSystem) (location other : Location) :
    (fs.addDirectory location).node? other =
      if other = location then some .directory else fs.node? other := by
  by_cases hnil : other = []
  · subst hnil
    simp
  · have hothers := node?_restrict fs (· != location) hnil
    rw [node?_of_ne_nil hnil, addDirectory]
    split
    · subst other
      exact List.lookup_cons_self
    · rename_i hne
      rw [node?_of_ne_nil hnil] at hothers
      rw [lookup_cons_of_ne hne, hothers, bne_iff_ne.2 hne, if_pos rfl]

theorem node?_addFile (hl : location ≠ []) :
    (fs.addFile location content).node? other =
      if other = location then some (.file fs.fresh content) else fs.node? other := by
  by_cases hnil : other = []
  · subst hnil
    rw [node?_nil, if_neg (Ne.symm hl), node?_nil]
  · have hothers := node?_restrict fs (· != location) hnil
    rw [node?_of_ne_nil hnil, addFile]
    split
    · subst other
      exact List.lookup_cons_self
    · rename_i hne
      rw [node?_of_ne_nil hnil] at hothers
      rw [lookup_cons_of_ne hne, hothers, bne_iff_ne.2 hne, if_pos rfl]

theorem node?_rewrite (fs : FileSystem) (number : Nat) (change : Bytes → Bytes)
    (location : Location) :
    (fs.rewrite number change).node? location =
      (fs.node? location).map (Node.rewritten number change) := by
  by_cases hnil : location = []
  · subst hnil
    rfl
  · rw [node?_of_ne_nil hnil, node?_of_ne_nil hnil]
    exact lookup_map_node _ fs.nodes location

/-- Rewriting a file changes that file. -/
theorem node?_rewrite_self (change : Bytes → Bytes)
    (h : fs.node? location = some (.file number content)) :
    (fs.rewrite number change).node? location = some (.file number (change content)) := by
  rw [node?_rewrite, h, Option.map_some, Node.rewritten, if_pos rfl]

/-- Rewriting a file changes nothing else. -/
theorem node?_rewrite_of_ne (change : Bytes → Bytes)
    (h : fs.node? location = some (.file number content)) (ho : other ≠ location) :
    (fs.rewrite number change).node? other = fs.node? other := by
  rw [node?_rewrite]
  cases hother : fs.node? other with
  | none => rfl
  | some node =>
    cases node with
    | directory => rfl
    | file n content' =>
      have hn : n ≠ number := by
        rintro rfl
        exact ho (location_of_number hother h)
      rw [Option.map_some, Node.rewritten, if_neg hn]

theorem node?_drop (hl : location ≠ []) :
    (fs.drop location).node? other = if other = location then none else fs.node? other := by
  by_cases hnil : other = []
  · subst hnil
    rw [node?_nil, if_neg (Ne.symm hl), node?_nil]
  · rw [drop, node?_restrict _ (· != location) hnil]
    by_cases h : other = location <;> simp [h]

theorem node?_relocate (location : Location) {moved : Location → Location}
    (h : ∀ entry ∈ fs.nodes, moved entry.1 = other ↔ entry.1 = location)
    (hl : location ≠ []) (ho : other ≠ []) : (fs.relocate moved).node? other = fs.node? location := by
  rw [node?_of_ne_nil hl, node?_of_ne_nil ho]
  exact lookup_map_location h

theorem ne_of_mem_drop {entry : Location × Node} (h : entry ∈ (fs.drop location).nodes) :
    entry.1 ≠ location :=
  bne_iff_ne.1 (List.mem_filter.1 h).2

/-- What was moved is where it was moved to. -/
theorem node?_move_target {source target : Location} (hs : source ≠ []) (ht : target ≠ [])
    (hne : source ≠ target) : (fs.move source target).node? target = fs.node? source := by
  rw [move, node?_relocate source _ hs ht, node?_drop ht, if_neg hne]
  intro entry he
  have hdrop := ne_of_mem_drop he
  split
  · rename_i hp
    obtain ⟨rest, hrest⟩ := List.isPrefixOf_iff_prefix.1 hp
    rw [← hrest, List.drop_left]
    simp
  · rename_i hp
    refine ⟨fun h => absurd h hdrop, fun h => absurd ?_ hp⟩
    rw [h]
    exact List.isPrefixOf_iff_prefix.2 (List.prefix_refl source)

/-- Where something was moved away there is nothing. -/
theorem node?_move_source {source target : Location} (hs : source ≠ [])
    (ht : ¬ target <+: source) : (fs.move source target).node? source = none := by
  rw [node?_of_ne_nil hs, List.lookup_eq_none_iff]
  intro entry he
  obtain ⟨⟨at', node⟩, -, rfl⟩ := List.mem_map.1 he
  rw [bne_iff_ne]
  dsimp only
  split
  · intro heq
    exact ht (heq ▸ List.prefix_append _ _)
  · rename_i hp
    intro heq
    exact hp (List.isPrefixOf_iff_prefix.2 (heq ▸ List.prefix_refl _))

/-- What is neither below the one place nor below the other is not moved. -/
theorem node?_move_elsewhere {source target : Location} (ht : target ≠ [])
    (hs : ¬ source <+: other) (ho : ¬ target <+: other) :
    (fs.move source target).node? other = fs.node? other := by
  by_cases hnil : other = []
  · subst hnil
    rw [node?_nil, node?_nil]
  · have hne : other ≠ target := by
      rintro rfl
      exact ho (List.prefix_refl other)
    rw [move, node?_relocate other _ hnil hnil, node?_drop ht, if_neg hne]
    -- an entry that is moved was below the source and is below the target, so it is not here
    intro entry he
    split
    · rename_i hp
      refine ⟨fun h => absurd (h ▸ List.prefix_append _ _) ho, fun h => absurd ?_ hs⟩
      rw [← h]
      exact List.isPrefixOf_iff_prefix.1 hp
    · exact Iff.rfl

end FileSystem

end Flagpost
