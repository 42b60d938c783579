import Flagpost.Json.Value

/-!
# Flagpost — documents as trees

A value is found in a document by the names that lead to it, one object after
another (`Json.under?`). The members of an object that has been read stand in the
order of their names, each name once (`Json.Ordered`), and to put a value under a name
changes no other member and keeps the order.

* `member?_putMember_self`, `member?_putMember_of_ne` — what is found after a value has
  been put under a name;
* `Ordered.putMember`, `sorted_of_ordered` — the order;
* `OnlySet` — two documents that differ in one place. It is what putting a value under
  a list of names comes to, one name at a time (`OnlySet.root`, `OnlySet.member`);
* `All` — what holds of all leaves of a document, read off its parts (`all_array`,
  `all_object`).
-/

namespace Flagpost

namespace Json

variable {name other : String} {names : List String} {value new leaf : Json}
  {members : List (String × Json)}

-- ---------------------------------------------------------------------------
-- Members
-- ---------------------------------------------------------------------------

theorem member?_cons (member : String × Json) :
    member? (member :: members) other =
      if other = member.1 then some member.2 else member? members other := by
  rw [member?, List.lookup_cons]
  by_cases h : other = member.1
  · rw [if_pos h, beq_iff_eq.2 h]
  · rw [if_neg h, beq_false_of_ne h]
    rfl

/-- What has been put under a name is found there. -/
theorem member?_putMember_self (name : String) (value : Json) (members : List (String × Json)) :
    member? (putMember name value members) name = some value := by
  induction members with
  | nil => rw [putMember, member?_cons, if_pos rfl]
  | cons member members ih =>
    rw [putMember]
    split
    · rw [member?_cons, if_pos rfl]
    · rename_i hne
      split
      · rw [member?_cons, if_pos rfl]
      · rw [member?_cons, if_neg hne, ih]

/-- Under any other name there is what there was. -/
theorem member?_putMember_of_ne (h : other ≠ name) (value : Json)
    (members : List (String × Json)) :
    member? (putMember name value members) other = member? members other := by
  induction members with
  | nil => rw [putMember, member?_cons, if_neg h]
  | cons member members ih =>
    rw [putMember]
    split
    · rename_i heq
      rw [member?_cons, member?_cons, if_neg h, if_neg (heq ▸ h)]
    · split
      · rw [member?_cons, if_neg h]
      · rw [member?_cons, member?_cons, ih]

theorem mem_of_member? (h : member? members name = some value) : (name, value) ∈ members := by
  induction members with
  | nil => cases h
  | cons member members ih =>
    rw [member?_cons] at h
    split at h
    · rename_i heq
      cases h
      exact heq ▸ List.mem_cons_self
    · exact List.mem_cons_of_mem _ (ih h)

/-- There is something under the name of a member. -/
theorem member?_ne_none_of_mem (h : (name, value) ∈ members) : member? members name ≠ none := by
  induction members with
  | nil => cases h
  | cons member members ih =>
    rw [member?_cons]
    split
    · exact Option.some_ne_none _
    · rename_i hne
      rcases List.mem_cons.1 h with rfl | h
      · exact absurd rfl hne
      · exact ih h

/-- A member after a value has been put under a name is the new one or one that was
there. -/
theorem mem_putMember {member : String × Json} (h : member ∈ putMember name value members) :
    member = (name, value) ∨ member ∈ members := by
  induction members with
  | nil => exact .inl (List.mem_singleton.1 h)
  | cons first members ih =>
    rw [putMember] at h
    split at h
    · exact (List.mem_cons.1 h).imp_right (List.mem_cons_of_mem _)
    · split at h
      · exact List.mem_cons.1 h
      · rcases List.mem_cons.1 h with rfl | h
        · exact .inr List.mem_cons_self
        · exact (ih h).imp_right (List.mem_cons_of_mem _)

-- ---------------------------------------------------------------------------
-- The order of members
-- ---------------------------------------------------------------------------

/-- The members stand in the order of their names, each name once. -/
def Ordered (members : List (String × Json)) : Prop := members.Pairwise (·.1 < ·.1)

instance (members : List (String × Json)) : Decidable (Ordered members) :=
  inferInstanceAs (Decidable (members.Pairwise (·.1 < ·.1)))

/-- To put a value under a name keeps the order. -/
theorem Ordered.putMember (h : Ordered members) (name : String) (value : Json) :
    Ordered (putMember name value members) := by
  induction members with
  | nil => exact List.pairwise_singleton _ _
  | cons first members ih =>
    obtain ⟨hfirst, hmembers⟩ := List.pairwise_cons.1 h
    rw [Json.putMember]
    split
    · rename_i heq
      -- the name is there, and its value is replaced
      exact List.pairwise_cons.2 ⟨heq ▸ hfirst, hmembers⟩
    · rename_i hne
      split
      · -- the name is before the first one, and so before all
        rename_i hlt
        refine List.pairwise_cons.2 ⟨fun member hmember => ?_, h⟩
        rcases List.mem_cons.1 hmember with rfl | hmember
        · exact hlt
        · exact String.lt_trans hlt (hfirst member hmember)
      · rename_i hge
        -- the name is behind the first one, which stays first
        have hgreater : first.1 < name :=
          Std.lt_of_le_of_ne (String.not_lt.1 hge) fun heq => hne heq.symm
        refine List.pairwise_cons.2 ⟨fun member hmember => ?_, ih hmembers⟩
        rcases mem_putMember hmember with rfl | hmember
        · exact hgreater
        · exact hfirst member hmember

/-- Members that have been sorted are ordered. -/
theorem ordered_sorted (members : List (String × Json)) : Ordered (sorted members) := by
  have hfold : ∀ done, Ordered done →
      Ordered (members.foldl (fun done m => Json.putMember m.1 m.2 done) done) := by
    induction members with
    | nil => exact fun done h => h
    | cons member members ih => exact fun done h => ih _ (h.putMember member.1 member.2)
  exact hfold [] List.Pairwise.nil

/-- A name behind all others gets its place behind all others. -/
theorem putMember_of_greater (h : ∀ member ∈ members, member.1 < name) :
    putMember name value members = members ++ [(name, value)] := by
  induction members with
  | nil => rfl
  | cons first members ih =>
    obtain ⟨hfirst, hmembers⟩ := List.forall_mem_cons.1 h
    have hne : name ≠ first.1 := by
      rintro rfl
      exact String.lt_irrefl _ hfirst
    rw [putMember, if_neg hne, if_neg (String.lt_asymm hfirst), ih hmembers]
    rfl

/-- Members in order are sorted. -/
theorem sorted_of_ordered (h : Ordered members) : sorted members = members := by
  have hfold : ∀ done, Ordered (done ++ members) →
      members.foldl (fun done m => putMember m.1 m.2 done) done = done ++ members := by
    clear h
    induction members with
    | nil => exact fun done _ => (List.append_nil done).symm
    | cons member members ih =>
      intro done hordered
      have hbefore : ∀ m ∈ done, m.1 < member.1 := fun m hm =>
        (List.pairwise_append.1 hordered).2.2 m hm member List.mem_cons_self
      have hmoved : done ++ member :: members = done ++ [member] ++ members := by simp
      rw [List.foldl_cons, putMember_of_greater hbefore, hmoved]
      exact ih _ (hmoved ▸ hordered)
  exact hfold [] h

/-- Whatever holds of all members holds of them after they have been sorted. -/
theorem mem_of_mem_sorted {member : String × Json} (h : member ∈ sorted members) :
    member ∈ members := by
  have hfold : ∀ done, member ∈ members.foldl (fun done m => putMember m.1 m.2 done) done →
      member ∈ done ∨ member ∈ members := by
    clear h
    induction members with
    | nil => exact fun done h => .inl h
    | cons first members ih =>
      intro done h
      rcases ih _ h with h | h
      · exact (mem_putMember h).elim (fun heq => .inr (heq ▸ List.mem_cons_self)) .inl
      · exact .inr (List.mem_cons_of_mem _ h)
  exact (hfold [] h).resolve_left List.not_mem_nil

-- ---------------------------------------------------------------------------
-- The place of a value
-- ---------------------------------------------------------------------------

/-- The value that names lead to, one object after another. -/
def under? : List String → Json → Option Json
  | [], value => some value
  | name :: names, .object members => (member? members name).bind (under? names)
  | _ :: _, _ => none

theorem under?_nil (value : Json) : under? [] value = some value := by
  cases value <;> rfl

theorem under?_cons (name : String) (names : List String) (members : List (String × Json)) :
    under? (name :: names) (.object members) = (member? members name).bind (under? names) := rfl

/-- The second document has a value under some names, and under any others it has what
the first has: the same value, or nothing. Names that stop on the way lead to an object in
which the value is somewhere, and names that go on lead into the value. -/
structure OnlySet (names : List String) (value old new : Json) : Prop where
  set : new.under? names = some value
  same : ∀ others, ¬ others <+: names → ¬ names <+: others →
    new.under? others = old.under? others

/-- At no names at all there is the whole document. -/
theorem OnlySet.root (old new : Json) : OnlySet [] new old new :=
  ⟨under?_nil new, fun _ _ hbehind => absurd List.nil_prefix hbehind⟩

/-- To change what is under a name in one place is to change the object in one place. Where
there is nothing under the name, the change is one of an empty object. -/
theorem OnlySet.member
    (h : OnlySet names value ((member? members name).getD (.object [])) new) :
    OnlySet (name :: names) value (.object members) (.object (putMember name new members)) where
  set := by rw [under?_cons, member?_putMember_self, Option.bind_some, h.set]
  same others hbefore hbehind := by
    cases others with
    | nil => exact absurd List.nil_prefix hbefore
    | cons other others =>
      rw [under?_cons, under?_cons]
      by_cases heq : other = name
      · -- below the member that was put, the value under it decides
        subst heq
        have hsame := h.same others
          (fun hp => hbefore ((List.prefix_cons_inj _).2 hp))
          (fun hp => hbehind ((List.prefix_cons_inj _).2 hp))
        rw [member?_putMember_self, Option.bind_some, hsame]
        cases member? members other with
        | some was => rfl
        -- where nothing was, the change is one of an empty object
        | none =>
          cases others with
          | nil => exact absurd ((List.prefix_cons_inj _).2 List.nil_prefix) hbefore
          | cons => rfl
      · -- other members stay
        rw [member?_putMember_of_ne heq]

-- ---------------------------------------------------------------------------
-- Leaves
-- ---------------------------------------------------------------------------

mutual

/-- The values without parts in a value, and the names of members as strings. -/
def leaves : Json → List Json
  | .array items => itemLeaves items
  | .object members => memberLeaves members
  | leaf => [leaf]

/-- The leaves of items. -/
def itemLeaves : List Json → List Json
  | [] => []
  | item :: rest => leaves item ++ itemLeaves rest

/-- The leaves of members. -/
def memberLeaves : List (String × Json) → List Json
  | [] => []
  | (name, value) :: rest => .string name :: (leaves value ++ memberLeaves rest)

end

theorem mem_leaves_array {items : List Json} :
    leaf ∈ (Json.array items).leaves ↔ ∃ item ∈ items, leaf ∈ item.leaves := by
  rw [leaves]
  induction items with
  | nil => simp [itemLeaves]
  | cons item items ih => simp only [itemLeaves, List.mem_append, ih, List.mem_cons, exists_eq_or_imp]

theorem mem_leaves_object : leaf ∈ (Json.object members).leaves ↔
    ∃ member ∈ members, leaf = .string member.1 ∨ leaf ∈ member.2.leaves := by
  rw [leaves]
  induction members with
  | nil => simp [memberLeaves]
  | cons member members ih =>
    simp only [memberLeaves, List.mem_cons, List.mem_append, ih, exists_eq_or_imp, or_assoc]

/-- All leaves of a value are so. -/
def All (p : Json → Prop) (value : Json) : Prop := ∀ leaf ∈ value.leaves, p leaf

instance (p : Json → Prop) [DecidablePred p] (value : Json) : Decidable (value.All p) :=
  List.decidableBAll _ value.leaves

variable {p : Json → Prop}

theorem all_array {items : List Json} :
    (Json.array items).All p ↔ ∀ item ∈ items, item.All p := by
  constructor
  · exact fun h item hitem leaf hleaf => h leaf (mem_leaves_array.2 ⟨item, hitem, hleaf⟩)
  · intro h leaf hleaf
    obtain ⟨item, hitem, hleaf⟩ := mem_leaves_array.1 hleaf
    exact h item hitem leaf hleaf

theorem all_object :
    (Json.object members).All p ↔ ∀ m ∈ members, p (.string m.1) ∧ m.2.All p := by
  constructor
  · exact fun h m hm => ⟨h _ (mem_leaves_object.2 ⟨m, hm, .inl rfl⟩),
      fun leaf hleaf => h leaf (mem_leaves_object.2 ⟨m, hm, .inr hleaf⟩)⟩
  · intro h leaf hleaf
    obtain ⟨m, hm, rfl | hleaf⟩ := mem_leaves_object.1 hleaf
    · exact (h m hm).1
    · exact (h m hm).2 leaf hleaf

end Json

end Flagpost
