import Mathlib.Data.List.Nodup
import Flagpost.Proofs.Except
import Flagpost.Proofs.Hook.Change
import Flagpost.Proofs.Hook.Store
import Flagpost.Proofs.Text.Order

/-!
# Flagpost — the text of the store

What a change writes says nothing about how the registry came to it: neither
the order in which the hooks were added, nor the hooks that were there in
between, nor the order in which a map would hand them out. The store has each
record once, in the order of the bytes of the identifiers, and two registries
with the same records have the same bytes.

A store that was only opened may still be laid out as somebody else wrote it,
with hooks out of order or given twice. The first change that succeeds writes it
anew (`Registry.run_writes`), and every operation after it leaves it so
(`Registry.spelled_of_rewritten`).
-/

namespace Flagpost

-- ---------------------------------------------------------------------------
-- The order of the records
-- ---------------------------------------------------------------------------

namespace Collection

/-- The hooks in the order of the bytes of their identifiers. -/
def inByteOrder (values : List Hook) : List Hook :=
  values.mergeSort fun a b => decide (Utf8.encode a.id ≤ Utf8.encode b.id)

theorem ascending_bytes (c : Collection) :
    c.hooks.Pairwise fun a b => Utf8.encode a.id < Utf8.encode b.id :=
  c.ascending.imp fun hlt => Utf8.encode_lt_encode.2 hlt

/-- In whatever order the hooks are handed out, putting them in order gives the
hooks of the collection. -/
theorem inByteOrder_of_perm {c : Collection} {values : List Hook} (h : values.Perm c.hooks) :
    inByteOrder values = c.hooks := by
  have hperm : (inByteOrder values).Perm c.hooks := (values.mergeSort_perm _).trans h
  have hsorted : (inByteOrder values).Pairwise fun a b => Utf8.encode a.id ≤ Utf8.encode b.id := by
    have hpairs : (inByteOrder values).Pairwise fun a b =>
        decide (Utf8.encode a.id ≤ Utf8.encode b.id) = true :=
      List.pairwise_mergeSort
        (fun a b d hab hbd => by
          rw [decide_eq_true_eq] at hab hbd ⊢
          exact List.le_trans hab hbd)
        (fun a b => by
          rw [Bool.or_eq_true, decide_eq_true_eq, decide_eq_true_eq]
          exact List.le_total _ _)
        values
    exact hpairs.imp fun h => of_decide_eq_true h
  have hascending : c.hooks.Pairwise fun a b => Utf8.encode a.id ≤ Utf8.encode b.id :=
    c.ascending_bytes.imp fun hlt => List.le_of_lt hlt
  refine hperm.eq_of_pairwise (fun a b ha hb hab hba => ?_) hsorted hascending
  -- two hooks of a collection with one identifier are one hook
  have hid : a.id = b.id := by
    have hbytes := List.le_antisymm hab hba
    have hread := congrArg Utf8.decode? hbytes
    rw [Utf8.decode?_encode, Utf8.decode?_encode] at hread
    exact Option.some.inj hread
  have hfound := find?_of_mem (hperm.mem_iff.1 ha)
  rw [hid, find?_of_mem hb] at hfound
  exact (Option.some.inj hfound).symm

end Collection

namespace Registry

variable {α : Type} {faults : Faults} {m : Moment} {fs fs' : FileSystem} {r r' : Registry}
  {path path' : String}

-- ---------------------------------------------------------------------------
-- What a change writes
-- ---------------------------------------------------------------------------

/-- The store at the path has the text of the registry's hooks. -/
def Spelled (r : Registry) (path : String) (fs : FileSystem) : Prop :=
  fs.read path = .ok (Utf8.encode (Hook.listText r.hooks.hooks))

/-- The operation is one that changes the hooks. -/
def Operation.Changes : Operation → Prop
  | .create _ | .update _ | .delete _ => True
  | .get _ | .reopen => False

theorem commit_spelled {c : Collection} {undo : Collection → Collection} {answer a : α}
    (hstorage : r.storage = some path)
    (h : (r.commit faults fs c undo answer).result = .ok a) :
    (r.commit faults fs c undo answer).registry.Spelled path
      (r.commit faults fs c undo answer).files := by
  rw [commit] at h ⊢
  split at h
  · rename_i hpersist
    exact read_of_persist (r := { r with hooks := c }) hstorage hpersist
  · cases h

theorem create_spelled {hook answer : Hook} (hstorage : r.storage = some path)
    (h : (r.create m fs hook).result = .ok answer) :
    (r.create m fs hook).registry.Spelled path (r.create m fs hook).files := by
  cases hfind : r.hooks.find? hook.id with
  | some previous =>
    rw [create_of_some hfind] at h
    cases h
  | none =>
    rw [create_of_none hfind] at h ⊢
    exact commit_spelled hstorage h

theorem update_spelled {hook answer : Hook} (hstorage : r.storage = some path)
    (h : (r.update m fs hook).result = .ok answer) :
    (r.update m fs hook).registry.Spelled path (r.update m fs hook).files := by
  cases hfind : r.hooks.find? hook.id with
  | none =>
    rw [update_of_none hfind] at h
    cases h
  | some previous =>
    cases htime : nextChange? m.now previous.updatedAt with
    | none =>
      rw [update_of_endOfTime hfind htime] at h
      cases h
    | some time =>
      rw [update_of_some hfind htime] at h ⊢
      exact commit_spelled hstorage h

theorem delete_spelled {id : String} (hstorage : r.storage = some path)
    (h : (r.delete m fs id).result = .ok ()) :
    (r.delete m fs id).registry.Spelled path (r.delete m fs id).files := by
  cases hfind : r.hooks.find? id with
  | none =>
    rw [delete_of_none hfind] at h
    cases h
  | some previous =>
    rw [delete_of_some hfind] at h ⊢
    exact commit_spelled hstorage h

/-- A change that succeeds writes the store. -/
theorem run_writes {op : Operation} {answer : Option Hook} (hstorage : r.storage = some path)
    (hchanges : op.Changes) (h : (op.run m path fs r).result = .ok answer) :
    (op.run m path fs r).registry.Spelled path (op.run m path fs r).files := by
  cases op with
  | create hook =>
    obtain ⟨created, hcreate, -⟩ := ok_of_map h
    exact create_spelled hstorage hcreate
  | update hook =>
    obtain ⟨changed, hupdate, -⟩ := ok_of_map h
    exact update_spelled hstorage hupdate
  | delete id =>
    obtain ⟨_, hdelete, -⟩ := ok_of_map h
    exact delete_spelled hstorage hdelete
  | get id => exact hchanges.elim
  | reopen => exact hchanges.elim

/-- Every operation leaves the store written as it was, or writes it. -/
theorem run_spelled (hholds : r.Holds path fs) (h : r.Spelled path fs) (op : Operation)
    (m : Moment) : (op.run m path fs r).registry.Spelled path (op.run m path fs r).files := by
  -- what changes neither the registry nor the store leaves it written
  have hstays : (op.run m path fs r).registry = r →
      (op.run m path fs r).files.read path = fs.read path →
      (op.run m path fs r).registry.Spelled path (op.run m path fs r).files := by
    intro hr hread
    rw [Spelled, hr, hread]
    exact h
  by_cases hchanges : op.Changes
  · -- a change that succeeds writes the store, and one that fails leaves it
    cases hresult : (op.run m path fs r).result with
    | ok answer => exact run_writes hholds.storage hchanges hresult
    | error e =>
      obtain ⟨hr, hread⟩ := (run_atomic hholds op m).refused e hresult
      exact hstays hr hread
  · cases op with
    | create _ => exact absurd trivial hchanges
    | update _ => exact absurd trivial hchanges
    | delete _ => exact absurd trivial hchanges
    | get _ => exact hstays rfl rfl
    | reopen => exact hstays (hholds.reopen_stays m).1 (hholds.reopen_stays m).2

-- ---------------------------------------------------------------------------
-- Histories
-- ---------------------------------------------------------------------------

/-- The file systems and registries that a history can lead to in which a change
has succeeded, whatever has come before or after it. -/
inductive Rewritten (path : String) : FileSystem → Registry → Prop
  | changed {fs : FileSystem} {r : Registry} (h : Reachable path fs r) {op : Operation}
      {m : Moment} {answer : Option Hook} (hchanges : op.Changes)
      (hresult : (op.run m path fs r).result = .ok answer) :
      Rewritten path (op.run m path fs r).files (op.run m path fs r).registry
  | operation {fs : FileSystem} {r : Registry} (h : Rewritten path fs r) (op : Operation)
      (m : Moment) : Rewritten path (op.run m path fs r).files (op.run m path fs r).registry
  | others {fs fs' : FileSystem} {r : Registry} (h : Rewritten path fs r)
      (hread : fs'.read path = fs.read path) : Rewritten path fs' r

theorem Rewritten.reachable (h : Rewritten path fs r) : Reachable path fs r := by
  induction h with
  | changed h _ _ => exact .operation h _ _
  | operation _ op m ih => exact .operation ih op m
  | others _ hread ih => exact .others ih hread

/-- Once a change has succeeded, the store has the text of the registry's hooks. -/
theorem spelled_of_rewritten (h : Rewritten path fs r) : r.Spelled path fs := by
  induction h with
  | changed h hchanges hresult =>
    exact run_writes (holds_of_reachable h).storage hchanges hresult
  | operation h op m ih => exact run_spelled (holds_of_reachable h.reachable) ih op m
  | others _ hread ih => exact hread.trans ih

/-- **The store is a function of the records.** Take two histories in each of
which a change has succeeded, of one registry or of two, at one path or at two,
that have led to the same records. Their stores have the same bytes; these are
read as a list that has every record exactly once, in strictly ascending order
of the bytes of the identifiers; and they are what is written when the records
are handed out in any order at all and put in order. -/
theorem store_text_canonical (h : Rewritten path fs r) (h' : Rewritten path' fs' r')
    (hsame : ∀ hook, hook ∈ r.hooks.hooks ↔ hook ∈ r'.hooks.hooks) :
    ∃ bytes records, fs.read path = .ok bytes ∧ fs'.read path' = .ok bytes ∧
      Hook.listOfDocument bytes = .ok records ∧
      (∀ hook, records.count hook = if hook ∈ r.hooks.hooks then 1 else 0) ∧
      records.Pairwise (fun a b => Utf8.encode a.id < Utf8.encode b.id) ∧
      ∀ values : List Hook, values.Nodup → (∀ hook, hook ∈ values ↔ hook ∈ r.hooks.hooks) →
        bytes = Utf8.encode (Hook.listText (Collection.inByteOrder values)) := by
  have hread := spelled_of_rewritten h
  have hread' := spelled_of_rewritten h'
  rw [Spelled, ← Collection.ext_mem hsame] at hread'
  refine ⟨_, r.hooks.hooks, hread, hread', Hook.listOfDocument_listText _, fun hook => ?_,
    r.hooks.ascending_bytes, fun values hnodup hmem => ?_⟩
  · split
    · rename_i hmem
      exact List.count_eq_one_of_mem r.hooks.nodup hmem
    · rename_i hmem
      exact List.count_eq_zero_of_not_mem hmem
  · rw [Collection.inByteOrder_of_perm ((List.perm_ext_iff_of_nodup hnodup r.hooks.nodup).2 hmem)]

/-- Two hooks are added in one order and in the other. -/
theorem store_text_canonical_two_orders :
    let m : Moment := ⟨Timestamp.epoch, 0, none, {}⟩
    let hook (id : String) : Hook :=
      ⟨id, "CI", "", "secret", "ci.flag", true, Timestamp.epoch, Timestamp.epoch⟩
    let first := (openAt {} FileSystem.empty "hooks.json").1
    let second := (openAt {} FileSystem.empty "other.json").1
    let a := (Operation.create (hook "b")).run m "hooks.json" first
      ⟨Collection.empty, some "hooks.json"⟩
    let b := (Operation.create (hook "a")).run m "hooks.json" a.files a.registry
    let c := (Operation.create (hook "a")).run m "other.json" second
      ⟨Collection.empty, some "other.json"⟩
    let d := (Operation.create (hook "b")).run m "other.json" c.files c.registry
    b.registry.hooks.size = 2 ∧
      ∃ bytes, b.files.read "hooks.json" = .ok bytes ∧ d.files.read "other.json" = .ok bytes := by
  intro m hook first second a b c d
  have hfirst : Reachable "hooks.json" first ⟨Collection.empty, some "hooks.json"⟩ :=
    .opened (show openAt {} FileSystem.empty "hooks.json" = (first, [], .ok _) from rfl)
  have hsecond : Reachable "other.json" second ⟨Collection.empty, some "other.json"⟩ :=
    .opened (show openAt {} FileSystem.empty "other.json" = (second, [], .ok _) from rfl)
  have hanswered : ∀ result : Except HookError (Option Hook),
      result.toOption.isSome = true → ∃ answer, result = .ok answer := by
    rintro (e | answer) h
    · cases h
    · exact ⟨answer, rfl⟩
  have hchanges : ∀ hook, (Operation.create hook).Changes := fun _ => trivial
  obtain ⟨_, hcreated⟩ := hanswered b.result (by decide +kernel)
  have hadded : Rewritten "hooks.json" b.files b.registry :=
    .changed (.operation hfirst (.create (hook "b")) m) (hchanges (hook "a")) hcreated
  obtain ⟨_, hcreated'⟩ := hanswered d.result (by decide +kernel)
  have hadded' : Rewritten "other.json" d.files d.registry :=
    .changed (.operation hsecond (.create (hook "a")) m) (hchanges (hook "b")) hcreated'
  have hsame : b.registry.hooks.hooks = d.registry.hooks.hooks := by decide +kernel
  obtain ⟨bytes, -, hread, hread', -⟩ :=
    store_text_canonical hadded hadded' fun hook => by rw [hsame]
  exact ⟨by decide +kernel, bytes, hread, hread'⟩

end Registry

end Flagpost
