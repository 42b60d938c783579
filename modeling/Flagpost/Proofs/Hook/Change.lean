import Flagpost.Proofs.Hook.Collection
import Flagpost.Proofs.Time.Order
import Flagpost.Hook.Registry
import Flagpost.Hook.Validation

/-!
# Flagpost — what a change does to the registry

A change of the registry either is carried out or leaves the registry as it was.
Whether it is carried out is for the store to say once nothing else stands in
the way, and `Registry.commit_cases` is the one place where the two ways part;
the three changes are cases of it (`Registry.create_cases`,
`Registry.update_cases`, `Registry.delete_cases`).

When the store can be written, nothing but the registry decides
(`Registry.commit_of_canStore`).

The opening of a store has five ways to end (`Registry.Opening`); what holds of an
opening is shown of each of them, and `Registry.openAt` is looked into nowhere else.
-/

namespace Flagpost

/-- The hook with the times of its creation and of its last change. -/
def Hook.stamped (hook : Hook) (created changed : Timestamp) : Hook :=
  { hook with createdAt := created, updatedAt := changed }

@[simp] theorem Hook.stamped_id (hook : Hook) (created changed : Timestamp) :
    (hook.stamped created changed).id = hook.id := rfl

@[simp] theorem Hook.stamped_token (hook : Hook) (created changed : Timestamp) :
    (hook.stamped created changed).token = hook.token := rfl

@[simp] theorem Hook.stamped_flagFile (hook : Hook) (created changed : Timestamp) :
    (hook.stamped created changed).flagFile = hook.flagFile := rfl

@[simp] theorem Hook.stamped_fault? (hook : Hook) (created changed : Timestamp) :
    (hook.stamped created changed).fault? = hook.fault? := rfl

namespace Registry

variable {α : Type} {faults : Faults} {m : Moment} {fs : FileSystem} {r : Registry}
  {hook previous : Hook} {id path : String}

-- ---------------------------------------------------------------------------
-- Times
-- ---------------------------------------------------------------------------

/-- The time of a change is later than the time of the change before, whatever
the clock shows. -/
theorem lt_of_nextChange? {now previous time : Timestamp}
    (h : nextChange? now previous = some time) : previous < time := by
  rw [nextChange?] at h
  split at h
  · rename_i hlt
    cases h
    exact hlt
  · exact Timestamp.lt_of_next? h

-- ---------------------------------------------------------------------------
-- Opening
-- ---------------------------------------------------------------------------

/-- The ways in which the opening of a store ends, with what they leave, report and
answer: there is no directory for it, it is there and can be read or not, or it is not
there and an empty one can be written or not. -/
inductive Opening (faults : Faults) (fs : FileSystem) (path : String) :
    FileSystem → List Event → Except HookError Registry → Prop
  | stuck {made : FileSystem} {e : ReplacementError}
      (hparent : fs.makeParent faults path = (made, .error e)) :
      Opening faults fs path made [] (.error (storeError path e))
  | unreadable {made : FileSystem} {e : HookError}
      (hparent : fs.makeParent faults path = (made, .ok ())) (hthere : made.hasPath path = true)
      (hload : load made path = .error e) : Opening faults fs path made [] (.error e)
  | loaded {made : FileSystem} {hooks : List Hook}
      (hparent : fs.makeParent faults path = (made, .ok ())) (hthere : made.hasPath path = true)
      (hload : load made path = .ok hooks) :
      Opening faults fs path made (loadEvents path hooks)
        (.ok ⟨Collection.ofList hooks, some path⟩)
  | unwritten {made written : FileSystem} {e : HookError}
      (hparent : fs.makeParent faults path = (made, .ok ())) (hnew : made.hasPath path = false)
      (hpersist : persist faults made ⟨Collection.empty, some path⟩ = (written, .error e)) :
      Opening faults fs path written [] (.error e)
  | founded {made written : FileSystem}
      (hparent : fs.makeParent faults path = (made, .ok ())) (hnew : made.hasPath path = false)
      (hpersist : persist faults made ⟨Collection.empty, some path⟩ = (written, .ok ())) :
      Opening faults fs path written [] (.ok ⟨Collection.empty, some path⟩)

theorem openAt_eq_iff {fs' : FileSystem} {events : List Event}
    {result : Except HookError Registry} :
    openAt faults fs path = (fs', events, result) ↔ Opening faults fs path fs' events result := by
  constructor
  · -- one way for each place where the opening can stop
    intro h
    rw [openAt] at h
    split at h
    · rename_i hparent
      cases h
      exact .stuck hparent
    · rename_i made hparent
      split at h
      · rename_i hthere
        split at h
        · rename_i hload
          cases h
          exact .unreadable hparent hthere hload
        · rename_i hload
          cases h
          exact .loaded hparent hthere hload
      · rename_i hnew
        dsimp only at h
        split at h
        · rename_i hpersist
          cases h
          exact .founded hparent (Bool.eq_false_iff.2 hnew) hpersist
        · rename_i hpersist
          cases h
          exact .unwritten hparent (Bool.eq_false_iff.2 hnew) hpersist
  · intro h
    cases h with
    | stuck hparent => rw [openAt, hparent]
    | unreadable hparent hthere hload =>
      rw [openAt, hparent]
      simp only [hthere, hload, if_true]
    | loaded hparent hthere hload =>
      rw [openAt, hparent]
      simp only [hthere, hload, if_true]
    | unwritten hparent hnew hpersist =>
      rw [openAt, hparent]
      simp only [hnew, hpersist, Bool.false_eq_true, if_false]
    | founded hparent hnew hpersist =>
      rw [openAt, hparent]
      simp only [hnew, hpersist, Bool.false_eq_true, if_false]

-- ---------------------------------------------------------------------------
-- Writing
-- ---------------------------------------------------------------------------

/-- Any collection at all can be written to the store. -/
def CanStore (faults : Faults) (fs : FileSystem) (r : Registry) : Prop :=
  ∀ hooks : Collection, ∃ files, { r with hooks := hooks }.persist faults fs = (files, .ok ())

theorem canStore_of_inMemory (h : r.storage = none) : CanStore faults fs r := by
  intro hooks
  refine ⟨fs, ?_⟩
  rw [persist]
  simp only [h]

/-- The writing of a changed collection carries the change out, or it fails and
the change has been taken back. -/
theorem commit_cases {c : Collection} {undo : Collection → Collection} {answer : α}
    (hundo : undo c = r.hooks) :
    (r.commit faults fs c undo answer).result = .ok answer ∧
        (r.commit faults fs c undo answer).registry = { r with hooks := c } ∨
      (∃ e, (r.commit faults fs c undo answer).result = .error e) ∧
        (r.commit faults fs c undo answer).registry = r := by
  rw [commit]
  split
  · exact .inl ⟨rfl, rfl⟩
  · refine .inr ⟨⟨_, rfl⟩, ?_⟩
    show { r with hooks := undo c } = r
    rw [hundo]

theorem commit_of_canStore (h : CanStore faults fs r) (c : Collection)
    (undo : Collection → Collection) (answer : α) :
    (r.commit faults fs c undo answer).result = .ok answer ∧
      (r.commit faults fs c undo answer).registry = { r with hooks := c } := by
  obtain ⟨files, hpersist⟩ := h c
  rw [commit, hpersist]
  exact ⟨rfl, rfl⟩

-- ---------------------------------------------------------------------------
-- The three changes
-- ---------------------------------------------------------------------------

theorem create_of_some (h : r.hooks.find? hook.id = some previous) :
    r.create m fs hook = refuse fs r (.alreadyExists hook.id) := by
  rw [create, Collection.contains, h]
  rfl

theorem create_of_none (h : r.hooks.find? hook.id = none) :
    r.create m fs hook =
      r.commit m.faults fs (r.hooks.insert (hook.stamped m.now m.now)) (·.erase hook.id)
        (hook.stamped m.now m.now) := by
  rw [create, Collection.contains, h]
  rfl

theorem update_of_none (h : r.hooks.find? hook.id = none) :
    r.update m fs hook = refuse fs r (.notFound hook.id) := by
  rw [update, h]

theorem update_of_endOfTime (h : r.hooks.find? hook.id = some previous)
    (ht : nextChange? m.now previous.updatedAt = none) :
    r.update m fs hook = refuse fs r (.endOfTime hook.id) := by
  rw [update, h]
  simp only [ht]

theorem update_of_some {time : Timestamp} (h : r.hooks.find? hook.id = some previous)
    (ht : nextChange? m.now previous.updatedAt = some time) :
    r.update m fs hook =
      r.commit m.faults fs (r.hooks.insert (hook.stamped previous.createdAt time))
        (·.insert previous) (hook.stamped previous.createdAt time) := by
  rw [update, h]
  simp only [ht]
  rfl

theorem delete_of_none (h : r.hooks.find? id = none) :
    r.delete m fs id = refuse fs r (.notFound id) := by
  rw [delete, h]

theorem delete_of_some (h : r.hooks.find? id = some previous) :
    r.delete m fs id = r.commit m.faults fs (r.hooks.erase id) (·.insert previous) () := by
  rw [delete, h]

theorem create_of_canStore (hstore : CanStore m.faults fs r) (h : r.hooks.find? hook.id = none) :
    (r.create m fs hook).result = .ok (hook.stamped m.now m.now) ∧
      (r.create m fs hook).registry =
        { r with hooks := r.hooks.insert (hook.stamped m.now m.now) } := by
  rw [create_of_none h]
  exact commit_of_canStore hstore _ _ _

theorem update_of_canStore {time : Timestamp} (hstore : CanStore m.faults fs r)
    (h : r.hooks.find? hook.id = some previous)
    (ht : nextChange? m.now previous.updatedAt = some time) :
    (r.update m fs hook).result = .ok (hook.stamped previous.createdAt time) ∧
      (r.update m fs hook).registry =
        { r with hooks := r.hooks.insert (hook.stamped previous.createdAt time) } := by
  rw [update_of_some h ht]
  exact commit_of_canStore hstore _ _ _

theorem delete_of_canStore (hstore : CanStore m.faults fs r)
    (h : r.hooks.find? id = some previous) : (r.delete m fs id).result = .ok () ∧
      (r.delete m fs id).registry = { r with hooks := r.hooks.erase id } := by
  rw [delete_of_some h]
  exact commit_of_canStore hstore _ _ _

/-- A new hook is kept with the time it was added, or nothing has changed. -/
theorem create_cases (m : Moment) (fs : FileSystem) (r : Registry) (hook : Hook) :
    (r.hooks.find? hook.id = none ∧
        (r.create m fs hook).result = .ok (hook.stamped m.now m.now) ∧
        (r.create m fs hook).registry =
          { r with hooks := r.hooks.insert (hook.stamped m.now m.now) }) ∨
      (∃ e, (r.create m fs hook).result = .error e) ∧ (r.create m fs hook).registry = r := by
  cases hfind : r.hooks.find? hook.id with
  | some previous =>
    rw [create_of_some hfind]
    exact .inr ⟨⟨_, rfl⟩, rfl⟩
  | none =>
    rw [create_of_none hfind]
    have hundo : (r.hooks.insert (hook.stamped m.now m.now)).erase hook.id = r.hooks :=
      Collection.erase_insert hfind
    exact (commit_cases hundo).imp_left fun h => ⟨rfl, h⟩

/-- A hook that was there is replaced, created when it was and changed at a
later time than before, or nothing has changed. -/
theorem update_cases (m : Moment) (fs : FileSystem) (r : Registry) (hook : Hook) :
    (∃ previous time, r.hooks.find? hook.id = some previous ∧ previous.updatedAt < time ∧
        (r.update m fs hook).result = .ok (hook.stamped previous.createdAt time) ∧
        (r.update m fs hook).registry =
          { r with hooks := r.hooks.insert (hook.stamped previous.createdAt time) }) ∨
      (∃ e, (r.update m fs hook).result = .error e) ∧ (r.update m fs hook).registry = r := by
  cases hfind : r.hooks.find? hook.id with
  | none =>
    rw [update_of_none hfind]
    exact .inr ⟨⟨_, rfl⟩, rfl⟩
  | some previous =>
    cases htime : nextChange? m.now previous.updatedAt with
    | none =>
      rw [update_of_endOfTime hfind htime]
      exact .inr ⟨⟨_, rfl⟩, rfl⟩
    | some time =>
      rw [update_of_some hfind htime]
      -- what is put back after a failure is what was there
      have hundo : (r.hooks.insert (hook.stamped previous.createdAt time)).insert previous =
          r.hooks := Collection.insert_insert hfind
      refine (commit_cases hundo).imp_left fun h => ?_
      exact ⟨previous, time, rfl, lt_of_nextChange? htime, h⟩

/-- A hook that was there is gone, or nothing has changed. -/
theorem delete_cases (m : Moment) (fs : FileSystem) (r : Registry) (id : String) :
    ((r.delete m fs id).result = .ok () ∧
        (r.delete m fs id).registry = { r with hooks := r.hooks.erase id }) ∨
      (∃ e, (r.delete m fs id).result = .error e) ∧ (r.delete m fs id).registry = r := by
  cases hfind : r.hooks.find? id with
  | none =>
    rw [delete_of_none hfind]
    exact .inr ⟨⟨_, rfl⟩, rfl⟩
  | some previous =>
    rw [delete_of_some hfind]
    exact commit_cases (Collection.insert_erase hfind)

end Registry

end Flagpost
