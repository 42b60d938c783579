import Flagpost.Proofs.Hook.Change
import Flagpost.Proofs.Hook.Store

/-!
# Flagpost — the history of a hook

While a hook is kept, its two times tell its history: the time of its creation
never changes, and the time of its last change only moves forward, by at least a
nanosecond with every change, even if the clock stands still or is set back. The
store keeps both to the nanosecond, so nothing is lost when the registry is
opened again.

A run of a registry begins when it is opened on a file or in memory
(`Registry.Begins`) and goes on with any operations at any moments
(`Registry.Leads`).

* `Registry.run_grown`          — one operation that does not remove the hook.
* `Registry.leads_grown`        — a part of a run in which the hook is not removed.
* `Registry.timestamps_advance` — the whole statement about the two times.
-/

namespace Flagpost

namespace Registry

variable {path id : String} {fs fs' : FileSystem} {r r' : Registry} {hook : Hook} {m : Moment}
  {may : Operation → Change (Option Hook) → Prop}

-- ---------------------------------------------------------------------------
-- Runs
-- ---------------------------------------------------------------------------

/-- A registry as it begins: opened on the file at a path, or kept in no file. -/
inductive Begins (path : String) : FileSystem → Registry → Prop
  | opened {faults : Faults} {fs fs' : FileSystem} {events : List Event} {r : Registry}
      (h : openAt faults fs path = (fs', events, .ok r)) : Begins path fs' r
  | inMemory (fs : FileSystem) : Begins path fs inMemory

/-- Only a registry that is kept in a file can be opened again. -/
def Operation.AppliesTo (r : Registry) (op : Operation) : Prop :=
  op = .reopen → r.storage.isSome = true

/-- The operation has removed the hook with this identifier. -/
def Operation.Removes (op : Operation) (id : String) (c : Change (Option Hook)) : Prop :=
  op = .delete id ∧ ∃ answer, c.result = .ok answer

/-- A run leads from one file system and registry to another, if each of its
operations is one that it `may` have. Between the operations others may do
anything that leaves the store as it reads. -/
inductive Leads (path : String) (may : Operation → Change (Option Hook) → Prop)
    (fs : FileSystem) (r : Registry) : FileSystem → Registry → Prop
  | start : Leads path may fs r fs r
  | operation {fs' : FileSystem} {r' : Registry} (h : Leads path may fs r fs' r')
      (op : Operation) (m : Moment) (happlies : op.AppliesTo r')
      (hmay : may op (op.run m path fs' r')) :
      Leads path may fs r (op.run m path fs' r').files (op.run m path fs' r').registry
  | others {fs' fs'' : FileSystem} {r' : Registry} (h : Leads path may fs r fs' r')
      (hread : fs''.read path = fs'.read path) : Leads path may fs r fs'' r'

-- ---------------------------------------------------------------------------
-- The store
-- ---------------------------------------------------------------------------

/-- The registry is kept in no file, or the file holds it. -/
def Kept (path : String) (fs : FileSystem) (r : Registry) : Prop :=
  r.storage = none ∨ r.Holds path fs

theorem Begins.kept (h : Begins path fs r) : Kept path fs r := by
  cases h with
  | opened h => exact .inr (holds_of_openAt h)
  | inMemory => exact .inl rfl

/-- A registry that is kept in no file stays so. -/
theorem run_inMemory (h : r.storage = none) (op : Operation) (happlies : op.AppliesTo r) :
    (op.run m path fs r).registry.storage = none := by
  cases op with
  | create hook =>
    show (r.create m fs hook).registry.storage = none
    rcases create_cases m fs r hook with ⟨-, -, hr⟩ | ⟨-, hr⟩ <;> rw [hr] <;> exact h
  | update hook =>
    show (r.update m fs hook).registry.storage = none
    rcases update_cases m fs r hook with ⟨_, _, -, -, -, hr⟩ | ⟨-, hr⟩ <;> rw [hr] <;> exact h
  | delete id =>
    show (r.delete m fs id).registry.storage = none
    rcases delete_cases m fs r id with ⟨-, hr⟩ | ⟨-, hr⟩ <;> rw [hr] <;> exact h
  | get id => exact h
  | reopen =>
    -- a registry that is kept in no file is not opened again
    have hsome := happlies rfl
    rw [h] at hsome
    cases hsome

theorem Leads.kept (h : Leads path may fs r fs' r') (hkept : Kept path fs r) :
    Kept path fs' r' := by
  induction h with
  | start => exact hkept
  | operation _ op m happlies _ ih =>
    rcases ih with hnone | hholds
    · exact .inl (run_inMemory hnone op happlies)
    · exact .inr (run_atomic hholds op m).holds
  | others _ hread ih => exact ih.imp_right fun hholds => hholds.congr hread

/-- Opening a registry again from the file that holds it changes nothing in it,
even if it fails. -/
theorem Holds.reopen_registry (h : r.Holds path fs) (m : Moment) :
    (Operation.reopen.run m path fs r).registry = r := (h.reopen_stays m).1

theorem reopen_registry (hkept : Kept path fs r) (happlies : Operation.reopen.AppliesTo r) :
    (Operation.reopen.run m path fs r).registry = r := by
  rcases hkept with hnone | hholds
  · have hsome := happlies rfl
    rw [hnone] at hsome
    cases hsome
  · exact hholds.reopen_registry m

/-- A store that is in order is opened again as it is. -/
theorem reopen_again (h : r.Holds path fs) (hf : m.faults.makeDirectory = none) :
    Operation.reopen.run m path fs r = ⟨fs, r, .ok none⟩ := by
  obtain ⟨events, hopen⟩ := openAt_again h hf
  rw [Operation.run, hopen]

-- ---------------------------------------------------------------------------
-- Growth
-- ---------------------------------------------------------------------------

/-- The later of two records of a hook: created when the other was, and not
changed before it. -/
structure Grown (before after : Hook) : Prop where
  createdAt : after.createdAt = before.createdAt
  updatedAt : before.updatedAt ≤ after.updatedAt

theorem Grown.refl (hook : Hook) : Grown hook hook where
  createdAt := rfl
  updatedAt := le_refl _

theorem Grown.trans {a b c : Hook} (h : Grown a b) (h' : Grown b c) : Grown a c where
  createdAt := h'.createdAt.trans h.createdAt
  updatedAt := le_trans h.updatedAt h'.updatedAt

/-- An update that is answered with a record has stored it: created when the
record before was, and changed later. -/
theorem update_later (hfind : r.hooks.find? id = some hook) {sent changed : Hook}
    (hid : sent.id = id) (h : (r.update m fs sent).result = .ok changed) :
    (r.update m fs sent).registry.hooks.find? id = some changed ∧
      changed.createdAt = hook.createdAt ∧ hook.updatedAt < changed.updatedAt := by
  rcases update_cases m fs r sent with ⟨previous, time, hprevious, hlt, hresult, hr⟩ | ⟨⟨e, he⟩, -⟩
  · rw [hid, hfind] at hprevious
    cases hprevious
    rw [hresult] at h
    cases h
    rw [hr]
    refine ⟨?_, rfl, hlt⟩
    rw [Collection.find?_insert, Hook.stamped_id, if_pos hid]
  · rw [he] at h
    cases h

/-- An operation that does not remove a hook lets its record grow. -/
theorem run_grown (hkept : Kept path fs r) (hfind : r.hooks.find? id = some hook)
    (op : Operation) (happlies : op.AppliesTo r) (hmay : ¬ op.Removes id (op.run m path fs r)) :
    ∃ after, (op.run m path fs r).registry.hooks.find? id = some after ∧ Grown hook after := by
  cases op with
  | create sent =>
    show ∃ after, (r.create m fs sent).registry.hooks.find? id = some after ∧ Grown hook after
    refine ⟨hook, ?_, .refl hook⟩
    rcases create_cases m fs r sent with ⟨hnew, -, hr⟩ | ⟨-, hr⟩
    · -- a hook that is added has an identifier of its own
      have hne : sent.id ≠ id := by
        rintro rfl
        rw [hfind] at hnew
        cases hnew
      rw [hr, Collection.find?_insert, Hook.stamped_id, if_neg hne, hfind]
    · rw [hr, hfind]
  | update sent =>
    show ∃ after, (r.update m fs sent).registry.hooks.find? id = some after ∧ Grown hook after
    rcases update_cases m fs r sent with ⟨previous, time, -, -, hresult, hr⟩ | ⟨-, hr⟩
    · -- the hook itself is changed, and gets a later time
      by_cases hid : sent.id = id
      · obtain ⟨hstored, hcreated, hlt⟩ := update_later hfind hid hresult
        exact ⟨_, hstored, hcreated, le_of_lt hlt⟩
      · -- another one is changed
        refine ⟨hook, ?_, .refl hook⟩
        rw [hr, Collection.find?_insert, Hook.stamped_id, if_neg hid, hfind]
    · exact ⟨hook, by rw [hr, hfind], .refl hook⟩
  | delete gone =>
    show ∃ after, (r.delete m fs gone).registry.hooks.find? id = some after ∧ Grown hook after
    refine ⟨hook, ?_, .refl hook⟩
    rcases delete_cases m fs r gone with ⟨hresult, hr⟩ | ⟨-, hr⟩
    · -- another one was removed, by the hypothesis on the operation
      have hne : id ≠ gone := by
        rintro rfl
        refine hmay ⟨rfl, none, ?_⟩
        show (r.delete m fs id).result.map (fun _ => none) = .ok none
        rw [hresult]
        rfl
      rw [hr, Collection.find?_erase, if_neg hne, hfind]
    · rw [hr, hfind]
  -- nothing changes a record in what is left
  | get _ => exact ⟨hook, hfind, .refl hook⟩
  | reopen => exact ⟨hook, by rw [reopen_registry hkept happlies, hfind], .refl hook⟩

/-- As long as a hook is not removed, its record grows. -/
theorem leads_grown (hkept : Kept path fs r) (hfind : r.hooks.find? id = some hook)
    (h : Leads path (fun op c => ¬ op.Removes id c) fs r fs' r') :
    ∃ after, r'.hooks.find? id = some after ∧ Grown hook after := by
  induction h with
  | start => exact ⟨hook, hfind, .refl hook⟩
  | operation h op m happlies hmay ih =>
    obtain ⟨middle, hmiddle, hgrown⟩ := ih
    obtain ⟨after, hafter, hgrown'⟩ := run_grown (h.kept hkept) hmiddle op happlies hmay
    exact ⟨after, hafter, hgrown.trans hgrown'⟩
  | others _ _ ih => exact ih

/-- **The times of a hook.** Take any run of a registry, kept in a file or in
memory, and any record that a hook has in it. Until the hook is removed, it has
a record, created at the same time and changed no earlier. Then

* an update of the hook that is answered with a record has stored that record,
  created at the same time and changed strictly later than every record before;
* an update that fails leaves the record as it is, and so does the opening of
  the registry from its file, to the nanosecond. -/
theorem timestamps_advance {fs₀ : FileSystem} {r₀ : Registry} (hbegins : Begins path fs₀ r₀)
    (hrun : Leads path (fun _ _ => True) fs₀ r₀ fs r) (hfind : r.hooks.find? id = some hook)
    (hkeeps : Leads path (fun op c => ¬ op.Removes id c) fs r fs' r') :
    ∃ latest, r'.hooks.find? id = some latest ∧ latest.createdAt = hook.createdAt ∧
      hook.updatedAt ≤ latest.updatedAt ∧
      (∀ (m : Moment) (sent changed : Hook), sent.id = id →
        (r'.update m fs' sent).result = .ok changed →
          (r'.update m fs' sent).registry.hooks.find? id = some changed ∧
            changed.createdAt = hook.createdAt ∧ hook.updatedAt < changed.updatedAt) ∧
      (∀ (m : Moment) (sent : Hook) (e : HookError), (r'.update m fs' sent).result = .error e →
        (r'.update m fs' sent).registry.hooks.find? id = some latest) ∧
      ∀ m : Moment, r'.storage.isSome = true →
        (Operation.reopen.run m path fs' r').registry.hooks.find? id = some latest := by
  have hkept := hrun.kept hbegins.kept
  -- the record has only grown, whatever was done to other hooks
  obtain ⟨latest, hlatest, hgrown⟩ := leads_grown hkept hfind hkeeps
  refine ⟨latest, hlatest, hgrown.createdAt, hgrown.updatedAt, ?_, ?_, ?_⟩
  · -- an update that succeeds is later than the latest record
    intro m sent changed hid hresult
    obtain ⟨hstored, hcreated, hlt⟩ := update_later hlatest hid hresult
    exact ⟨hstored, hcreated.trans hgrown.createdAt, lt_of_le_of_lt hgrown.updatedAt hlt⟩
  · -- one that fails leaves it
    intro m sent e he
    rcases update_cases m fs' r' sent with ⟨_, _, -, -, hresult, -⟩ | ⟨-, hr⟩
    · rw [he] at hresult
      cases hresult
    · rw [hr, hlatest]
  · -- and so does opening the store again
    intro m hsome
    rw [reopen_registry (hkeeps.kept hkept) fun _ => hsome, hlatest]

/-- A hook is added late on a day, changed after the clock was set back, read
again from the store, and changed once more while the clock stands still. -/
theorem timestamps_advance_set_back :
    let late : Timestamp := ⟨Date.epoch, 86399, 999999999, by decide, by decide, by decide⟩
    let evening : Moment := ⟨late, 0, none, {}⟩
    let before : Moment := ⟨Timestamp.epoch, 0, none, {}⟩
    let sent : Hook :=
      ⟨"ci", "CI", "", "secret", "ci.flag", true, Timestamp.epoch, Timestamp.epoch⟩
    let fs := (openAt {} FileSystem.empty "hooks.json").1
    let r : Registry := ⟨Collection.empty, some "hooks.json"⟩
    let c := (Operation.create sent).run evening "hooks.json" fs r
    let c' := (Operation.update sent).run before "hooks.json" c.files c.registry
    let c'' := Operation.reopen.run before "hooks.json" c'.files c'.registry
    ∃ changed, c.registry.hooks.find? "ci" = some (sent.stamped late late) ∧
      (c''.registry.update before c''.files sent).result = .ok changed ∧
      (c''.registry.update before c''.files sent).registry.hooks.find? "ci" =
        some changed ∧
      changed.createdAt = late ∧ late < changed.updatedAt := by
  intro late evening before sent fs r c c' c''
  have hbegins : Begins "hooks.json" fs r :=
    .opened (show openAt {} FileSystem.empty "hooks.json" = (fs, [], .ok r) from rfl)
  have hrun : Leads "hooks.json" (fun _ _ => True) fs r c.files c.registry :=
    .operation .start (.create sent) evening (fun h => by cases h) trivial
  have hfind : c.registry.hooks.find? "ci" = some (sent.stamped late late) := by
    decide +kernel
  have hchanged : Leads "hooks.json" (fun op c => ¬ op.Removes "ci" c) c.files c.registry
      c'.files c'.registry :=
    .operation .start (.update sent) before (fun h => by cases h) fun h => by cases h.1
  have hstorage : c'.registry.storage.isSome = true := by decide +kernel
  have hreopened : c'' = Operation.reopen.run before "hooks.json" c'.files c'.registry := rfl
  have hkeeps : Leads "hooks.json" (fun op c => ¬ op.Removes "ci" c) c.files c.registry
      c''.files c''.registry := by
    rw [hreopened]
    exact .operation hchanged .reopen before (fun _ => hstorage) fun h => by cases h.1
  -- the store is read back as what is kept in memory, so the last update starts from there
  have hagain : c'' = ⟨c'.files, c'.registry, .ok none⟩ := by
    rcases hchanged.kept (hrun.kept hbegins.kept) with hnone | hholds
    · rw [hnone] at hstorage
      cases hstorage
    · exact hreopened.trans (reopen_again hholds rfl)
  have hanswer : (c'.registry.update before c'.files sent).result.toOption =
      some (sent.stamped late
        ⟨⟨1970, 1, 2, by decide⟩, 0, 1, by decide, by decide, by decide⟩) := by
    decide +kernel
  obtain ⟨changed, hresult⟩ : ∃ changed,
      (c''.registry.update before c''.files sent).result = .ok changed := by
    rw [hagain]
    cases hupdate : (c'.registry.update before c'.files sent).result with
    | error e =>
      rw [hupdate] at hanswer
      cases hanswer
    | ok changed => exact ⟨changed, rfl⟩
  obtain ⟨latest, -, -, -, hupdates, -⟩ := timestamps_advance hbegins hrun hfind hkeeps
  obtain ⟨hstored, hcreated, hlater⟩ := hupdates before sent changed rfl hresult
  exact ⟨changed, hfind, hresult, hstored, hcreated, hlater⟩

end Registry

end Flagpost
