import Flagpost.Proofs.File.Replacement
import Flagpost.Proofs.Hook.Change
import Flagpost.Proofs.Hook.Documents

/-!
# Flagpost — the store holds what the registry holds

A registry that was opened on a file and the file belong together: whatever is
asked of the registry, and whichever steps on the file system fail, loading
the file gives the hooks of the registry. And an operation that fails changes
neither of them.

`Registry.Reachable` are the file systems and registries a history can lead
to: an opening that succeeded, then operations at any moments, and between
them anything at all that others do, as long as the store reads the same.

* `Registry.holds_of_reachable` — the store always holds what the registry holds.
* `Registry.store_consistent`   — the whole statement: consistency, atomicity of
  failures, and that a reopening goes unnoticed.
-/

namespace Flagpost

namespace Registry

variable {α : Type} {faults : Faults} {m : Moment} {fs fs' : FileSystem} {r : Registry}
  {path : String} {hook : Hook} {hooks : List Hook}

-- ---------------------------------------------------------------------------
-- Loading
-- ---------------------------------------------------------------------------

theorem load_congr (h : fs'.read path = fs.read path) : load fs' path = load fs path := by
  rw [load, load, FileSystem.readText, FileSystem.readText, h]

theorem read_of_load (h : load fs path = .ok hooks) : ∃ bytes, fs.read path = .ok bytes := by
  rw [load, FileSystem.readText] at h
  cases hread : fs.read path with
  | ok bytes => exact ⟨bytes, rfl⟩
  | error e =>
    rw [hread] at h
    cases h

/-- A store that was written is loaded as the hooks that were written. -/
theorem load_of_read (h : fs.read path = .ok (Utf8.encode (Hook.listText hooks))) :
    load fs path = .ok hooks := by
  rw [load, FileSystem.readText, h]
  simp only [Utf8.decode?_encode]
  exact hooksOfText_listText hooks

/-- A registry that has been written is what its store has the text of. -/
theorem read_of_persist (hstorage : r.storage = some path)
    (h : r.persist faults fs = (fs', .ok ())) :
    fs'.read path = .ok (Utf8.encode (Hook.listText r.hooks.hooks)) := by
  simp only [persist, hstorage] at h
  split at h
  · rename_i hreplace
    cases h
    exact FileSystem.read_of_replace_ok hreplace
  · cases h

-- ---------------------------------------------------------------------------
-- Consistency and atomicity of one change
-- ---------------------------------------------------------------------------

/-- The registry is kept at the path, and loading the path gives its hooks. -/
structure Holds (r : Registry) (path : String) (fs : FileSystem) : Prop where
  storage : r.storage = some path
  loads : ∃ hooks, load fs path = .ok hooks ∧ Collection.ofList hooks = r.hooks

/-- After the change the store holds what the registry holds; and if the
change failed, both are what they were. -/
structure Change.Atomic (path : String) (fs : FileSystem) (r : Registry) (c : Change α) :
    Prop where
  holds : c.registry.Holds path c.files
  refused : ∀ e, c.result = .error e → c.registry = r ∧ c.files.read path = fs.read path

theorem Holds.congr (h : r.Holds path fs) (hread : fs'.read path = fs.read path) :
    r.Holds path fs' where
  storage := h.storage
  loads := load_congr hread ▸ h.loads

/-- Nothing that leaves the registry and the store alone breaks anything. -/
theorem Holds.atomic {c : Change α} (h : r.Holds path fs) (hr : c.registry = r)
    (hread : c.files.read path = fs.read path) : Change.Atomic path fs r c where
  holds := hr ▸ h.congr hread
  refused _ _ := ⟨hr, hread⟩

/-- Writing a changed collection is atomic if `undo` takes the change back. -/
theorem commit_atomic {c : Collection} {undo : Collection → Collection} {answer : α}
    (h : r.Holds path fs) (hundo : undo c = r.hooks) :
    Change.Atomic path fs r (r.commit faults fs c undo answer) := by
  obtain ⟨old, hload, hhooks⟩ := h.loads
  obtain ⟨bytes, hbytes⟩ := read_of_load hload
  have hback : (⟨undo c, some path⟩ : Registry) = r := by rw [hundo, ← h.storage]
  simp only [commit, persist, h.storage]
  cases hreplace : fs.replace faults path (Utf8.encode (Hook.listText c.hooks)) with
  | mk files result =>
    cases result with
    | ok _ =>
      refine ⟨⟨rfl, c.hooks, ?_, Collection.ofList_hooks c⟩, fun e he => ?_⟩
      · exact load_of_read (FileSystem.read_of_replace_ok hreplace)
      · cases he
    | error e =>
      -- the registry has been put back, and the store was never touched
      refine h.atomic hback ?_
      show files.read path = fs.read path
      rw [FileSystem.read_of_replace_error hreplace hbytes, hbytes]

theorem create_atomic (h : r.Holds path fs) (hook : Hook) :
    Change.Atomic path fs r (r.create m fs hook) := by
  rw [create]
  split
  · exact h.atomic rfl rfl
  · rename_i hnew
    refine commit_atomic h (Collection.erase_insert ?_)
    simpa [Collection.contains] using hnew

theorem update_atomic (h : r.Holds path fs) (hook : Hook) :
    Change.Atomic path fs r (r.update m fs hook) := by
  rw [update]
  split
  · exact h.atomic rfl rfl
  · rename_i previous hfind
    split
    · exact h.atomic rfl rfl
    · exact commit_atomic h (Collection.insert_insert hfind)

theorem delete_atomic (h : r.Holds path fs) (id : String) :
    Change.Atomic path fs r (r.delete m fs id) := by
  rw [delete]
  split
  · exact h.atomic rfl rfl
  · rename_i removed hfind
    exact commit_atomic h (Collection.insert_erase hfind)

-- ---------------------------------------------------------------------------
-- Opening
-- ---------------------------------------------------------------------------

/-- A registry that has been opened holds what is in its store. -/
theorem holds_of_openAt {events : List Event} (h : openAt faults fs path = (fs', events, .ok r)) :
    r.Holds path fs' := by
  cases openAt_eq_iff.1 h with
  | loaded hparent hthere hload => exact ⟨rfl, _, hload, rfl⟩
  | founded hparent hnew hpersist =>
    -- what was written is the text of no hooks
    exact ⟨rfl, [], load_of_read (read_of_persist rfl hpersist), rfl⟩

/-- Opening a store again that holds what a registry holds gives the registry,
if it gives one, and leaves the store. -/
theorem openAt_of_holds {events : List Event} {result : Except HookError Registry}
    (h : r.Holds path fs) (ho : openAt faults fs path = (fs', events, result)) :
    fs'.read path = fs.read path ∧ ∀ r', result = .ok r' → r' = r := by
  obtain ⟨hooks, hload, hhooks⟩ := h.loads
  obtain ⟨bytes, hbytes⟩ := read_of_load hload
  have hbuilds := FileSystem.makeParent_builds faults fs path
  -- directories that are made leave the store, so that it is found and loaded as before
  have hstays : ∀ {made : FileSystem} {done : Except ReplacementError Unit},
      fs.makeParent faults path = (made, done) →
        made.read path = fs.read path ∧ made.hasPath path = true ∧ load made path = .ok hooks := by
    intro made done hparent
    rw [hparent] at hbuilds
    have hread : made.read path = fs.read path := (hbuilds.read hbytes).trans hbytes.symm
    exact ⟨hread, FileSystem.hasPath_of_read (hbuilds.read hbytes), (load_congr hread).trans hload⟩
  cases openAt_eq_iff.1 ho with
  | stuck hparent => exact ⟨(hstays hparent).1, nofun⟩
  | unreadable hparent hthere hfails => exact absurd ((hstays hparent).2.2.symm.trans hfails) nofun
  | loaded hparent hthere hloaded =>
    refine ⟨(hstays hparent).1, fun r' hr' => ?_⟩
    cases (hstays hparent).2.2.symm.trans hloaded
    cases hr'
    rw [hhooks, ← h.storage]
  | unwritten hparent hnew hpersist =>
    exact absurd ((hstays hparent).2.1.symm.trans hnew) (by decide)
  | founded hparent hnew hpersist =>
    exact absurd ((hstays hparent).2.1.symm.trans hnew) (by decide)

/-- Opening a store again succeeds, and changes nothing, unless the system
refuses to make sure of its directory. -/
theorem openAt_again (h : r.Holds path fs) (hf : faults.makeDirectory = none) :
    ∃ events, openAt faults fs path = (fs, events, .ok r) := by
  obtain ⟨hooks, hload, hhooks⟩ := h.loads
  obtain ⟨bytes, hbytes⟩ := read_of_load hload
  have hr : (⟨Collection.ofList hooks, some path⟩ : Registry) = r := by rw [hhooks, ← h.storage]
  refine ⟨loadEvents path hooks, openAt_eq_iff.2 (hr ▸ ?_)⟩
  exact .loaded (FileSystem.makeParent_of_read hf hbytes) (FileSystem.hasPath_of_read hbytes) hload

-- ---------------------------------------------------------------------------
-- Histories
-- ---------------------------------------------------------------------------

/-- What is asked of a registry. -/
inductive Operation
  | create (hook : Hook)
  | update (hook : Hook)
  | delete (id : String)
  | get (id : String)
  | reopen

/-- What an operation leaves, and the hook it answers with, if any. A registry
stays when its store cannot be opened again. -/
def Operation.run (m : Moment) (path : String) (fs : FileSystem) (r : Registry) :
    Operation → Change (Option Hook)
  | .create hook =>
    let c := r.create m fs hook
    ⟨c.files, c.registry, c.result.map some⟩
  | .update hook =>
    let c := r.update m fs hook
    ⟨c.files, c.registry, c.result.map some⟩
  | .delete id =>
    let c := r.delete m fs id
    ⟨c.files, c.registry, c.result.map fun _ => none⟩
  | .get id => ⟨fs, r, (r.find id).map some⟩
  | .reopen =>
    match openAt m.faults fs path with
    | (fs, _, .ok r) => ⟨fs, r, .ok none⟩
    | (fs, _, .error e) => ⟨fs, r, .error e⟩

/-- The file systems and registries that a history of the store at a path can
lead to. -/
inductive Reachable (path : String) : FileSystem → Registry → Prop
  | opened {faults : Faults} {fs fs' : FileSystem} {events : List Event} {r : Registry}
      (h : openAt faults fs path = (fs', events, .ok r)) : Reachable path fs' r
  | operation {fs : FileSystem} {r : Registry} (h : Reachable path fs r) (op : Operation)
      (m : Moment) : Reachable path (op.run m path fs r).files (op.run m path fs r).registry
  | others {fs fs' : FileSystem} {r : Registry} (h : Reachable path fs r)
      (hread : fs'.read path = fs.read path) : Reachable path fs' r

theorem Change.Atomic.map {β : Type} {c : Change α} (h : Change.Atomic path fs r c)
    (answer : α → β) : Change.Atomic path fs r ⟨c.files, c.registry, c.result.map answer⟩ where
  holds := h.holds
  refused e he := by
    cases hresult : c.result with
    | ok a =>
      rw [hresult] at he
      cases he
    | error e' => exact h.refused e' hresult

/-- Opening a registry again from the file that holds it changes neither, even if
it fails. -/
theorem Holds.reopen_stays (h : r.Holds path fs) (m : Moment) :
    (Operation.reopen.run m path fs r).registry = r ∧
      (Operation.reopen.run m path fs r).files.read path = fs.read path := by
  rw [Operation.run]
  split
  · rename_i hopen
    obtain ⟨hread, hr⟩ := openAt_of_holds h hopen
    exact ⟨hr _ rfl, hread⟩
  · rename_i hopen
    exact ⟨rfl, (openAt_of_holds h hopen).1⟩

/-- One operation: the store holds what the registry holds, and a failure
changes neither. -/
theorem run_atomic (h : r.Holds path fs) (op : Operation) (m : Moment) :
    Change.Atomic path fs r (op.run m path fs r) := by
  cases op with
  | create hook => exact (create_atomic h hook).map some
  | update hook => exact (update_atomic h hook).map some
  | delete id => exact (delete_atomic h id).map fun _ => none
  | get id => exact h.atomic rfl rfl
  | reopen => exact h.atomic (h.reopen_stays m).1 (h.reopen_stays m).2

/-- The store always holds what the registry holds. -/
theorem holds_of_reachable (h : Reachable path fs r) : r.Holds path fs := by
  induction h with
  | opened h => exact holds_of_openAt h
  | operation _ op m ih => exact (run_atomic ih op m).holds
  | others _ hread ih => exact ih.congr hread

/-- **Consistency and atomicity of the store.** Wherever a history of opening,
operations and reopening has led, with whatever failures:

* loading the store gives exactly the hooks of the registry, and it does so
  again after every further operation, whether that succeeds or fails;
* an operation that fails leaves both the registry and the store as they were;
* opening the store again gives back the very same registry and leaves the
  store as it was, and it succeeds, with the whole file system as it was,
  unless the system fails to make sure of the directory. -/
theorem store_consistent (h : Reachable path fs r) :
    r.Holds path fs ∧
    (∀ (op : Operation) (m : Moment), (op.run m path fs r).registry.Holds path
        (op.run m path fs r).files) ∧
    (∀ (op : Operation) (m : Moment) (e : HookError), (op.run m path fs r).result = .error e →
      (op.run m path fs r).registry = r ∧ (op.run m path fs r).files.read path = fs.read path) ∧
    (∀ m : Moment, (Operation.reopen.run m path fs r).registry = r ∧
      (Operation.reopen.run m path fs r).files.read path = fs.read path) ∧
    (∀ m : Moment, m.faults.makeDirectory = none →
      Operation.reopen.run m path fs r = ⟨fs, r, .ok none⟩) := by
  -- the store holds the registry throughout, and each operation is atomic from there
  have hholds := holds_of_reachable h
  refine ⟨hholds, fun op m => (run_atomic hholds op m).holds,
    fun op m => (run_atomic hholds op m).refused, hholds.reopen_stays, fun m hf => ?_⟩
  obtain ⟨events, hopen⟩ := openAt_again hholds hf
  rw [Operation.run, hopen]

/-- A hook is added to a fresh store when the disk is full. -/
theorem store_consistent_full_disk :
    let fs := (openAt {} FileSystem.empty "hooks.json").1
    let r : Registry := ⟨Collection.empty, some "hooks.json"⟩
    let m : Moment := ⟨Timestamp.epoch, 0, none, { write := some .noSpace }⟩
    let hook : Hook :=
      ⟨"ci", "CI", "", "secret", "ci.flag", true, Timestamp.epoch, Timestamp.epoch⟩
    let c := (Operation.create hook).run m "hooks.json" fs r
    Reachable "hooks.json" fs r ∧ c.result = .error (storeError "hooks.json" (.file .noSpace)) ∧
      c.registry = r ∧ c.files.read "hooks.json" = fs.read "hooks.json" := by
  intro fs r m hook c
  have hopen : openAt {} FileSystem.empty "hooks.json" = (fs, [], .ok r) := rfl
  have hreach : Reachable "hooks.json" fs r := .opened hopen
  have hfails : c.result = .error (storeError "hooks.json" (.file .noSpace)) := rfl
  exact ⟨hreach, hfails, (store_consistent hreach).2.2.1 (.create hook) m _ hfails⟩

end Registry

end Flagpost
