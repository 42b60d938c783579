import Flagpost.Proofs.File.Replacement
import Flagpost.Proofs.Hook.Action
import Flagpost.Proofs.Hook.FlagFile

/-!
# Flagpost — what a trigger does

A trigger asks for permission first and writes then. `Service.permission` is
the permission as a function of the registry alone; `Service.trigger_site` and
`Service.trigger_result` say that a trigger is the permission, the check of the
flag file and the writing, in this order, and that nothing but the writing
touches the site.

The writing touches what is at the path of the flag file and makes directories
on the way to it (`Service.writeFlag_changes`); when it succeeds, the file holds
the flag line and nothing else (`Service.read_writeFlagFile`).
-/

namespace Flagpost

namespace Service

variable {m : Moment} {fs : FileSystem} {site : Site} {path id token : String}

-- ---------------------------------------------------------------------------
-- Permission
-- ---------------------------------------------------------------------------

/-- The hook that a token may trigger, or why it may not. -/
def permission (r : Registry) (id token : String) : Except HookError Hook :=
  match r.hooks.find? id with
  | none => .error (.notFound id)
  | some hook =>
    if !hook.enabled then .error (.disabled id)
    else if !Token.authorises token hook.token then .error (.invalidToken id)
    else .ok hook

theorem permission_eq_ok_iff {r : Registry} {hook : Hook} : permission r id token = .ok hook ↔
    r.hooks.find? id = some hook ∧ hook.enabled = true ∧
      Token.authorises token hook.token = true := by
  rw [permission]
  cases r.hooks.find? id with
  | none => simp
  | some found =>
    constructor
    · intro h
      dsimp only at h
      split at h
      · cases h
      · split at h
        · cases h
        · rename_i henabled hauthorised
          cases h
          exact ⟨rfl, by simpa using henabled, by simpa using hauthorised⟩
    · rintro ⟨hfound, henabled, hauthorised⟩
      cases hfound
      simp [henabled, hauthorised]

theorem find_site (message id : String) : (find message id m site).site = site :=
  Action.reportFailure_site (failure message id)
    (fun m site => Action.ofExcept (site.registry.find id) m site)

theorem find_result (message id : String) :
    (find message id m site).result = site.registry.find id :=
  Action.reportFailure_result (failure message id)
    (fun m site => Action.ofExcept (site.registry.find id) m site)

theorem authorise_site (id token : String) : (authorise id token m site).site = site := by
  rw [authorise, Action.bind_site, find_site, find_result]
  split
  · split
    · simp [Action.bind_site]
    · split
      · simp [Action.bind_site]
      · simp
  · rfl

theorem authorise_result (id token : String) :
    (authorise id token m site).result = permission site.registry id token := by
  rw [authorise, Action.bind_result, find_site, find_result, permission, Registry.find]
  cases site.registry.hooks.find? id with
  | none => rfl
  | some hook =>
    dsimp only
    split
    · simp [Action.bind_result]
    · split
      · simp [Action.bind_result]
      · simp

-- ---------------------------------------------------------------------------
-- The whole trigger
-- ---------------------------------------------------------------------------

/-- What a trigger leaves of the file system, and its answer, once a hook may be
triggered. -/
def raised (m : Moment) (site : Site) (hook : Hook) : FileSystem × Except HookError FlagWrite :=
  match FlagFile.fault? hook.flagFile with
  | some fault => (site.files, .error (.invalid fault))
  | none => writeFlag m site.files (Path.join site.flagsDir hook.flagFile)

theorem raiseFlag_site (hook : Hook) :
    (raiseFlag hook m site).site = { site with files := (raised m site hook).1 } := by
  rw [raiseFlag, raised]
  cases FlagFile.fault? hook.flagFile <;> rfl

theorem raiseFlag_result (hook : Hook) :
    (raiseFlag hook m site).result = (raised m site hook).2 := by
  rw [raiseFlag, raised]
  cases FlagFile.fault? hook.flagFile <;> rfl

theorem trigger_site (id token : String) : (trigger id token m site).site =
    match permission site.registry id token with
    | .error _ => site
    | .ok hook => { site with files := (raised m site hook).1 } := by
  rw [trigger, Action.bind_site, authorise_site, authorise_result]
  cases permission site.registry id token with
  | error e => rfl
  | ok hook =>
    dsimp only
    rw [Action.bind_site, Action.reportFailure_site, Action.reportFailure_result, raiseFlag_site]
    split
    · simp [Action.bind_site]
    · rfl

theorem trigger_result (id token : String) : (trigger id token m site).result =
    match permission site.registry id token with
    | .error e => .error e
    | .ok hook => (raised m site hook).2 := by
  rw [trigger, Action.bind_result, authorise_site, authorise_result]
  cases permission site.registry id token with
  | error e => rfl
  | ok hook =>
    dsimp only
    rw [Action.bind_result, Action.reportFailure_site, Action.reportFailure_result,
      raiseFlag_result]
    cases (raised m site hook).2 with
    | error e => rfl
    | ok written => simp [Action.bind_result]

theorem raised_of_fault? {hook : Hook} (h : FlagFile.fault? hook.flagFile = none) :
    raised m site hook = writeFlag m site.files (Path.join site.flagsDir hook.flagFile) := by
  rw [raised, h]

/-- Triggering a hook that may be triggered and has a flag file is writing its flag. -/
theorem trigger_of_permission {hook : Hook} (h : permission site.registry id token = .ok hook)
    (hfault : FlagFile.fault? hook.flagFile = none) :
    (trigger id token m site).result =
        (writeFlag m site.files (Path.join site.flagsDir hook.flagFile)).2 ∧
      (trigger id token m site).site =
        { site with files := (writeFlag m site.files (Path.join site.flagsDir hook.flagFile)).1 } := by
  rw [trigger_result, trigger_site, h, ← raised_of_fault? hfault]
  exact ⟨rfl, rfl⟩

-- ---------------------------------------------------------------------------
-- Writing
-- ---------------------------------------------------------------------------

theorem makeFlagDirectory_builds (m : Moment) (fs : FileSystem) (path : String) :
    FileSystem.Builds (fun l => ∃ before, before <+: Path.steps path ∧ l = Path.reach before) fs
      (makeFlagDirectory m fs path).1 := by
  rw [makeFlagDirectory]
  split
  · exact .refl _ _
  · rename_i parent hparent
    split
    · exact .refl _ _
    · have hbuilds := FileSystem.makeDirectories_parent_builds fs hparent
      -- what was made before a failure is on the way too
      split
      · rename_i heq
        rw [heq] at hbuilds
        exact hbuilds
      · rename_i heq
        rw [heq] at hbuilds
        exact hbuilds

/-- Writing a flag file changes nothing, or only what is at its path, where there
is no directory. -/
theorem writeFlagFile_change (m : Moment) (fs : FileSystem) (path : String) :
    (writeFlagFile m fs path).1 = fs ∨ fs.node? (Path.locate path) ≠ some .directory ∧
      ∀ l, l ≠ Path.locate path → (writeFlagFile m fs path).1.node? l = fs.node? l := by
  rw [writeFlagFile]
  split
  · exact .inl rfl
  · rename_i opened number hcreate
    obtain ⟨directory, name, hresolve, hbefore, hempty, hsame⟩ :=
      FileSystem.create_eq_ok (FileSystem.unlessFault_eq_ok hcreate).2
    have hlocation : directory ++ [name] = Path.locate path :=
      FileSystem.resolve_location hresolve
    rw [hlocation] at hbefore hempty hsame
    refine .inr ⟨hbefore, fun l hl => ?_⟩
    -- the file is empty, or has got the line
    split
    · exact hsame l hl
    · show (opened.append number _).node? l = _
      rw [FileSystem.append, FileSystem.node?_rewrite_of_ne _ hempty hl, hsame l hl]

theorem writeFlagFile_off {l : Location} (hl : l ≠ Path.locate path) :
    (writeFlagFile m fs path).1.node? l = fs.node? l := by
  rcases writeFlagFile_change m fs path with hsame | ⟨_, hsame⟩
  · rw [hsame]
  · exact hsame l hl

/-- Writing a flag file makes no location closed. -/
theorem writeFlagFile_keepsOpen (m : Moment) (fs : FileSystem) (path : String) :
    FileSystem.KeepsOpen fs (writeFlagFile m fs path).1 := by
  rcases writeFlagFile_change m fs path with hsame | ⟨hbefore, hsame⟩
  · rw [hsame]
    exact .refl _
  · exact FileSystem.keepsOpen_of_eq_off hbefore hsame

/-- A flag file that was written holds the flag line and nothing else. -/
theorem read_writeFlagFile {written : FlagWrite} (h : (writeFlagFile m fs path).2 = .ok written) :
    (writeFlagFile m fs path).1.read path = .ok (Utf8.encode (flagLine m.now)) := by
  have hkeeps := writeFlagFile_keepsOpen m fs path
  rw [writeFlagFile] at h hkeeps ⊢
  split
  · rename_i hcreate
    rw [hcreate] at h
    cases h
  · rename_i opened number hcreate
    rw [hcreate] at h hkeeps
    obtain ⟨directory, name, hresolve, _, hempty, _⟩ :=
      FileSystem.create_eq_ok (FileSystem.unlessFault_eq_ok hcreate).2
    -- the file was emptied, so it holds the line alone
    have hfull := FileSystem.node?_rewrite_self (· ++ Utf8.encode (flagLine m.now)) hempty
    split
    · rename_i hwrite
      simp [hwrite] at h
    · rename_i hwrite
      simp only [hwrite] at hkeeps
      exact FileSystem.read_eq_ok_iff.2
        ⟨directory, name, number, FileSystem.resolve_of_keepsOpen hkeeps hresolve, hfull⟩

theorem writeFlag_keepsOpen (m : Moment) (fs : FileSystem) (path : String) :
    FileSystem.KeepsOpen fs (writeFlag m fs path).1 := by
  have hbuilds := makeFlagDirectory_builds m fs path
  rw [writeFlag]
  split
  · rename_i hmade
    rw [hmade] at hbuilds
    exact hbuilds.keepsOpen
  · rename_i made hmade
    rw [hmade] at hbuilds
    exact hbuilds.keepsOpen.trans (writeFlagFile_keepsOpen m made path)

/-- Where a flag is written, only the path itself changes and directories
appear on the way to it. -/
theorem writeFlag_changes (m : Moment) (fs : FileSystem) (path : String) (l : Location) :
    (writeFlag m fs path).1.node? l = fs.node? l ∨ l = Path.locate path ∨
      (∃ before, before <+: Path.steps path ∧ l = Path.reach before) ∧
        fs.node? l = none ∧ (writeFlag m fs path).1.node? l = some .directory := by
  have hbuilds := makeFlagDirectory_builds m fs path
  rw [writeFlag]
  split
  · rename_i hmade
    rw [hmade] at hbuilds
    exact (hbuilds l).imp_right .inr
  · rename_i made hmade
    rw [hmade] at hbuilds
    by_cases hl : l = Path.locate path
    · exact .inr (.inl hl)
    · rw [writeFlagFile_off hl]
      exact (hbuilds l).imp_right .inr

/-- The directory of a flag file can be made, and then the file can be written. -/
def CanWrite (m : Moment) (fs : FileSystem) (path : String) : Prop :=
  (makeFlagDirectory m fs path).2 = .ok () ∧
    ∃ written, (writeFlagFile m (makeFlagDirectory m fs path).1 path).2 = .ok written

theorem makeFlagDirectory_error {e : HookError} (h : (makeFlagDirectory m fs path).2 = .error e) :
    ∃ context cause, e = .io context cause := by
  rw [makeFlagDirectory] at h
  split at h
  · cases h
  · split at h
    · cases h
      exact ⟨_, _, rfl⟩
    · split at h
      · cases h
      · cases h
        exact ⟨_, _, rfl⟩

theorem writeFlagFile_error {e : HookError} (h : (writeFlagFile m fs path).2 = .error e) :
    ∃ context cause, e = .io context cause := by
  rw [writeFlagFile] at h
  split at h
  · cases h
    exact ⟨_, _, rfl⟩
  · split at h
    · cases h
      exact ⟨_, _, rfl⟩
    · cases h

/-- A flag that can be written is written, and its file then holds the flag line
and nothing else; if it cannot, the storage is to blame. -/
theorem writeFlag_cases (m : Moment) (fs : FileSystem) (path : String) :
    CanWrite m fs path ∧ (∃ written, (writeFlag m fs path).2 = .ok written) ∧
      (writeFlag m fs path).1.read path = .ok (Utf8.encode (flagLine m.now)) ∨
    ¬ CanWrite m fs path ∧
      ∃ context cause, (writeFlag m fs path).2 = .error (.io context cause) := by
  rw [CanWrite, writeFlag]
  cases hmade : makeFlagDirectory m fs path with
  | mk made result =>
    cases result with
    | error e =>
      -- the directory could not be made
      obtain ⟨context, cause, rfl⟩ := makeFlagDirectory_error (congrArg Prod.snd hmade)
      exact .inr ⟨fun h => (by cases h.1), context, cause, rfl⟩
    | ok _ =>
      cases hwritten : (writeFlagFile m made path).2 with
      | error e =>
        -- the file could not be written
        obtain ⟨context, cause, rfl⟩ := writeFlagFile_error hwritten
        refine .inr ⟨?_, context, cause, rfl⟩
        rintro ⟨_, written, h⟩
        cases h
      | ok written =>
        exact .inl ⟨⟨rfl, written, rfl⟩, ⟨written, rfl⟩, read_writeFlagFile hwritten⟩

end Service

end Flagpost
