import Flagpost.Proofs.Access.Credential
import Flagpost.Proofs.Hook.Change
import Flagpost.Proofs.Hook.Containment
import Flagpost.Proofs.Hook.Management
import Flagpost.Proofs.Hook.Writing

/-!
# Flagpost — which flags can be raised

A hook is accepted by its components, and its flag is written to the path as it
is spelled. The two part company at the end of a path: `a/.` has the component
`a`, which is a name, but a file cannot be made under a path that ends in a dot.
That is the only way: below a flags directory that holds nothing yet, or that is
still to be made, the flag of a hook that was accepted can be raised if and only
if its path does not end in a dot (`Service.raised_iff`).

* `Service.clear_join`              — no file stands on the way to a flag below a
  fresh directory.
* `Service.endsIn_join`             — an accepted path that does not end in a dot
  ends in a name.
* `Service.canWrite_of_freshRoot`   — so it can be written;
* `Service.getLast?_of_canWrite`    — and nothing else can.
-/

namespace Flagpost

namespace Service

variable {m : Moment} {fs : FileSystem} {site : Site} {directory file path : String}

-- ---------------------------------------------------------------------------
-- Fresh directories
-- ---------------------------------------------------------------------------

/-- A directory for flags that holds nothing, or that is missing and can be made and
then holds nothing. -/
structure FreshRoot (fs : FileSystem) (directory : String) : Prop where
  /-- No file is in the way. -/
  clear : fs.Clear (Path.steps directory)
  /-- Nothing is below the directory, -/
  vacant : ∀ l, Below (Path.locate directory) l → fs.node? l = none
  /-- and making it puts nothing there. -/
  direct : ∀ before, before <+: Path.steps directory →
    ¬ Below (Path.locate directory) (Path.reach before)

/-- A path that keeps to the limits of the system. -/
structure Fits (path : String) : Prop where
  isPath : FileSystem.IsPath path
  short : FileSystem.Short (FileSystem.walk path)

/-- In the empty tree any directory that is named without `..` is fresh. -/
theorem freshRoot_empty (h : ".." ∉ Path.steps directory) :
    FreshRoot FileSystem.empty directory := by
  have hnode : ∀ l, l ≠ [] → FileSystem.empty.node? l = none := fun l hl => if_neg hl
  have hreach : ∀ names, ".." ∉ names → Path.reach names = names := fun names hnames => by
    rw [Path.reach, Path.foldl_follow_names hnames, List.nil_append]
  refine ⟨fun before _ number content hfile => ?_, ?_, ?_⟩
  · rw [hnode _ (FileSystem.ne_nil_of_file hfile)] at hfile
    cases hfile
  · rintro l ⟨names, hne, hl⟩
    exact hnode l (by simp [hl, hne])
  · rintro before hbefore ⟨names, hne, hl⟩
    -- on the way there nothing is as long as the way itself
    rw [Path.locate, hreach _ h, hreach _ fun hm => h (hbefore.subset hm)] at hl
    have hlength := hbefore.length_le
    rw [hl, List.length_append] at hlength
    exact hne (List.eq_nil_of_length_eq_zero (by omega))

/-- No file stands on the way to an accepted path below a fresh directory. -/
theorem clear_join (hroot : FreshRoot fs directory) (h : FlagFile.Accepted file) :
    fs.Clear (Path.steps (Path.join directory file)) := by
  intro before hbefore number content hfile
  rcases below_or_above h hbefore rfl with hbelow | habove
  · rw [hroot.vacant _ hbelow] at hfile
    cases hfile
  · exact hroot.clear before habove number content hfile

-- ---------------------------------------------------------------------------
-- The end of a path
-- ---------------------------------------------------------------------------

theorem getLast?_join (directory : String) (h : file ≠ "") :
    (Path.join directory file).toList.getLast? = file.toList.getLast? := by
  have hne : file.toList ≠ [] := fun hnil => h (String.toList_inj.1 hnil)
  obtain ⟨c, hc⟩ : ∃ c, file.toList.getLast? = some c :=
    ⟨_, List.getLast?_eq_some_getLast hne⟩
  have hbehind : ∀ text : List Char, (text ++ file.toList).getLast? = some c := by
    intro text
    rw [List.getLast?_append, hc, Option.some_or]
  rw [hc, Path.join]
  split
  · exact hc
  · split
    · rw [String.toList_append, hbehind]
    · rw [String.toList_append, hbehind]

/-- An accepted path is not empty and does not end in a slash. -/
theorem getLast?_of_fault? (h : FlagFile.fault? file = none) :
    file ≠ "" ∧ file.toList.getLast? ≠ some '/' := by
  have hnamed := (FlagFile.accepted_of_fault? h).named
  refine ⟨?_, fun hslash => ?_⟩
  · rintro rfl
    cases h
  · simp only [FlagFile.fault?, hnamed, hslash] at h
    repeat' split at h
    all_goals cases h
    rename_i hclosed
    exact hclosed rfl

/-- An accepted path ends in a name, or it ends in a dot. -/
theorem endsIn_join (h : FlagFile.fault? file = none)
    (hdot : (Path.segments file).getLast? ≠ some ".") (hfits : Fits (Path.join directory file)) :
    ∃ before name, FileSystem.EndsIn (Path.join directory file) before name := by
  have haccepted := FlagFile.accepted_of_fault? h
  obtain ⟨hne, hslash⟩ := getLast?_of_fault? h
  obtain ⟨front, name, hsegments, hempty⟩ := Path.segments_eq_concat hne
  have hname : name ≠ "" := fun hnil => hslash (hempty hnil)
  have hwalk : FileSystem.walk (Path.join directory file) =
      FileSystem.walk directory ++ front.filter (· != "") ++ [name] := by
    rw [FileSystem.walk, Path.filter_segments_join rfl haccepted.relative, hsegments,
      List.filter_append, List.filter_cons_of_pos (by simpa using hname), List.filter_nil,
      List.append_assoc]
    rfl
  have hhere : name ≠ "." := by
    rintro rfl
    rw [hsegments, List.getLast?_concat] at hdot
    exact hdot rfl
  refine ⟨_, name, hfits.isPath, ?_, hwalk, hhere, ?_, ?_⟩
  · -- the path ends like the file's own, which ends in no slash
    rw [getLast?_join directory hne]
    simpa using hslash
  · -- the name is a step of an accepted path, and so not two dots
    have hstep : name ∈ Path.steps file := by
      rw [Path.steps_eq_segments, hsegments]
      exact List.mem_filter.2 ⟨by simp, by simp [Path.isStep, hname, hhere]⟩
    exact (haccepted.isName hstep).notAbove
  · exact hfits.short name (by rw [hwalk]; simp)

/-- What can be written ends in a name. -/
theorem getLast?_of_canWrite (hrelative : file.toList.head? ≠ some '/')
    (h : CanWrite m fs (Path.join directory file)) : (Path.segments file).getLast? ≠ some "." := by
  intro hdot
  obtain ⟨front, hfront⟩ := List.getLast?_eq_some_iff.1 hdot
  obtain ⟨before, name, hends⟩ := (writable_of_canWrite h).ends
  have hwalk := hends.walk_eq
  rw [FileSystem.walk, Path.filter_segments_join rfl hrelative, hfront, List.filter_append,
    ← List.append_assoc] at hwalk
  obtain ⟨-, hname⟩ := List.append_inj' hwalk rfl
  exact hends.ne_dot (List.singleton_inj.1 hname).symm

-- ---------------------------------------------------------------------------
-- Writing below a fresh directory
-- ---------------------------------------------------------------------------

/-- Where an accepted path leads is below a fresh directory, and nothing made on the way
is as far. -/
theorem apart_of_freshRoot (hroot : FreshRoot fs directory) (h : FlagFile.Accepted file) :
    ¬ FileSystem.OnWay (Path.join directory file) (Path.locate (Path.join directory file)) := by
  rintro ⟨first, hfirst, hreach⟩
  rw [h.locate_join] at hreach
  rcases prefix_join_cases h (hfirst.trans (List.dropLast_prefix _)) with
    hdirect | ⟨names, -, hnames, hreach'⟩
  · exact hroot.direct first hdirect ⟨_, h.steps_ne_nil, hreach.symm⟩
  · have hall : names = Path.steps file := List.append_cancel_left (hreach'.symm.trans hreach.symm)
    have hne : Path.steps (Path.join directory file) ≠ [] := by
      simp [Path.steps_join h.relative, h.steps_ne_nil]
    refine ((FileSystem.prefix_dropLast_iff hne).1 hfirst).2 ?_
    rw [hnames, hall, Path.steps_join h.relative]

/-- Below a fresh directory, a path that ends in a name can be written. -/
theorem canWrite_of_freshRoot {before : List String} {name : String} (hfaults : m.faults = {})
    (hroot : FreshRoot fs directory) (h : FlagFile.Accepted file)
    (hends : FileSystem.EndsIn (Path.join directory file) before name)
    (hfits : Fits (Path.join directory file)) : CanWrite m fs (Path.join directory file) := by
  refine canWrite_of_writable (unfailing_of_faults hfaults) ⟨⟨before, name, hends⟩, hfits.short,
    FileSystem.Clear.of_prefix (clear_join hroot h) (List.dropLast_prefix _), ?_,
    apart_of_freshRoot hroot h⟩
  rw [hroot.vacant _ ⟨_, h.steps_ne_nil, h.locate_join directory⟩]
  exact nofun

theorem find_of_read {content : Bytes} (h : fs.read path = .ok content) :
    ∃ number, fs.find path = .ok (Path.locate path, .file number content) := by
  obtain ⟨location, name, number, hresolve, hnode⟩ := FileSystem.read_eq_ok_iff.1 h
  refine ⟨number, ?_⟩
  rw [← FileSystem.resolve_location hresolve]
  simp [FileSystem.find, hresolve, hnode, FileSystem.Place.location]

theorem writeFlag_written {written : FlagWrite} (h : (writeFlag m fs path).2 = .ok written) :
    written = ⟨path, m.now⟩ := by
  rw [writeFlag] at h
  split at h
  · cases h
  rw [writeFlagFile] at h
  split at h
  · cases h
  · split at h
    · cases h
    · cases h
      rfl

/-- Below a fresh directory, an accepted path can be written unless it ends in a dot. -/
theorem canWrite_iff (hfaults : m.faults = {}) (hroot : FreshRoot fs directory)
    (h : FlagFile.fault? file = none) (hfits : Fits (Path.join directory file)) :
    CanWrite m fs (Path.join directory file) ↔ (Path.segments file).getLast? ≠ some "." := by
  have haccepted := FlagFile.accepted_of_fault? h
  refine ⟨getLast?_of_canWrite haccepted.relative, fun hdot => ?_⟩
  obtain ⟨before, name, hends⟩ := endsIn_join h hdot hfits
  exact canWrite_of_freshRoot hfaults hroot haccepted hends hfits

-- ---------------------------------------------------------------------------
-- Hooks that were saved
-- ---------------------------------------------------------------------------

/-- A hook that was added has passed the checks, and is kept as it was but for the times. -/
theorem kept_of_createHook {hook kept : Hook} (h : (createHook hook m site).result = .ok kept) :
    FlagFile.fault? hook.flagFile = none ∧ kept = hook.stamped m.now m.now := by
  rw [createHook_result] at h
  cases hfault : hook.fault? with
  | some fault =>
    rw [hfault] at h
    cases h
  | none =>
    rw [hfault] at h
    refine ⟨?_, ?_⟩
    · -- the flag file was checked with everything else
      simp only [Hook.fault?] at hfault
      repeat' split at hfault
      all_goals first | cases hfault | exact hfault
    · -- a hook that was stored has got its times and nothing else
      rcases Registry.create_cases m site.files site.registry hook with
        ⟨-, hkept, -⟩ | ⟨⟨e, herror⟩, -⟩
      · rw [hkept] at h
        exact (Except.ok.inj h).symm
      · rw [herror] at h
        cases h

/-- A hook is triggered by its token. -/
theorem permission_of_token {r : Registry} {kept : Hook} {id : String}
    (hstored : r.hooks.find? id = some kept) (henabled : kept.enabled = true)
    (hne : kept.token ≠ "") : permission r id kept.token = .ok kept :=
  permission_eq_ok_iff.2 ⟨hstored, henabled, (Token.authorises_iff _ _).2 ⟨hne, hne, rfl⟩⟩

/-- Triggering a hook with its token is writing its flag. -/
theorem trigger_of_token (m : Moment) (site : Site) (kept : Hook) {id token : String}
    (hstored : site.registry.hooks.find? id = some kept) (henabled : kept.enabled = true)
    (htoken : kept.token = token) (hne : token ≠ "") (hfault : FlagFile.fault? kept.flagFile = none) :
    (trigger id token m site).result =
        (writeFlag m site.files (Path.join site.flagsDir kept.flagFile)).2 ∧
      (trigger id token m site).site.files =
        (writeFlag m site.files (Path.join site.flagsDir kept.flagFile)).1 := by
  subst htoken
  exact (trigger_of_permission (permission_of_token hstored henabled hne) hfault).imp_right
    (congrArg Site.files)

/-- **Raising.** Take a hook that is enabled, has a token and was added, and a directory
for flags that is fresh; nothing fails and the path of the flag keeps to the limits of the
system. Then triggering the hook with its token succeeds if and only if the path of its
flag does not end in a dot. When it succeeds, the flag is a file below the directory that
holds the flag line and nothing else. -/
theorem raised_iff (hook kept : Hook) (m₀ m : Moment) (site₀ site : Site)
    (hkept : (createHook hook m₀ site₀).result = .ok kept) (henabled : hook.enabled = true)
    (htoken : hook.token ≠ "") (hstored : site.registry.hooks.find? hook.id = some kept)
    (hroot : FreshRoot site.files site.flagsDir) (hfaults : m.faults = {})
    (hfits : Fits (Path.join site.flagsDir hook.flagFile)) :
    ((∃ written, (trigger hook.id hook.token m site).result = .ok written) ↔
      (Path.segments hook.flagFile).getLast? ≠ some ".") ∧
    ∀ written, (trigger hook.id hook.token m site).result = .ok written →
      written = ⟨Path.join site.flagsDir hook.flagFile, m.now⟩ ∧
      ∃ location number, Below (Path.locate site.flagsDir) location ∧
        (trigger hook.id hook.token m site).site.files.find written.path =
          .ok (location, .file number (Utf8.encode (flagLine m.now))) := by
  obtain ⟨hfault, rfl⟩ := kept_of_createHook hkept
  obtain ⟨hresult, hfiles⟩ := trigger_of_token m site (hook.stamped m₀.now m₀.now) hstored henabled
    (hook.stamped_token m₀.now m₀.now) htoken hfault
  rw [Hook.stamped_flagFile] at hresult hfiles
  have haccepted := FlagFile.accepted_of_fault? hfault
  rw [hresult, hfiles, ← canWrite_iff hfaults hroot hfault hfits]
  rcases writeFlag_cases m site.files (Path.join site.flagsDir hook.flagFile) with
    ⟨hcan, hwritten, hread⟩ | ⟨hcannot, context, cause, herror⟩
  · refine ⟨iff_of_true hwritten hcan, fun written h => ?_⟩
    obtain rfl := writeFlag_written h
    obtain ⟨number, hfind⟩ := find_of_read hread
    exact ⟨rfl, _, number, ⟨_, haccepted.steps_ne_nil, haccepted.locate_join site.flagsDir⟩, hfind⟩
  · -- the storage is to blame, so nothing was written
    rw [herror]
    exact ⟨iff_of_false (fun ⟨written, h⟩ => nomatch h) hcannot, fun written h => nomatch h⟩

/-- A hook that passes the checks is added to a new service that keeps its hooks in no
file. -/
theorem createHook_new {hook : Hook} (m : Moment) (h : hook.fault? = none) :
    let site : Site := ⟨FileSystem.empty, Registry.inMemory, "flags"⟩
    let kept := hook.stamped m.now m.now
    (createHook hook m site).result = .ok kept ∧ (createHook hook m site).site =
      ⟨FileSystem.empty, ⟨Collection.empty.insert kept, none⟩, "flags"⟩ := by
  intro site kept
  rw [createHook_result, createHook_site, h]
  exact ⟨rfl, rfl⟩

/-- A hook is added to a service that keeps its hooks in no file, and triggered. -/
theorem raised_iff_new_service :
    let m : Moment := ⟨Timestamp.epoch, 0, none, {}⟩
    let hook : Hook :=
      ⟨"ci", "CI", "", "secret", "./builds//ci.flag", true, Timestamp.epoch, Timestamp.epoch⟩
    let site : Site := ⟨FileSystem.empty, Registry.inMemory, "flags"⟩
    (createHook hook m site).result = .ok hook ∧
      ∃ written, (trigger "ci" "secret" m (createHook hook m site).site).result = .ok written := by
  intro m hook site
  have hfault : hook.fault? = none := by decide
  obtain ⟨hkept, hlater⟩ := createHook_new m hfault
  have hfits : Fits (Path.join "flags" hook.flagFile) := by
    rw [show Path.join "flags" hook.flagFile = "flags/./builds//ci.flag" by decide]
    exact ⟨by decide, by decide⟩
  have hroot : FreshRoot FileSystem.empty "flags" := freshRoot_empty (by decide)
  have hdot : (Path.segments hook.flagFile).getLast? ≠ some "." := by decide
  rw [hlater]
  exact ⟨hkept, (raised_iff hook hook m m site ⟨_, ⟨Collection.empty.insert hook, none⟩, "flags"⟩
    hkept rfl (by decide) rfl hroot rfl hfits).1.2 hdot⟩

/-- A hook that is added and cannot be triggered. -/
theorem saved_not_raised :
    let m : Moment := ⟨Timestamp.epoch, 0, none, {}⟩
    let hook : Hook := ⟨"ci", "CI", "", "secret", "a/.", true, Timestamp.epoch, Timestamp.epoch⟩
    let site : Site := ⟨FileSystem.empty, Registry.inMemory, "flags"⟩
    let later := (createHook hook m site).site
    (createHook hook m site).result = .ok hook ∧ FreshRoot later.files later.flagsDir ∧
      Fits (Path.join later.flagsDir hook.flagFile) ∧
      ∃ context cause, (trigger "ci" "secret" m later).result = .error (.io context cause) := by
  intro m hook site later
  have hfault : hook.fault? = none := by decide
  obtain ⟨hkept, hlater⟩ := createHook_new m hfault
  have hfits : Fits (Path.join "flags" "a/.") := by
    rw [show Path.join "flags" "a/." = "flags/a/." by decide]
    exact ⟨by decide, by decide⟩
  have hroot : FreshRoot FileSystem.empty "flags" := freshRoot_empty (by decide)
  -- a flag that can be written does not end in a dot
  have hcannot : ¬ CanWrite m FileSystem.empty (Path.join "flags" "a/.") := fun hcan =>
    getLast?_of_canWrite (by decide) hcan (by decide)
  have hstored : (Collection.empty.insert hook).find? "ci" = some hook := rfl
  rw [show later = _ from hlater]
  refine ⟨hkept, hroot, hfits, ?_⟩
  rcases writeFlag_cases m FileSystem.empty (Path.join "flags" "a/.") with
    ⟨hcan, -, -⟩ | ⟨-, context, cause, herror⟩
  · exact absurd hcan hcannot
  · refine ⟨context, cause, ?_⟩
    exact (trigger_of_token m _ hook hstored rfl rfl (by decide) (by decide)).1.trans herror

end Service

end Flagpost
