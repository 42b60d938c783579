import Flagpost.Proofs.Hook.Raising

/-!
# Flagpost — triggers of two hooks

Two hooks may share the directories their flags are in, in whatever spelling, and
still not notice each other: what the one trigger makes on its way is what the other
finds there. They meet in one way only, where one flag is in the place of a directory
that the other needs. Then the one path is the beginning of the other: with flags at
`a` and at `a/b`, whichever hook is triggered first takes the place that the other one
needs. Otherwise the triggers are independent (`Service.triggers_independent_iff`).

* `Service.Flagged.writable_iff`     — what can be written after a flag has been
  written, for any two paths.
* `Service.Flagged.node?_either_order` — two flags that are written in either order
  leave the same tree around them.
* `Service.separate_join_iff`        — for accepted paths below one directory, being
  separate is read off the components.
-/

namespace Flagpost

namespace Service

open FileSystem (OnWay Writable)

variable {m m' n n' : Moment} {fs fs' fs₁ fs₂ : FileSystem} {site : Site} {l : Location}
  {path path' directory file file' id token : String} {hook : Hook}

-- ---------------------------------------------------------------------------
-- Two flags
-- ---------------------------------------------------------------------------

/-- The paths end in different places, and neither end is on the way to the other. -/
structure Separate (path path' : String) : Prop where
  ne : Path.locate path ≠ Path.locate path'
  off : ¬ OnWay path' (Path.locate path)
  off' : ¬ OnWay path (Path.locate path')

theorem Separate.symm (h : Separate path path') : Separate path' path :=
  ⟨h.ne.symm, h.off', h.off⟩

namespace Flagged

/-- After a flag has been written, the paths that could be written and end elsewhere can
still be written if and only if they are separate from it. -/
theorem writable_iff (h : Flagged m path fs fs') (hpath' : Writable fs path')
    (hne : Path.locate path ≠ Path.locate path') : Writable fs' path' ↔ Separate path path' := by
  constructor
  · intro hafter
    refine ⟨hne, ?_, fun hway => hafter.free (h.way _ hway)⟩
    rintro ⟨before, hbefore, hreach⟩
    obtain ⟨number, hflag⟩ := h.flag
    rw [hreach] at hflag
    exact hafter.clear before hbefore _ _ hflag
  · rintro ⟨-, hoff, hoff'⟩
    refine ⟨hpath'.ends, hpath'.short, ?_, ?_, hpath'.apart⟩
    · intro before hbefore number content hfile
      -- a file on the way would be the flag, or it was there before
      have hend : Path.reach before ≠ Path.locate path := fun hend =>
        hoff ⟨before, hbefore, hend.symm⟩
      by_cases hway : OnWay path (Path.reach before)
      · rw [h.way _ hway] at hfile
        cases hfile
      · rw [h.rest _ hend hway] at hfile
        exact hpath'.clear before hbefore number content hfile
    · rw [h.rest _ hne.symm hoff']
      exact hpath'.free

/-- Neither of two separate flags is touched when the other is written. -/
theorem undisturbed (h : Flagged m path fs fs₁) (h' : Flagged n path' fs₁ fs₂)
    (hsep : Separate path path') :
    fs₁.node? (Path.locate path') = fs.node? (Path.locate path') ∧
      fs₂.node? (Path.locate path) = fs₁.node? (Path.locate path) ∧
      HoldsFlag fs₂ (Path.locate path) m := by
  have hfirst := h.rest _ hsep.ne.symm hsep.off'
  have hsecond := h'.rest _ hsep.ne hsep.off
  obtain ⟨number, hflag⟩ := h.flag
  exact ⟨hfirst, hsecond, number, hsecond.trans hflag⟩

/-- Around two flags the same is left in either order. -/
theorem node?_either_order {fs₁' fs₂' : FileSystem}
    (h₁ : Flagged m path fs fs₁) (h₂ : Flagged n path' fs₁ fs₂)
    (h₁' : Flagged m' path' fs fs₁') (h₂' : Flagged n' path fs₁' fs₂')
    (hl : l ≠ Path.locate path) (hl' : l ≠ Path.locate path') : fs₂.node? l = fs₂'.node? l := by
  by_cases hway : OnWay path l
  · rw [h₂'.way l hway]
    by_cases hway' : OnWay path' l
    · exact h₂.way l hway'
    · rw [h₂.rest l hl' hway', h₁.way l hway]
  · rw [h₂'.rest l hl hway]
    by_cases hway' : OnWay path' l
    · rw [h₂.way l hway', h₁'.way l hway']
    · rw [h₂.rest l hl' hway', h₁.rest l hl hway, h₁'.rest l hl' hway']

end Flagged

-- ---------------------------------------------------------------------------
-- Below one directory
-- ---------------------------------------------------------------------------

/-- Neither path begins with all the components of the other. -/
def Apart (file file' : String) : Prop :=
  ¬ Path.steps file <+: Path.steps file' ∧ ¬ Path.steps file' <+: Path.steps file

instance (file file' : String) : Decidable (Apart file file') :=
  inferInstanceAs (Decidable (¬ Path.steps file <+: Path.steps file' ∧
    ¬ Path.steps file' <+: Path.steps file))

theorem locate_join_inj (h : FlagFile.Accepted file) (h' : FlagFile.Accepted file') :
    Path.locate (Path.join directory file) = Path.locate (Path.join directory file') ↔
      Path.steps file = Path.steps file' := by
  rw [h.locate_join, h'.locate_join, List.append_cancel_left_eq]

/-- Where an accepted path leads is on the way to another one if it is the beginning of
it. The way to the directory itself does not go there, or the first path would be in its
own way. -/
theorem onWay_join_iff (h : FlagFile.Accepted file) (h' : FlagFile.Accepted file')
    (hself : ¬ OnWay (Path.join directory file) (Path.locate (Path.join directory file))) :
    OnWay (Path.join directory file') (Path.locate (Path.join directory file)) ↔
      Path.steps file <+: Path.steps file' ∧ Path.steps file ≠ Path.steps file' := by
  rw [← FileSystem.prefix_dropLast_iff h'.steps_ne_nil]
  have hlast : ∀ {file : String}, FlagFile.Accepted file →
      (Path.steps (Path.join directory file)).dropLast =
        Path.steps directory ++ (Path.steps file).dropLast := by
    intro file hfile
    rw [Path.steps_join hfile.relative, List.dropLast_append_of_ne_nil hfile.steps_ne_nil]
  constructor
  · -- what leads to the first flag is on the way to the directory, or below it
    rintro ⟨before, hbefore, hreach⟩
    rcases prefix_join_cases h' (hbefore.trans (List.dropLast_prefix _)) with
      hdirect | ⟨names, -, hnames, hreach'⟩
    · refine absurd ⟨before, ?_, hreach⟩ hself
      rw [hlast h]
      exact hdirect.trans (List.prefix_append _ _)
    · rw [h.locate_join, hreach', List.append_cancel_left_eq] at hreach
      rwa [hlast h', hnames, ← hreach, List.prefix_append_right_inj] at hbefore
  · intro hprefix
    refine ⟨Path.steps (Path.join directory file), ?_, rfl⟩
    rw [hlast h', Path.steps_join h.relative]
    exact (List.prefix_append_right_inj _).2 hprefix

theorem separate_join_iff (h : FlagFile.Accepted file) (h' : FlagFile.Accepted file')
    (hself : ¬ OnWay (Path.join directory file) (Path.locate (Path.join directory file)))
    (hself' : ¬ OnWay (Path.join directory file') (Path.locate (Path.join directory file')))
    (hne : Path.steps file ≠ Path.steps file') :
    Separate (Path.join directory file) (Path.join directory file') ↔ Apart file file' := by
  have hbefore : ¬ OnWay (Path.join directory file') (Path.locate (Path.join directory file)) ↔
      ¬ Path.steps file <+: Path.steps file' := by
    rw [onWay_join_iff h h' hself, and_iff_left hne]
  have hbehind : ¬ OnWay (Path.join directory file) (Path.locate (Path.join directory file')) ↔
      ¬ Path.steps file' <+: Path.steps file := by
    rw [onWay_join_iff h' h hself', and_iff_left hne.symm]
  rw [Apart, ← hbefore, ← hbehind]
  exact ⟨fun hsep => ⟨hsep.off, hsep.off'⟩,
    fun hapart => ⟨fun heq => hne ((locate_join_inj h h').1 heq), hapart.1, hapart.2⟩⟩

-- ---------------------------------------------------------------------------
-- One trigger
-- ---------------------------------------------------------------------------

/-- The trigger of a hook succeeds. -/
def Succeeds (id token : String) (m : Moment) (site : Site) : Prop :=
  ∃ written, (trigger id token m site).result = .ok written

/-- A trigger succeeds if it is permitted and the path of the flag can be written. -/
theorem succeeds_iff (hstored : site.registry.hooks.find? id = some hook) :
    Succeeds id token m site ↔ permission site.registry id token = .ok hook ∧
      FlagFile.fault? hook.flagFile = none ∧
      CanWrite m site.files (Path.join site.flagsDir hook.flagFile) := by
  constructor
  · -- a trigger that succeeded came past the permission, the path and the writing
    rintro ⟨written, h⟩
    cases hpermission : permission site.registry id token with
    | error e =>
      rw [trigger_result, hpermission] at h
      cases h
    | ok found =>
      obtain ⟨hfound, -⟩ := permission_eq_ok_iff.1 hpermission
      obtain rfl := Option.some.inj (hfound.symm.trans hstored)
      cases hfault : FlagFile.fault? found.flagFile with
      | some fault =>
        simp only [trigger_result, hpermission, raised, hfault] at h
        cases h
      | none =>
        rw [(trigger_of_permission hpermission hfault).1] at h
        rcases writeFlag_cases m site.files (Path.join site.flagsDir found.flagFile) with
          ⟨hcan, -, -⟩ | ⟨-, context, cause, herror⟩
        · exact ⟨rfl, rfl, hcan⟩
        · rw [herror] at h
          cases h
  · rintro ⟨hpermission, hfault, hcan⟩
    rw [Succeeds, (trigger_of_permission hpermission hfault).1]
    rcases writeFlag_cases m site.files (Path.join site.flagsDir hook.flagFile) with
      ⟨-, hwritten, -⟩ | ⟨hcannot, -⟩
    · exact hwritten
    · exact absurd hcan hcannot

/-- The second site is the first after the flag of a hook has been written. -/
structure Raised (m : Moment) (hook : Hook) (site site' : Site) : Prop where
  registry : site'.registry = site.registry
  flagsDir : site'.flagsDir = site.flagsDir
  flagged : Flagged m (Path.join site.flagsDir hook.flagFile) site.files site'.files

/-- A trigger that succeeds writes its flag and touches nothing but the files. -/
theorem Succeeds.raised (hstored : site.registry.hooks.find? id = some hook)
    (h : Succeeds id token m site) : Raised m hook site (trigger id token m site).site := by
  obtain ⟨hpermission, hfault, hcan⟩ := (succeeds_iff hstored).1 h
  rw [(trigger_of_permission hpermission hfault).2]
  exact ⟨rfl, rfl, flagged_of_canWrite hcan⟩

/-- Where nothing is yet, the trigger of a hook with a token succeeds. -/
theorem succeeds_of_freshRoot (hook : Hook) (hstored : site.registry.hooks.find? id = some hook)
    (henabled : hook.enabled = true) (htoken : hook.token ≠ "")
    (hfault : FlagFile.fault? hook.flagFile = none) (hfaults : m.faults = {})
    (hroot : FreshRoot site.files site.flagsDir)
    (hfits : Fits (Path.join site.flagsDir hook.flagFile))
    (hdot : (Path.segments hook.flagFile).getLast? ≠ some ".") :
    Succeeds id hook.token m site :=
  (succeeds_iff hstored).2 ⟨permission_of_token hstored henabled htoken, hfault,
    (canWrite_iff hfaults hroot hfault hfits).2 hdot⟩

-- ---------------------------------------------------------------------------
-- One trigger after another
-- ---------------------------------------------------------------------------

/-- The paths of two triggers that succeed are separate if the flags are apart. -/
theorem separate_iff_apart {hook' : Hook} {id' token' : String}
    (hstored : site.registry.hooks.find? id = some hook)
    (hstored' : site.registry.hooks.find? id' = some hook')
    (hne : Path.steps hook.flagFile ≠ Path.steps hook'.flagFile)
    (h : Succeeds id token m site) (h' : Succeeds id' token' n site) :
    Separate (Path.join site.flagsDir hook.flagFile) (Path.join site.flagsDir hook'.flagFile) ↔
      Apart hook.flagFile hook'.flagFile := by
  obtain ⟨-, hfault, hcan⟩ := (succeeds_iff hstored).1 h
  obtain ⟨-, hfault', hcan'⟩ := (succeeds_iff hstored').1 h'
  exact separate_join_iff (FlagFile.accepted_of_fault? hfault) (FlagFile.accepted_of_fault? hfault')
    (writable_of_canWrite hcan).apart (writable_of_canWrite hcan').apart hne

/-- Of two triggers that succeed, the one still does after the other if and only if the
flags are apart. -/
theorem succeeds_after_iff {hook' : Hook} {id' token' : String}
    (hstored : site.registry.hooks.find? id = some hook)
    (hstored' : site.registry.hooks.find? id' = some hook')
    (hne : Path.steps hook.flagFile ≠ Path.steps hook'.flagFile)
    (h : Succeeds id token m site) (h' : Succeeds id' token' n site) :
    Succeeds id' token' n (trigger id token m site).site ↔
      Apart hook.flagFile hook'.flagFile := by
  have hseparate := separate_iff_apart hstored hstored' hne h h'
  obtain ⟨-, hfault, -⟩ := (succeeds_iff hstored).1 h
  obtain ⟨hpermission', hfault', hcan'⟩ := (succeeds_iff hstored').1 h'
  obtain ⟨hregistry, hflagsDir, hflagged⟩ := h.raised hstored
  obtain ⟨hunfailing, hwritable'⟩ := canWrite_iff_writable.1 hcan'
  have hlocation : Path.locate (Path.join site.flagsDir hook.flagFile) ≠
      Path.locate (Path.join site.flagsDir hook'.flagFile) := fun heq =>
    hne ((locate_join_inj (FlagFile.accepted_of_fault? hfault)
      (FlagFile.accepted_of_fault? hfault')).1 heq)
  rw [← hregistry] at hstored' hpermission'
  rw [succeeds_iff hstored', and_iff_right hpermission', and_iff_right hfault', hflagsDir,
    canWrite_iff_writable, and_iff_right hunfailing, hflagged.writable_iff hwritable' hlocation,
    hseparate]

/-- **Independence of triggers.** Take two hooks whose flags have different components,
and a site where the trigger of either one succeeds, whenever it is pulled: `m` and `n'`
are the moments if the first hook is triggered before the second, `m'` and `n` those of
the other order. Then the second trigger succeeds, in the one order and in the other, if
and only if neither flag begins with all the components of the other. When it does, both
orders leave the same tree, but for the two flags; each flag is a file with the flag line
of its own trigger, which the other trigger has not touched. -/
theorem triggers_independent_iff (site : Site) (hook hook' : Hook) (id id' token token' : String)
    (m m' n n' : Moment) (hstored : site.registry.hooks.find? id = some hook)
    (hstored' : site.registry.hooks.find? id' = some hook')
    (hne : Path.steps hook.flagFile ≠ Path.steps hook'.flagFile)
    (hm : Succeeds id token m site) (hm' : Succeeds id' token' m' site)
    (hn : Succeeds id token n site) (hn' : Succeeds id' token' n' site) :
    let flag := Path.locate (Path.join site.flagsDir hook.flagFile)
    let flag' := Path.locate (Path.join site.flagsDir hook'.flagFile)
    let once := (trigger id token m site).site
    let once' := (trigger id' token' m' site).site
    let both := (trigger id' token' n' once).site
    let both' := (trigger id token n once').site
    (Succeeds id' token' n' once ↔ Apart hook.flagFile hook'.flagFile) ∧
    (Succeeds id token n once' ↔ Apart hook.flagFile hook'.flagFile) ∧
    (Apart hook.flagFile hook'.flagFile →
      (∀ l, l ≠ flag → l ≠ flag' → both.files.node? l = both'.files.node? l) ∧
      (HoldsFlag both.files flag m ∧ HoldsFlag both'.files flag n) ∧
      (HoldsFlag both.files flag' n' ∧ HoldsFlag both'.files flag' m') ∧
      (once.files.node? flag' = site.files.node? flag' ∧
        both'.files.node? flag' = once'.files.node? flag') ∧
      (once'.files.node? flag = site.files.node? flag ∧
        both.files.node? flag = once.files.node? flag)) := by
  intro flag flag' once once' both both'
  have hfirst := succeeds_after_iff hstored hstored' hne hm hn'
  have hsecond := (succeeds_after_iff hstored' hstored hne.symm hm' hn).trans and_comm
  refine ⟨hfirst, hsecond, fun hapart => ?_⟩
  have hsep := (separate_iff_apart hstored hstored' hne hm hm').2 hapart
  -- each of the four triggers writes its flag and changes nothing else of the site
  obtain ⟨hregistry, hflagsDir, honce⟩ := hm.raised hstored
  obtain ⟨hregistry', hflagsDir', honce'⟩ := hm'.raised hstored'
  rw [← hregistry] at hstored'
  rw [← hregistry'] at hstored
  have hboth := ((hfirst.2 hapart).raised hstored').flagged
  have hboth' := ((hsecond.2 hapart).raised hstored).flagged
  rw [hflagsDir] at hboth
  rw [hflagsDir'] at hboth'
  obtain ⟨hbefore, hkept, hflag⟩ := honce.undisturbed hboth hsep
  obtain ⟨hbefore', hkept', hflag'⟩ := honce'.undisturbed hboth' hsep.symm
  exact ⟨fun l hl hl' => honce.node?_either_order hboth honce' hboth' hl hl',
    ⟨hflag, hboth'.flag⟩, ⟨hboth.flag, hflag'⟩, ⟨hbefore, hkept'⟩, hbefore', hkept⟩

/-- Two flags in one directory, which neither of the two triggers finds there. -/
theorem siblings_independent :
    let m : Moment := ⟨Timestamp.epoch, 0, none, {}⟩
    let build : Hook := ⟨"build", "Build", "", "secret", "ci/build.flag", true,
      Timestamp.epoch, Timestamp.epoch⟩
    let deploy : Hook := ⟨"deploy", "Deploy", "", "secret", "./ci//deploy.flag", true,
      Timestamp.epoch, Timestamp.epoch⟩
    let site : Site := ⟨FileSystem.empty,
      ⟨(Collection.empty.insert build).insert deploy, none⟩, "flags"⟩
    Succeeds "build" "secret" m site ∧ Succeeds "deploy" "secret" m site ∧
      Succeeds "deploy" "secret" m (trigger "build" "secret" m site).site ∧
      Succeeds "build" "secret" m (trigger "deploy" "secret" m site).site := by
  intro m build deploy site
  obtain ⟨hstored, hstored'⟩ := Collection.empty.find?_insert_insert (show build.id ≠ deploy.id by decide)
  have hroot : FreshRoot site.files site.flagsDir := freshRoot_empty (by decide)
  have hbuild : Succeeds "build" "secret" m site := by
    refine succeeds_of_freshRoot build hstored rfl (by decide) (by decide) rfl hroot ?_
      (by decide)
    rw [show Path.join site.flagsDir build.flagFile = "flags/ci/build.flag" by decide]
    exact ⟨by decide, by decide⟩
  have hdeploy : Succeeds "deploy" "secret" m site := by
    refine succeeds_of_freshRoot deploy hstored' rfl (by decide) (by decide) rfl hroot ?_
      (by decide)
    rw [show Path.join site.flagsDir deploy.flagFile = "flags/./ci//deploy.flag" by decide]
    exact ⟨by decide, by decide⟩
  -- neither flag is on the way of the other
  have hboth := triggers_independent_iff site build deploy "build" "deploy" "secret" "secret"
    m m m m hstored hstored' (by decide) hbuild hdeploy hbuild hdeploy
  exact ⟨hbuild, hdeploy, hboth.1.2 (by decide), hboth.2.1.2 (by decide)⟩

/-- Two flags of which the one is where the other needs a directory. -/
theorem nested_flags_collide :
    let m : Moment := ⟨Timestamp.epoch, 0, none, {}⟩
    let outer : Hook := ⟨"a", "A", "", "secret", "a", true, Timestamp.epoch, Timestamp.epoch⟩
    let inner : Hook := ⟨"b", "B", "", "secret", "a/b", true, Timestamp.epoch, Timestamp.epoch⟩
    let site : Site := ⟨FileSystem.empty,
      ⟨(Collection.empty.insert outer).insert inner, none⟩, "flags"⟩
    outer.fault? = none ∧ inner.fault? = none ∧
      Path.steps outer.flagFile ≠ Path.steps inner.flagFile ∧
      Succeeds "a" "secret" m site ∧ Succeeds "b" "secret" m site ∧
      ¬ Succeeds "b" "secret" m (trigger "a" "secret" m site).site ∧
      ¬ Succeeds "a" "secret" m (trigger "b" "secret" m site).site := by
  intro m outer inner site
  obtain ⟨hstored, hstored'⟩ := Collection.empty.find?_insert_insert (show outer.id ≠ inner.id by decide)
  have hroot : FreshRoot site.files site.flagsDir := freshRoot_empty (by decide)
  have houter : Succeeds "a" "secret" m site := by
    refine succeeds_of_freshRoot outer hstored rfl (by decide) (by decide) rfl hroot ?_
      (by decide)
    rw [show Path.join site.flagsDir outer.flagFile = "flags/a" by decide]
    exact ⟨by decide, by decide⟩
  have hinner : Succeeds "b" "secret" m site := by
    refine succeeds_of_freshRoot inner hstored' rfl (by decide) (by decide) rfl hroot ?_
      (by decide)
    rw [show Path.join site.flagsDir inner.flagFile = "flags/a/b" by decide]
    exact ⟨by decide, by decide⟩
  have hne : Path.steps outer.flagFile ≠ Path.steps inner.flagFile := by decide
  refine ⟨by decide, by decide, hne, houter, hinner, fun h => ?_, fun h => ?_⟩
  · exact absurd ((succeeds_after_iff hstored hstored' hne houter hinner).1 h) (by decide)
  · exact absurd ((succeeds_after_iff hstored' hstored hne.symm hinner houter).1 h) (by decide)

end Service

end Flagpost
