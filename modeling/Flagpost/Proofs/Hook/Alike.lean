import Flagpost.Proofs.Access.Credential
import Flagpost.Proofs.Hook.Management
import Flagpost.Proofs.Hook.Trigger
import Flagpost.Proofs.Hook.Veil

/-!
# Flagpost — actions that do not depend on tokens

Two sites are **alike** if they differ in nothing but the values of tokens: their
registries are alike, and their trees have one outline. Two actions are alike
(`Action.Alike`) if on alike sites they report the same events, leave alike sites
and fail for the same reasons.

Everything the service does with hooks is alike to itself, but for the one thing
that looks at a token: whether a trigger is permitted (`Service.permission_cases`).
Once that is settled, triggers are alike too.

* `Action.Alike.bind`      — actions that are put together of alike ones are alike;
* `Service.createHook_alike`, `updateHook_alike`, `deleteHook_alike`;
* `Service.trigger_alike`  — triggers on which the verdict is the same.
-/

namespace Flagpost

-- ---------------------------------------------------------------------------
-- Actions
-- ---------------------------------------------------------------------------

/-- Sites that differ in nothing but the values of tokens. -/
structure Site.Alike (site site' : Site) : Prop where
  files : site.files.outline = site'.files.outline
  registry : site.registry.Alike site'.registry
  flagsDir : site.flagsDir = site'.flagsDir

/-- The same events, sites that are alike, and answers that agree. -/
structure Outcome.Alike {α : Type} (R : α → α → Prop) (o o' : Outcome α) : Prop where
  events : o.events = o'.events
  site : o.site.Alike o'.site
  result : Agree R o.result o'.result

namespace Action

variable {α β : Type} {m m' : Moment} {site site' : Site} {R : α → α → Prop} {S : β → β → Prop}

/-- Actions that have outcomes that are alike at moments and on sites that are. -/
structure Alike (R : α → α → Prop) (a a' : Action α) : Prop where
  run : ∀ {m m' : Moment} {site site' : Site}, m.Alike m' → site.Alike site' →
    (a m site).Alike R (a' m' site')

/-- What follows outcomes that are alike is alike. -/
theorem bind_alike {first first' : Action α} {second second' : α → Action β} (hm : m.Alike m')
    (hfirst : (first m site).Alike R (first' m' site'))
    (hsecond : ∀ a a', R a a' → Alike S (second a) (second' a')) :
    ((first >>= second) m site).Alike S ((first' >>= second') m' site') := by
  show (andThen first second m site).Alike S (andThen first' second' m' site')
  rw [andThen, andThen]
  generalize first m site = o at *
  generalize first' m' site' = o' at *
  obtain ⟨site₁, events, result⟩ := o
  obtain ⟨site₁', events', result'⟩ := o'
  obtain ⟨hevents, hsite, hresult⟩ := hfirst
  cases hresult with
  | error e => exact ⟨hevents, hsite, .error e⟩
  | @ok a a' hR =>
    -- both go on, with values that are alike
    have hrest := (hsecond a a' hR).run hm hsite
    have hall : events ++ (second a m site₁).events = events' ++ (second' a' m' site₁').events := by
      rw [show events = events' from hevents, hrest.events]
    exact ⟨hall, hrest.site, hrest.result⟩

theorem Alike.bind {first first' : Action α} {second second' : α → Action β}
    (hfirst : Alike R first first') (hsecond : ∀ a a', R a a' → Alike S (second a) (second' a')) :
    Alike S (first >>= second) (first' >>= second') :=
  ⟨fun hm hsite => bind_alike hm (hfirst.run hm hsite) hsecond⟩

theorem pure_alike {a a' : α} (h : R a a') : Alike R (pure a : Action α) (pure a') :=
  ⟨fun _ hsite => ⟨rfl, hsite, .ok h⟩⟩

theorem fail_alike (e : HookError) : Alike R (fail e : Action α) (fail e) :=
  ⟨fun _ hsite => ⟨rfl, hsite, .error e⟩⟩

theorem report_alike (event : Event) : Alike (· = ·) (report event) (report event) :=
  ⟨fun _ hsite => ⟨rfl, hsite, .ok rfl⟩⟩

theorem look_alike {view view' : Moment → Site → α}
    (h : ∀ {m m' : Moment} {site site' : Site}, m.Alike m' → site.Alike site' →
      R (view m site) (view' m' site')) : Alike R (look view) (look view') :=
  ⟨fun hm hsite => ⟨rfl, hsite, .ok (h hm hsite)⟩⟩

theorem reportFailure_alike (event? : HookError → Option Event) {a a' : Action α}
    (h : Alike R a a') : Alike R (reportFailure event? a) (reportFailure event? a') := by
  refine ⟨fun {m m' site site'} hm hsite => ?_⟩
  have ho := h.run hm hsite
  rw [reportFailure, reportFailure]
  generalize a m site = o at *
  generalize a' m' site' = o' at *
  obtain ⟨site₁, events, result⟩ := o
  obtain ⟨site₁', events', result'⟩ := o'
  obtain ⟨hevents, hsite₁, hresult⟩ := ho
  cases hresult with
  | ok hR => exact ⟨hevents, hsite₁, .ok hR⟩
  | error e => exact ⟨congrArg (· ++ (event? e).toList) hevents, hsite₁, .error e⟩

theorem ofChange_alike {change change' : Moment → FileSystem → Registry → Registry.Change α}
    (h : ∀ {m m' : Moment} {fs fs' : FileSystem} {r r' : Registry}, m.Alike m' →
      fs.outline = fs'.outline → r.Alike r' →
      Registry.Change.Alike R (change m fs r) (change' m' fs' r')) :
    Alike R (ofChange change) (ofChange change') := by
  refine ⟨fun hm hsite => ?_⟩
  have hc := h hm hsite.files hsite.registry
  exact ⟨rfl, ⟨hc.files, hc.registry, hsite.flagsDir⟩, hc.result⟩

end Action

-- ---------------------------------------------------------------------------
-- The service
-- ---------------------------------------------------------------------------

namespace Service

open Flagpost.Action (Alike)

variable {m m' : Moment} {fs fs' : FileSystem} {site site' : Site} {hook hook' : Hook}
variable {id path token token' : String}

/-- Fresh tokens differ, but whether the random source has failed is seen in both
runs. -/
theorem generateToken_alike :
    Alike (fun token token' : String => veil token = veil token') generateToken generateToken := by
  refine ⟨fun {m m' _ _} hm hsite => ⟨?_, hsite, .ok ?_⟩⟩
  · exact Token.generationEvents_eq hm.random
  · rw [veil_of_ne (Token.generate_ne m.nanos m.random),
      veil_of_ne (Token.generate_ne m'.nanos m'.random)]

theorem check_alike (hhook : hook.veiled = hook'.veiled) :
    Alike (· = ·) (check hook) (check hook') := by
  rw [check, check, Hook.id_of_veiled hhook, Hook.fault?_of_veiled hhook]
  refine Action.reportFailure_alike _ ?_
  cases hook'.fault? with
  | none => exact Action.pure_alike rfl
  | some fault => exact Action.fail_alike _

theorem find_alike (message id : String) :
    Alike SameButToken (find message id) (find message id) := by
  refine Action.reportFailure_alike _ ⟨fun _ hsite => ?_⟩
  exact ⟨rfl, hsite, Registry.find_alike hsite.registry id⟩

theorem allHooks_alike : Alike (fun _ _ => True) allHooks allHooks :=
  ⟨fun _ hsite => ⟨rfl, hsite, .ok trivial⟩⟩

theorem createHook_alike (hhook : hook.veiled = hook'.veiled) :
    Alike SameButToken (createHook hook) (createHook hook') := by
  refine (check_alike hhook).bind fun _ _ _ => ?_
  rw [Hook.id_of_veiled hhook]
  refine (Action.reportFailure_alike _ (Action.ofChange_alike fun hm hfs hr =>
    Registry.create_alike hm hfs hr hhook)).bind fun created created' hcreated => ?_
  rw [Hook.id_of_veiled hcreated]
  exact (Action.report_alike _).bind fun _ _ _ => Action.pure_alike hcreated

theorem updateHook_alike (hhook : hook.veiled = hook'.veiled) :
    Alike SameButToken (updateHook hook) (updateHook hook') := by
  refine (check_alike hhook).bind fun _ _ _ => ?_
  rw [Hook.id_of_veiled hhook]
  refine (Action.reportFailure_alike _ (Action.ofChange_alike fun hm hfs hr =>
    Registry.update_alike hm hfs hr hhook)).bind fun updated updated' hupdated => ?_
  rw [Hook.id_of_veiled hupdated, Hook.enabled_of_veiled hupdated]
  exact (Action.report_alike _).bind fun _ _ _ => Action.pure_alike hupdated

theorem deleteHook_alike (id : String) : Alike (· = ·) (deleteHook id) (deleteHook id) := by
  refine (Action.reportFailure_alike _ (Action.ofChange_alike fun hm hfs hr =>
    Registry.delete_alike hm hfs hr id)).bind fun _ _ _ => ?_
  exact Action.report_alike _

-- ---------------------------------------------------------------------------
-- Triggers
-- ---------------------------------------------------------------------------

/-- On sites that are alike, a trigger is permitted on both, or refused on both for
the same reason, or the one token is right and the other is not. -/
theorem permission_cases {r r' : Registry} (h : r.Alike r') (id token token' : String) :
    Agree SameButToken (permission r id token) (permission r' id token') ∨
      (∃ hook, permission r id token = .ok hook ∧
        permission r' id token' = .error (.invalidToken id)) ∨
      ∃ hook, permission r id token = .error (.invalidToken id) ∧
        permission r' id token' = .ok hook := by
  rw [permission, permission]
  rcases Collection.find?_of_veiled h.hooks id with ⟨hnone, hnone'⟩ | ⟨a, b, ha, hb, hab⟩
  · rw [hnone, hnone']
    exact .inl (.error _)
  · rw [ha, hb]
    dsimp only
    -- whether the hook is enabled does not depend on its token
    rw [Hook.enabled_of_veiled hab]
    split
    · exact .inl (.error _)
    · split
      · split
        · exact .inl (.error _)
        · exact .inr (.inr ⟨b, rfl, rfl⟩)
      · split
        · exact .inr (.inl ⟨a, rfl, rfl⟩)
        · exact .inl (.ok hab)

/-- What is reported about the verdict on a trigger. -/
def verdictEvents (id : String) : Except HookError Hook → List Event
  | .ok _ => []
  | .error (.disabled _) => [⟨.warn, .hooks, "hook is disabled", [("id", .shown id)]⟩]
  | .error (.invalidToken _) => [⟨.warn, .auth, "invalid hook token", [("id", .shown id)]⟩]
  | .error e => (failure "failed to get hook for token validation" id e).toList

theorem verdictEvents_eq {verdict verdict' : Except HookError Hook}
    (h : Agree SameButToken verdict verdict') :
    verdictEvents id verdict = verdictEvents id verdict' := by
  cases h <;> rfl

theorem authorise_eq (id token : String) : authorise id token m site =
    ⟨site, verdictEvents id (permission site.registry id token),
      permission site.registry id token⟩ := by
  show Action.andThen (find _ id) _ m site = _
  unfold Action.andThen find Action.reportFailure Action.ofExcept Registry.find permission
  dsimp only
  cases site.registry.hooks.find? id with
  | none => rfl
  | some hook =>
    dsimp only
    cases hook.enabled with
    | false => rfl
    | true =>
      cases Token.authorises token hook.token with
      | false => rfl
      | true => rfl

theorem makeFlagDirectory_outline (m : Moment) (fs : FileSystem) (path : String) :
    makeFlagDirectory m fs.outline path =
      ((makeFlagDirectory m fs path).1.outline, (makeFlagDirectory m fs path).2) := by
  rw [makeFlagDirectory, makeFlagDirectory]
  cases Path.parent? path with
  | none => rfl
  | some parent =>
    dsimp only
    rw [FileSystem.makeDirectories_outline]
    cases m.faults.makeDirectory with
    | some e => rfl
    | none =>
      cases fs.makeDirectories parent with
      | mk made result => cases result <;> rfl

/-- A flag file is written or not for what the outlines tell. -/
theorem writeFlagFile_alike (hm : m.Alike m') (hfs : fs.outline = fs'.outline) (path : String) :
    (writeFlagFile m fs path).1.outline = (writeFlagFile m' fs' path).1.outline ∧
      Agree (· = ·) (writeFlagFile m fs path).2 (writeFlagFile m' fs' path).2 := by
  have hcreate := FileSystem.unlessFault_map m.faults.create (fs.create path)
    fun opened => (opened.1.outline, opened.2)
  have hcreate' := FileSystem.unlessFault_map m.faults.create (fs'.create path)
    fun opened => (opened.1.outline, opened.2)
  rw [FileSystem.create, ← FileSystem.openFile_outline, hfs, FileSystem.openFile_outline] at hcreate
  rw [FileSystem.create] at hcreate'
  -- the file is opened alike in both trees, for the outlines decide how
  rw [writeFlagFile, writeFlagFile, ← hm.faults, ← hm.now, FileSystem.create, FileSystem.create]
  rcases map_eq_map (hcreate.symm.trans hcreate') with ⟨e, he, he'⟩ | ⟨a, b, ha, hb, hab⟩
  · rw [he, he']
    exact ⟨hfs, .error _⟩
  · obtain ⟨opened, number⟩ := a
    obtain ⟨opened', number'⟩ := b
    obtain ⟨houtline, rfl⟩ := Prod.mk.inj hab
    rw [ha, hb]
    cases m.faults.write with
    | some e => exact ⟨houtline, .error _⟩
    | none =>
      -- what is appended is not in the outline
      refine ⟨?_, .ok rfl⟩
      show (opened.append number _).outline = (opened'.append number _).outline
      rw [FileSystem.outline_append, FileSystem.outline_append]
      exact houtline

theorem writeFlag_alike (hm : m.Alike m') (hfs : fs.outline = fs'.outline) (path : String) :
    (writeFlag m fs path).1.outline = (writeFlag m' fs' path).1.outline ∧
      Agree (· = ·) (writeFlag m fs path).2 (writeFlag m' fs' path).2 := by
  -- the directories are made alike, for only the outlines and the faults decide
  have hmade : ((makeFlagDirectory m fs path).1.outline, (makeFlagDirectory m fs path).2) =
      ((makeFlagDirectory m' fs' path).1.outline, (makeFlagDirectory m' fs' path).2) := by
    rw [← makeFlagDirectory_outline, ← makeFlagDirectory_outline, hfs, makeFlagDirectory,
      makeFlagDirectory, hm.faults]
  obtain ⟨houtline, hresult⟩ := Prod.mk.inj hmade
  rw [writeFlag, writeFlag]
  generalize makeFlagDirectory m fs path = x at *
  generalize makeFlagDirectory m' fs' path = y at *
  obtain ⟨made, result⟩ := x
  obtain ⟨made', result'⟩ := y
  cases hresult
  cases result with
  | error e => exact ⟨houtline, .error e⟩
  | ok _ => exact writeFlagFile_alike hm houtline path

theorem raiseFlag_alike (hhook : hook.veiled = hook'.veiled) :
    Alike (· = ·) (raiseFlag hook) (raiseFlag hook') := by
  refine ⟨fun {m m' site site'} hm hsite => ?_⟩
  have hwrite := writeFlag_alike hm hsite.files (Path.join site.flagsDir hook.flagFile)
  rw [raiseFlag, raiseFlag, ← Hook.flagFile_of_veiled hhook, ← hsite.flagsDir]
  cases FlagFile.fault? hook.flagFile with
  | some fault => exact ⟨rfl, hsite, .error _⟩
  | none => exact ⟨rfl, ⟨hwrite.1, hsite.registry, rfl⟩, hwrite.2⟩

/-- Triggers on which the verdict is the same are alike. -/
theorem trigger_alike (hm : m.Alike m') (hsite : site.Alike site')
    (hverdict : Agree SameButToken (permission site.registry id token)
      (permission site'.registry id token')) :
    (trigger id token m site).Alike (· = ·) (trigger id token' m' site') := by
  have hauthorise :
      (authorise id token m site).Alike SameButToken (authorise id token' m' site') := by
    rw [authorise_eq, authorise_eq]
    exact ⟨verdictEvents_eq hverdict, hsite, hverdict⟩
  refine Action.bind_alike hm hauthorise fun hook hook' hhook => ?_
  rw [Hook.flagFile_of_veiled hhook]
  refine (Action.reportFailure_alike _ (raiseFlag_alike hhook)).bind fun written written' h => ?_
  exact (Action.report_alike _).bind fun _ _ _ => Action.pure_alike h

end Service

end Flagpost
