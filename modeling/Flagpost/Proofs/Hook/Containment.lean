import Flagpost.Proofs.Hook.Management
import Flagpost.Proofs.Hook.Trigger

/-!
# Flagpost — triggers are contained in the flags directory

What a trigger makes or changes is below the flags directory, or it is a
directory that was missing on the way to it. This is so for one trigger of any
site (`Service.trigger_contained`): the flag file is checked again when it is
used, so nothing depends on what is in the store. So it is so for every trigger
in the life of a service whose store is edited by hand in between
(`Service.flags_contained`).
-/

namespace Flagpost

namespace Service

variable {m : Moment} {site : Site}

-- ---------------------------------------------------------------------------
-- One trigger
-- ---------------------------------------------------------------------------

/-- Is the one location strictly below the other? -/
def Below (root l : Location) : Prop := ∃ names, names ≠ [] ∧ l = root ++ names

/-- Between the two trees, every entry that has changed is strictly below the
directory, or it is the directory or one above it that was missing and has
been made. -/
def Contained (directory : String) (fs fs' : FileSystem) : Prop :=
  ∀ l, fs'.node? l ≠ fs.node? l →
    Below (Path.locate directory) l ∨
    fs.node? l = none ∧ fs'.node? l = some .directory ∧
      ∃ above ∈ Path.ancestors directory, l = Path.locate above

theorem contained_refl (directory : String) (fs : FileSystem) : Contained directory fs fs :=
  fun _ h => absurd rfl h

/-- What is on the way to an accepted path is on the way to the directory, or it is some
names further. -/
theorem prefix_join_cases {directory file : String} (h : FlagFile.Accepted file)
    {before : List String} (hb : before <+: Path.steps (Path.join directory file)) :
    before <+: Path.steps directory ∨ ∃ names, names ≠ [] ∧
      before = Path.steps directory ++ names ∧
      Path.reach before = Path.locate directory ++ names := by
  rw [Path.steps_join h.relative] at hb
  -- of two beginnings of one list, one begins with the other
  by_cases hlong : before.length ≤ (Path.steps directory).length
  · exact .inl (List.prefix_of_prefix_length_le hb (List.prefix_append _ _) hlong)
  · obtain ⟨names, rfl⟩ : Path.steps directory <+: before :=
      List.prefix_of_prefix_length_le (List.prefix_append _ _) hb (by omega)
    have hnames : names <+: Path.steps file := (List.prefix_append_right_inj _).1 hb
    refine .inr ⟨names, ?_, rfl, ?_⟩
    · rintro rfl
      simp at hlong
    · rw [Path.reach_append_names fun hm => (h.isName (hnames.subset hm)).notAbove rfl]
      rfl

/-- A place on the way to an accepted path is below the directory, or it is on
the way to the directory. -/
theorem below_or_above {directory file : String} (h : FlagFile.Accepted file) {l : Location}
    {before : List String} (hb : before <+: Path.steps (Path.join directory file))
    (hl : l = Path.reach before) :
    Below (Path.locate directory) l ∨ before <+: Path.steps directory := by
  rcases prefix_join_cases h hb with habove | ⟨names, hne, -, hreach⟩
  · exact .inr habove
  · exact .inl ⟨names, hne, hl.trans hreach⟩

theorem writeFlag_contained {file : String} (h : FlagFile.Accepted file) (m : Moment)
    (fs : FileSystem) (directory : String) :
    Contained directory fs (writeFlag m fs (Path.join directory file)).1 := by
  intro l hl
  rcases writeFlag_changes m fs (Path.join directory file) l with
    hsame | hpath | ⟨⟨before, hbefore, hreach⟩, hnone, hmade⟩
  · exact absurd hsame hl
  · exact .inl ⟨Path.steps file, h.steps_ne_nil, hpath.trans (h.locate_join directory)⟩
  · rcases below_or_above h hbefore hreach with hbelow | habove
    · exact .inl hbelow
    · -- the root was there, so what has been made is the location of some path above
      have hne : before ≠ [] := by
        rintro rfl
        rw [hreach, show Path.reach [] = [] from rfl, FileSystem.node?_nil] at hnone
        cases hnone
      obtain ⟨above, hmem, hsteps⟩ := Path.exists_ancestor habove hne
      exact .inr ⟨hnone, hmade, above, hmem, by rw [hreach, Path.locate, hsteps]⟩

/-- A trigger is contained in the flags directory, whatever the registry
holds. -/
theorem trigger_contained (m : Moment) (site : Site) (id token : String) :
    Contained site.flagsDir site.files (trigger id token m site).site.files := by
  rw [trigger_site]
  split
  · exact contained_refl _ _
  · rename_i hook _
    rw [raised]
    split
    · exact contained_refl _ _
    · rename_i haccepted
      exact writeFlag_contained (FlagFile.accepted_of_fault? haccepted) m site.files site.flagsDir

-- ---------------------------------------------------------------------------
-- The life of a service
-- ---------------------------------------------------------------------------

/-- What happens to a service: an operation is asked of it, or somebody edits
the file system and has the registry opened again, with whatever content. -/
inductive Happening
  | create (hook : Hook)
  | update (hook : Hook)
  | delete (id : String)
  | get (id : String)
  | trigger (id token : String)
  | edited (files : FileSystem) (registry : Registry)

/-- The site after something has happened. -/
def Happening.effect (m : Moment) (site : Site) : Happening → Site
  | .create hook => (createHook hook m site).site
  | .update hook => (updateHook hook m site).site
  | .delete id => (deleteHook id m site).site
  | .get id => (getHook id m site).site
  | .trigger id token => (Service.trigger id token m site).site
  | .edited files registry => { site with files := files, registry := registry }

/-- The sites before and after each thing that happens, one after the other. -/
def life (site : Site) : List (Moment × Happening) → List (Site × Happening × Site)
  | [] => []
  | (m, happening) :: rest =>
    (site, happening, happening.effect m site) :: life (happening.effect m site) rest

theorem Happening.flagsDir (m : Moment) (site : Site) (happening : Happening) :
    (happening.effect m site).flagsDir = site.flagsDir := by
  cases happening with
  | create hook =>
    rw [Happening.effect, createHook_site]
    split <;> rfl
  | update hook =>
    rw [Happening.effect, updateHook_site]
    split <;> rfl
  | delete id => rw [Happening.effect, deleteHook_site, Site.changed_flagsDir]
  | get id => rw [Happening.effect, getHook, find_site]
  | trigger id token =>
    rw [Happening.effect, trigger_site]
    split <;> rfl
  | edited files registry => rfl

/-- All through the life of a service, its triggers are contained in the flags
directory it began with. -/
theorem life_contained (site : Site) (events : List (Moment × Happening)) {before after : Site}
    {id token : String} (h : (before, .trigger id token, after) ∈ life site events) :
    Contained site.flagsDir before.files after.files := by
  induction events generalizing site with
  | nil => cases h
  | cons event events ih =>
    obtain ⟨m, happening⟩ := event
    rcases List.mem_cons.1 h with hfirst | hlater
    · cases hfirst
      exact trigger_contained m before id token
    · have hcontained := ih (happening.effect m site) hlater
      rw [Happening.flagsDir] at hcontained
      exact hcontained

/-- **Containment of flags.** An accepted flag file adds names to the
components of the flags directory, at least one, none of them leading anywhere
else or with a control character in it; so it is strictly below the directory
and never the directory itself. And whatever happens to a service, also if its
store is edited by hand in between, every entry that one of its triggers makes
or changes is strictly below the flags directory, or it is that directory or
one above it which did not exist. -/
theorem flags_contained :
    (∀ directory file : String, FlagFile.fault? file = none →
      ∃ names : List String, names ≠ [] ∧ (∀ name ∈ names, FlagFile.IsName name) ∧
        (Path.components (Path.join directory file)).filter (· != .current) =
          (Path.components directory).filter (· != .current) ++ names.map .name ∧
        Path.locate (Path.join directory file) = Path.locate directory ++ names ∧
        Path.locate (Path.join directory file) ≠ Path.locate directory) ∧
    ∀ (site : Site) (events : List (Moment × Happening)) (before after : Site)
      (id token : String), (before, .trigger id token, after) ∈ life site events →
        Contained site.flagsDir before.files after.files := by
  refine ⟨fun directory file h => ?_,
    fun site events before after id token h => life_contained site events h⟩
  have haccepted := FlagFile.accepted_of_fault? h
  have hlocate := haccepted.locate_join directory
  -- the names are the steps of the path, of which there is at least one
  refine ⟨Path.steps file, haccepted.steps_ne_nil, fun name hn => haccepted.isName hn,
    haccepted.components_join directory, hlocate, fun he => ?_⟩
  rw [hlocate] at he
  exact haccepted.steps_ne_nil (List.append_right_eq_self.1 he)

end Service

end Flagpost
