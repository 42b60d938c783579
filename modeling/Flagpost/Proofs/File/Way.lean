import Flagpost.Proofs.File.Siblings

/-!
# Flagpost — making the directories above a path

A way without files can be gone along as far as it exists, and the rest of it
can be made. The paths above a path are made from the longest one that exists:
each of them is the one above it and one more step, so one step is what has to
be looked at (`FileSystem.made_of_resolve`), and the induction goes up the paths
(`FileSystem.makeFirst_upwards`).

* `FileSystem.descend_of_clear`  — a way without files leads somewhere, or ends
  where a directory is missing.
* `FileSystem.paved_of_descend`, `descend_append` — a way with directories all
  along is what is gone along, and going on begins where it ends.
* `FileSystem.EndsIn.resolve_of_paved`, `EndsIn.paved_of_resolve` — a path that ends in a
  name leads to it where there are directories all along, and nowhere else.
* `FileSystem.EndsIn.makeDirectories_parent` — the directories above a path that
  ends in a name are made, and the path then leads to the name.
-/

namespace Flagpost

namespace FileSystem

variable {fs fs' : FileSystem} {path : String} {slash : Bool} {done segments : List String}

/-- No file stands anywhere on the way that some steps make from the top. -/
def Clear (fs : FileSystem) (steps : List String) : Prop :=
  ∀ before, before <+: steps → ∀ number content,
    fs.node? (Path.reach before) ≠ some (.file number content)

/-- There are directories all along the way that some steps make from the top. -/
def Paved (fs : FileSystem) (steps : List String) : Prop :=
  ∀ before, before <+: steps → fs.Open (Path.reach before)

/-- No segment is longer than a name may be. -/
def Short (segments : List String) : Prop := ∀ s ∈ segments, s.utf8ByteSize ≤ maxName

instance : DecidablePred Short := fun segments =>
  inferInstanceAs (Decidable (∀ s ∈ segments, s.utf8ByteSize ≤ maxName))

theorem Clear.of_prefix {steps steps' : List String} (h : fs.Clear steps) (hp : steps' <+: steps) :
    fs.Clear steps' := fun before hbefore => h before (hbefore.trans hp)

theorem Clear.of_builds {P : Location → Prop} {steps : List String} (h : fs.Clear steps)
    (hbuilds : Builds P fs fs') : fs'.Clear steps :=
  fun before hbefore number content hfile => h before hbefore number content (hbuilds.file hfile)

theorem paved_nil (fs : FileSystem) : fs.Paved [] := by
  intro before hbefore
  rw [List.prefix_nil.1 hbefore]
  exact open_nil fs

theorem Paved.concat {step : String} (h : fs.Paved done)
    (hstep : fs.Open (Path.reach (done ++ [step]))) : fs.Paved (done ++ [step]) := by
  intro before hbefore
  rcases List.prefix_concat_iff.1 hbefore with rfl | hbefore
  · exact hstep
  · exact h before hbefore

-- ---------------------------------------------------------------------------
-- Going along a way
-- ---------------------------------------------------------------------------

/-- A way without files leads somewhere, or it ends where a directory is missing. -/
theorem descend_of_clear (done : List String) (hempty : "" ∉ segments) (hshort : Short segments)
    (hclear : fs.Clear (done ++ segments.filter Path.isStep)) :
    (∃ place, fs.descend slash (Path.reach done) segments = .ok place) ∨
      fs.descend slash (Path.reach done) segments = .error .notFound := by
  induction segments generalizing done with
  | nil => exact .inl ⟨_, rfl⟩
  | cons segment rest ih =>
    obtain ⟨hne, hnone⟩ := List.ne_and_not_mem_of_not_mem_cons hempty
    obtain ⟨hfits, hfit⟩ := List.forall_mem_cons.1 hshort
    rw [descend]
    -- a dot stays where it is, so the way is no longer
    by_cases hdot : segment = "."
    · subst hdot
      rw [if_pos rfl]
      exact ih _ hnone hfit hclear
    rw [Path.append_filter_isStep hne.symm hdot] at hclear
    rw [if_neg hdot]
    -- two dots go up to where the way has been already
    by_cases hdots : segment = ".."
    · subst hdots
      rw [if_pos rfl, ← Path.reach_up]
      exact ih _ hnone hfit hclear
    rw [if_neg hdots, if_neg (by omega), ← Path.reach_name hdots]
    -- a name; it is the last one, or there has to be a directory
    split
    · exact .inl ⟨_, rfl⟩
    cases hnode : fs.node? (Path.reach (done ++ [segment])) with
    | none => exact .inr rfl
    | some node =>
      cases node with
      | directory => exact ih _ hnone hfit hclear
      | file number content =>
        exact absurd hnode (hclear _ (List.prefix_append _ _) number content)

/-- A way that leads to a directory has directories all along. -/
theorem paved_of_descend {place : Place} (done : List String) (hempty : "" ∉ segments)
    (hdone : fs.Paved done)
    (h : fs.descend slash (Path.reach done) segments = .ok place)
    (hnode : ∀ directory name slash', place = .name directory name slash' →
      fs.node? (directory ++ [name]) = some .directory) :
    fs.Paved (done ++ segments.filter Path.isStep) := by
  induction segments generalizing done with
  | nil =>
    rw [List.filter_nil, List.append_nil]
    exact hdone
  | cons segment rest ih =>
    obtain ⟨hne, hnone⟩ := List.ne_and_not_mem_of_not_mem_cons hempty
    have hhere : fs.Open (Path.reach done) := hdone done (List.prefix_refl done)
    rw [descend] at h
    by_cases hdot : segment = "."
    · subst hdot
      rw [if_pos rfl] at h
      exact ih _ hnone hdone h
    rw [Path.append_filter_isStep hne.symm hdot]
    rw [if_neg hdot] at h
    by_cases hdots : segment = ".."
    · subst hdots
      rw [if_pos rfl, ← Path.reach_up] at h
      -- going up comes back to a directory of the way
      refine ih _ hnone (hdone.concat ?_) h
      rw [Path.reach_up]
      exact hhere.of_prefix (List.dropLast_prefix _)
    rw [if_neg hdots] at h
    have hstep : fs.node? (Path.reach done ++ [segment]) = some .directory →
        fs.Paved (done ++ [segment]) := by
      intro hdirectory
      refine hdone.concat ?_
      rw [Path.reach_name hdots]
      exact hhere.snoc hdirectory
    split at h
    · cases h
    -- the last segment, where the hypothesis gives the directory
    split at h
    · rename_i hrest
      cases h
      rw [List.isEmpty_iff.1 hrest, List.filter_nil, List.append_nil]
      exact hstep (hnode _ _ _ rfl)
    · -- a segment in between, where the walk went on because of the directory
      split at h
      · rename_i hdirectory
        rw [← Path.reach_name hdots] at h
        exact ih _ hnone (hstep hdirectory) h
      · cases h
      · cases h

/-- Where there are directories all along, going on begins where they end. -/
theorem descend_append {behind : List String} (done : List String) (hbehind : behind ≠ [])
    (hempty : "" ∉ segments) (hshort : Short segments)
    (hpaved : fs.Paved (done ++ segments.filter Path.isStep)) :
    fs.descend slash (Path.reach done) (segments ++ behind) =
      fs.descend slash (Path.reach (done ++ segments.filter Path.isStep)) behind := by
  induction segments generalizing done with
  | nil => rw [List.nil_append, List.filter_nil, List.append_nil]
  | cons segment rest ih =>
    obtain ⟨hne, hnone⟩ := List.ne_and_not_mem_of_not_mem_cons hempty
    obtain ⟨hfits, hfit⟩ := List.forall_mem_cons.1 hshort
    rw [List.cons_append, descend]
    -- a dot, two dots and a name each lead on along the paved way
    by_cases hdot : segment = "."
    · subst hdot
      rw [if_pos rfl]
      exact ih _ hnone hfit hpaved
    rw [Path.append_filter_isStep hne.symm hdot] at hpaved ⊢
    rw [if_neg hdot]
    by_cases hdots : segment = ".."
    · subst hdots
      rw [if_pos rfl, ← Path.reach_up]
      exact ih _ hnone hfit hpaved
    · have hhere := (hpaved _ (List.prefix_append _ _)).node?
      rw [if_neg hdots, if_neg (by omega), if_neg (by simp [hbehind]), ← Path.reach_name hdots, hhere]
      exact ih _ hnone hfit hpaved

theorem descend_singleton {segment : String} (hfits : segment.utf8ByteSize ≤ maxName)
    (here : Location) : ∃ place, fs.descend slash here [segment] = .ok place := by
  rw [descend]
  split
  · exact ⟨_, rfl⟩
  split
  · exact ⟨_, rfl⟩
  rw [if_neg (by omega), if_pos List.isEmpty_nil]
  exact ⟨_, rfl⟩

-- ---------------------------------------------------------------------------
-- One directory
-- ---------------------------------------------------------------------------

/-- The tree after a directory has been made, or has been found to be there
already. -/
def Made (fs : FileSystem) (path : String) (fs' : FileSystem) : Prop :=
  fs.makeDirectory path = .ok fs' ∨
    fs.makeDirectory path = .error .alreadyExists ∧ fs.isDirectory path = true ∧ fs' = fs

/-- What has been made is what the first path asked for, if it needed no other. -/
theorem Made.makeFirst (h : fs.Made path fs') (above : List String) :
    fs.makeFirst (path :: above) = (fs', .ok ()) := by
  rcases h with hmade | ⟨hexists, hdirectory, rfl⟩
  · rw [FileSystem.makeFirst, hmade]
  · rw [FileSystem.makeFirst, hexists]
    exact if_pos hdirectory

/-- What could not be made before those above it is made after them. -/
theorem Made.makeFirst_after {fs₁ : FileSystem} {above : List String}
    (hmissing : fs.makeDirectory path = .error .notFound)
    (habove : fs.makeFirst above = (fs₁, .ok ())) (h : fs₁.Made path fs') :
    fs.makeFirst (path :: above) = (fs', .ok ()) := by
  rw [FileSystem.makeFirst, hmissing]
  dsimp only
  rw [habove]
  dsimp only
  rcases h with hmade | ⟨hexists, hdirectory, rfl⟩
  · rw [hmade]
  · rw [hexists]
    exact if_pos hdirectory

/-- A path that leads somewhere on a way without files becomes a directory. -/
theorem made_of_resolve {place : Place} (h : fs.resolve path = .ok place)
    (hclear : fs.Clear (Path.steps path)) : ∃ fs', fs.Made path fs' ∧ fs'.Paved (Path.steps path) := by
  have hdescend := (resolve_eq_ok_iff.1 h).2
  have hempty := empty_not_mem_walk path
  -- a directory where the path leads paves the whole way there
  have hpaved : ∀ fs' : FileSystem, fs'.resolve path = .ok place →
      (∀ directory name slash, place = .name directory name slash →
        fs'.node? (directory ++ [name]) = some .directory) → fs'.Paved (Path.steps path) := by
    intro fs' h' hnode
    have := paved_of_descend [] hempty (paved_nil fs') (resolve_eq_ok_iff.1 h').2 hnode
    rwa [List.nil_append, ← steps_eq_walk] at this
  cases place with
  | dots location =>
    refine ⟨fs, .inr ⟨?_, ?_, rfl⟩, hpaved fs h fun _ _ _ hplace => nomatch hplace⟩
    · -- dots lead to a directory that is there
      simp [makeDirectory, h]
    · simp [isDirectory, find, h]
  | name directory name slash =>
    have hlocation : directory ++ [name] = Path.locate path := resolve_location h
    cases hnode : fs.node? (directory ++ [name]) with
    | none =>
      -- the directory is new, and the path leads there as before
      have hbuilds : Builds (· = Path.locate path) fs (fs.addDirectory (directory ++ [name])) := by
        refine makeDirectory_builds ?_
        simp [makeDirectory, h, hnode]
      refine ⟨fs.addDirectory (directory ++ [name]), .inl ?_, hpaved _ ?_ ?_⟩
      · simp [makeDirectory, h, hnode]
      · exact resolve_of_keepsOpen hbuilds.keepsOpen h
      · rintro directory' name' slash' hplace
        cases hplace
        rw [node?_addDirectory, if_pos rfl]
    | some node =>
      cases node with
      | directory =>
        -- the directory has been there before
        refine ⟨fs, .inr ⟨?_, ?_, rfl⟩, hpaved fs h ?_⟩
        · simp [makeDirectory, h, hnode]
        · simp [isDirectory, find, h, hnode]
        · rintro directory' name' slash' hplace
          cases hplace
          exact hnode
      | file number content =>
        -- a file there would be on the way
        rw [hlocation] at hnode
        exact absurd hnode (hclear _ (List.prefix_refl _) number content)

-- ---------------------------------------------------------------------------
-- A directory and those above it
-- ---------------------------------------------------------------------------

theorem resolve_of_isPath (h : IsPath path) : fs.resolve path =
    fs.descend (path.toList.getLast? == some '/') [] (walk path) := by
  rw [resolve, h.1, if_neg (by decide), if_neg (by simpa using h.2.1), if_neg (by have := h.2.2; omega),
    walk]

theorem IsPath.of_append {behind : String} (h : IsPath (path ++ behind)) (hne : path ≠ "") :
    IsPath path := by
  obtain ⟨hnul, -, hshort⟩ := h
  rw [String.toList_append, List.contains_append, Bool.or_eq_false_iff] at hnul
  rw [String.utf8ByteSize_append] at hshort
  exact ⟨hnul.1, hne, by omega⟩

/-- A path on a way without files that leads nowhere is one whose directory is
missing. -/
theorem makeDirectory_of_not_resolve (hpath : IsPath path) (hshort : Short (walk path))
    (hclear : fs.Clear (Path.steps path)) (h : ∀ place, fs.resolve path ≠ .ok place) :
    fs.makeDirectory path = .error .notFound := by
  rw [steps_eq_walk] at hclear
  rw [makeDirectory]
  rcases descend_of_clear [] (empty_not_mem_walk path) hshort hclear with ⟨place, hplace⟩ | hmissing
  · exact absurd (resolve_eq_ok_iff.2 ⟨hpath, hplace⟩) (h place)
  · rw [(resolve_of_isPath hpath).trans hmissing]

/-- Behind a way of directories, the last segment is all that is left to go. -/
theorem resolve_of_paved {before : List String} {last : String} (hpath : IsPath path)
    (hwalk : walk path = before ++ [last]) (hshort : Short before)
    (hpaved : fs.Paved (before.filter Path.isStep)) : fs.resolve path =
      fs.descend (path.toList.getLast? == some '/') (Path.reach (before.filter Path.isStep)) [last] := by
  have hempty : "" ∉ before := fun h => empty_not_mem_walk path (hwalk ▸ List.mem_append_left _ h)
  rw [resolve_of_isPath hpath, hwalk]
  exact descend_append [] (List.cons_ne_nil _ _) hempty hshort hpaved

/-- The path above a path is one that the system takes, unless it is empty. -/
theorem isPath_above {reversed above : List String} (h : Path.above? reversed = some above)
    (hpath : IsPath (Path.ofSegments reversed.reverse)) (hne : above ≠ []) :
    IsPath (Path.ofSegments above.reverse) := by
  obtain ⟨behind, hbehind⟩ := Path.ofSegments_above? h
  rw [hbehind] at hpath
  exact hpath.of_append (Path.ofSegments_ne_empty (by simpa using hne))

/-- A path leads somewhere as soon as the one above it leads to a directory. -/
theorem resolve_of_above {last : String} {rest : List String}
    (hslash : ∀ s ∈ last :: rest, '/' ∉ s.toList) (hlast : last ≠ "")
    (hpath : IsPath (Path.ofSegments (last :: rest).reverse)) (hshort : Short (last :: rest))
    (hpaved : fs.Paved (rest.reverse.filter Path.isStep)) :
    ∃ place, fs.resolve (Path.ofSegments (last :: rest).reverse) = .ok place := by
  have hwalk : walk (Path.ofSegments (last :: rest).reverse) =
      rest.reverse.filter (· != "") ++ [last] := by
    rw [walk, Path.filter_segments_ofSegments rfl fun s hs => hslash s (List.mem_reverse.1 hs),
      List.reverse_cons, List.filter_append, List.filter_cons_of_pos (by simpa using hlast),
      List.filter_nil]
  rw [← Path.filter_isStep] at hpaved
  obtain ⟨hfits, hshort⟩ := List.forall_mem_cons.1 hshort
  rw [resolve_of_paved hpath hwalk ?_ hpaved]
  · exact descend_singleton hfits _
  · exact fun s hs => hshort s (List.mem_reverse.1 (List.mem_filter.1 hs).1)

/-- The path that some segments make and those above it are made directories, nearest
first, where no file stands on the way. -/
theorem makeFirst_upwards {reversed : List String} (hslash : ∀ s ∈ reversed, '/' ∉ s.toList)
    (hidle : Path.dropIdle reversed = reversed)
    (hpath : reversed ≠ [] → IsPath (Path.ofSegments reversed.reverse)) (hshort : Short reversed)
    (hclear : fs.Clear (reversed.reverse.filter Path.isStep)) :
    ∃ fs', fs.makeFirst (Path.upwards reversed) = (fs', .ok ()) ∧
      fs'.Paved (reversed.reverse.filter Path.isStep) := by
  fun_induction Path.upwards reversed with
  | case1 => exact ⟨fs, rfl, paved_nil fs⟩
  | case2 reversed hne ih =>
    have hpath := hpath hne
    have hslash' : ∀ s ∈ reversed.reverse, '/' ∉ s.toList :=
      fun s hs => hslash s (List.mem_reverse.1 hs)
    have hsteps := Path.steps_ofSegments hslash'
    have hwalk : walk (Path.ofSegments reversed.reverse) = reversed.reverse.filter (· != "") :=
      Path.filter_segments_ofSegments rfl hslash'
    rw [← hsteps] at hclear ⊢
    by_cases hresolve : ∃ place, fs.resolve (Path.ofSegments reversed.reverse) = .ok place
    · obtain ⟨place, hplace⟩ := hresolve
      obtain ⟨fs', hmade, hpaved⟩ := made_of_resolve hplace hclear
      exact ⟨fs', hmade.makeFirst _, hpaved⟩
    -- the directory above is missing: it is made first, and one more step is left
    have hmissing : fs.makeDirectory (Path.ofSegments reversed.reverse) = .error .notFound := by
      refine makeDirectory_of_not_resolve hpath ?_ hclear fun place hplace => hresolve ⟨place, hplace⟩
      rw [hwalk]
      exact fun s hs => hshort s (List.mem_reverse.1 (List.mem_filter.1 hs).1)
    obtain ⟨last, rest, rfl⟩ := List.exists_cons_of_ne_nil hne
    have hroot : last :: rest ≠ [""] := by
      intro hroot
      rw [hroot] at hresolve
      exact hresolve ⟨.dots [], rfl⟩
    have hlast : last ≠ "" := fun hlast => hroot (by rw [Path.dropIdle_cons hidle hlast, hlast])
    have habove := Path.above?_cons hroot hidle
    have hsuffix := Path.above?_suffix habove
    split
    · rename_i above heq
      cases habove.symm.trans heq
      have hprefix : (Path.dropIdle rest).reverse.filter Path.isStep <+:
          Path.steps (Path.ofSegments (last :: rest).reverse) := by
        rw [hsteps, Path.steps_dropIdle, List.reverse_cons, List.filter_append]
        exact List.prefix_append _ _
      obtain ⟨fs₁, hmade, hpaved⟩ := ih _ habove (fun s hs => hslash s (hsuffix.subset hs))
        (Path.dropIdle_dropIdle rest) (isPath_above habove hpath)
        (fun s hs => hshort s (hsuffix.subset hs)) (hclear.of_prefix hprefix)
      rw [Path.steps_dropIdle] at hpaved
      obtain ⟨place, hplace⟩ := resolve_of_above hslash hlast hpath hshort hpaved
      have hclear' : fs₁.Clear (Path.steps (Path.ofSegments (last :: rest).reverse)) := by
        have hbuilds := makeFirst_builds fs (Path.upwards (Path.dropIdle rest))
        rw [hmade] at hbuilds
        exact hclear.of_builds hbuilds
      obtain ⟨fs', hlast, hpaved'⟩ := made_of_resolve hplace hclear'
      exact ⟨fs', hlast.makeFirst_after hmissing hmade, hpaved'⟩
    · rename_i heq
      cases habove.symm.trans heq

-- ---------------------------------------------------------------------------
-- The directories above a file
-- ---------------------------------------------------------------------------

namespace EndsIn

variable {before : List String} {name : String}

/-- The segments of a path that ends in a name end in that name. -/
theorem segments_eq (he : EndsIn path before name) :
    ∃ front, Path.segments path = front ++ [name] ∧ front.filter (· != "") = before := by
  obtain ⟨front, last, hsegments, hempty⟩ := Path.segments_eq_concat he.isPath.2.1
  have hlast : last ≠ "" := by
    intro hnil
    have hnone := he.noSlash
    rw [hempty hnil] at hnone
    cases hnone
  have hwalk := he.walk_eq
  rw [walk, hsegments, List.filter_append, List.filter_cons_of_pos (by simpa using hlast),
    List.filter_nil] at hwalk
  obtain ⟨hfront, hname⟩ := List.append_inj' hwalk rfl
  rw [List.singleton_inj] at hname
  exact ⟨front, by rw [hsegments, hname], hfront⟩

/-- The last step of a path that ends in a name is that name. -/
theorem steps_eq (he : EndsIn path before name) :
    Path.steps path = before.filter Path.isStep ++ [name] := by
  rw [steps_eq_walk, he.walk_eq, List.filter_append,
    List.filter_cons_of_pos (by simp [Path.isStep, he.name_ne_empty, he.ne_dot]), List.filter_nil]

theorem dropLast_steps (he : EndsIn path before name) :
    (Path.steps path).dropLast = before.filter Path.isStep := by
  rw [he.steps_eq, List.dropLast_concat]

theorem above?_eq (he : EndsIn path before name) {front : List String}
    (hfront : Path.segments path = front ++ [name]) :
    Path.above? (Path.segments path).reverse = some (Path.dropIdle front.reverse) := by
  have hidle : Path.dropIdle (name :: front.reverse) = name :: front.reverse := by
    cases front.reverse with
    | nil => rfl
    | cons t rest => rw [Path.dropIdle, if_neg (by simp [he.name_ne_empty, he.ne_dot])]
  have hroot : name :: front.reverse ≠ [""] := fun h => he.name_ne_empty (List.cons_eq_cons.1 h).1
  rw [hfront, List.reverse_append, List.reverse_singleton, List.singleton_append,
    Path.above?_cons hroot hidle]

/-- The last step of a path that ends in a name is taken from a way of directories. -/
theorem resolve_of_paved (he : EndsIn path before name) (hshort : Short before)
    (hpaved : fs.Paved (before.filter Path.isStep)) :
    fs.resolve path = .ok (.name (Path.reach (before.filter Path.isStep)) name false) := by
  rw [FileSystem.resolve_of_paved he.isPath he.walk_eq hshort hpaved, descend, if_neg he.ne_dot,
    if_neg he.ne_dots, if_neg (by have := he.short; omega), if_pos List.isEmpty_nil, he.noSlash]

/-- And there are directories all along the way to a name that a path leads to. -/
theorem paved_of_resolve {directory : Location} (he : EndsIn path before name)
    (h : fs.resolve path = .ok (.name directory name false)) :
    fs.Paved (before.filter Path.isStep) := by
  have hdescend := (resolve_eq_ok_iff.1 h).2
  have hempty : "" ∉ before := fun hm =>
    empty_not_mem_walk path (he.walk_eq ▸ List.mem_append_left [name] hm)
  rw [he.walk_eq] at hdescend
  obtain ⟨place, hplace, hdirectory⟩ : ∃ place, fs.descend false [] before = .ok place ∧
      (fs.Open [] → fs.node? place.location = some .directory) :=
    descend_before (List.cons_ne_nil name []) hdescend
  refine paved_of_descend [] hempty (paved_nil fs) hplace ?_
  rintro directory' name' slash' rfl
  exact hdirectory (open_nil fs)

/-- The directories above a path that ends in a name can be made where no file stands on
the way. Nothing else is made, and then the path leads to the name. -/
theorem makeDirectories_parent (he : EndsIn path before name) (hshort : Short before)
    (hclear : fs.Clear (before.filter Path.isStep)) : ∃ parent fs',
      Path.parent? path = some parent ∧ fs.makeDirectories parent = (fs', .ok ()) ∧
        Builds (fun l => ∃ first, first <+: before.filter Path.isStep ∧ l = Path.reach first) fs fs' ∧
        fs'.resolve path = .ok (.name (Path.reach (before.filter Path.isStep)) name false) := by
  obtain ⟨front, hsegments, hfront⟩ := he.segments_eq
  have habove := he.above?_eq hsegments
  -- the path that is made is the one above, less dots at its end; its steps are the same
  have hsteps : (Path.dropIdle front.reverse).reverse.filter Path.isStep =
      before.filter Path.isStep := by
    rw [Path.steps_dropIdle, List.reverse_reverse, ← hfront, Path.filter_isStep]
  have hmem : ∀ s ∈ Path.dropIdle front.reverse, s ∈ front := fun s hs =>
    List.mem_reverse.1 ((Path.dropIdle_suffix _).subset hs)
  have hslash : ∀ s ∈ Path.dropIdle front.reverse, '/' ∉ s.toList := fun s hs =>
    Path.slash_not_mem_segments (hsegments ▸ List.mem_append_left [name] (hmem s hs))
  rw [← hsteps] at hclear
  suffices hmake : ∃ fs', fs.makeDirectories
      (Path.ofSegments (Path.dropIdle front.reverse).reverse) = (fs', .ok ()) ∧
      fs'.Paved ((Path.dropIdle front.reverse).reverse.filter Path.isStep) by
    obtain ⟨fs', hmade, hpaved⟩ := hmake
    rw [hsteps] at hpaved
    have hbuilds := makeDirectories_builds fs (Path.ofSegments (Path.dropIdle front.reverse).reverse)
    rw [hmade, Path.steps_ofSegments fun s hs => hslash s (List.mem_reverse.1 hs), hsteps] at hbuilds
    refine ⟨_, fs', ?_, hmade, hbuilds, he.resolve_of_paved hshort hpaved⟩
    rw [Path.parent?, habove, Option.map_some]
  -- only the root is above, and it is there
  by_cases hroot : (Path.dropIdle front.reverse).reverse = [""]
  · rw [hroot]
    exact ⟨fs, makeDirectories_of_isDirectory rfl, paved_nil fs⟩
  · rw [makeDirectories, Path.ancestors,
      Path.segments_ofSegments (fun s hs => hslash s (List.mem_reverse.1 hs)) hroot,
      List.reverse_reverse]
    refine makeFirst_upwards hslash (Path.dropIdle_dropIdle _) (isPath_above habove ?_) ?_ hclear
    · -- the name's directory is above a path
      rw [List.reverse_reverse, Path.ofSegments_segments path (Path.segments_ne_root path)]
      exact he.isPath
    · -- an empty segment is short, and the others are on the way to the name
      intro s hs
      by_cases hempty : s = ""
      · rw [hempty]
        decide
      · exact hshort s (hfront ▸ List.mem_filter.2 ⟨hmem s hs, by simpa using hempty⟩)

end EndsIn

end FileSystem

end Flagpost
