import Flagpost.Proofs.File.Places
import Flagpost.Proofs.File.Tree

/-!
# Flagpost — paths that lead somewhere

What is known of a path once it has been resolved. A location is **open** if
there are directories all the way to it; that is what going through it asks
of the tree, so a path is resolved alike in every tree in which the same
locations are open.

* `FileSystem.resolve_location`    — a path leads where its text says.
* `FileSystem.resolve_of_keepsOpen` — and still does after a change that keeps
  open what was open.
-/

namespace Flagpost

namespace FileSystem

variable {fs fs' : FileSystem} {here : Location} {path : String} {slash : Bool}

-- ---------------------------------------------------------------------------
-- Open locations
-- ---------------------------------------------------------------------------

/-- There are directories all the way to a location. -/
def Open (fs : FileSystem) (location : Location) : Prop :=
  ∀ l, l <+: location → fs.node? l = some .directory

/-- What is open in the one tree is open in the other. -/
def KeepsOpen (fs fs' : FileSystem) : Prop := ∀ l, fs.Open l → fs'.Open l

theorem open_nil (fs : FileSystem) : fs.Open [] := by
  intro l hl
  rw [List.prefix_nil.1 hl, node?_nil]

theorem Open.node? (h : fs.Open here) : fs.node? here = some .directory :=
  h here (List.prefix_refl here)

theorem Open.of_prefix {above : Location} (h : fs.Open here) (hp : above <+: here) :
    fs.Open above := fun l hl => h l (hl.trans hp)

theorem Open.snoc {name : String} (h : fs.Open here)
    (hn : fs.node? (here ++ [name]) = some .directory) : fs.Open (here ++ [name]) := by
  intro l hl
  rcases List.prefix_concat_iff.1 hl with rfl | hl
  · exact hn
  · exact h l hl

theorem KeepsOpen.refl (fs : FileSystem) : KeepsOpen fs fs := fun _ h => h

theorem KeepsOpen.trans {fs'' : FileSystem} (h : KeepsOpen fs fs') (h' : KeepsOpen fs' fs'') :
    KeepsOpen fs fs'' := fun l hl => h' l (h l hl)

/-- A change at a location that is no directory keeps open what was open. -/
theorem keepsOpen_of_eq_off (hn : fs.node? here ≠ some .directory)
    (h : ∀ l, l ≠ here → fs'.node? l = fs.node? l) : KeepsOpen fs fs' := by
  intro l hl above habove
  have hopen := hl above habove
  have hne : above ≠ here := by
    rintro rfl
    exact hn hopen
  rw [h above hne, hopen]

-- ---------------------------------------------------------------------------
-- Resolving
-- ---------------------------------------------------------------------------

/-- The location a path leads to. -/
def Place.location : Place → Location
  | .dots location => location
  | .name directory last _ => directory ++ [last]

theorem descend_location {segments : List String} {place : Place}
    (hs : "" ∉ segments) (h : fs.descend slash here segments = .ok place) :
    place.location = (segments.filter Path.isStep).foldl Path.follow here := by
  fun_induction fs.descend slash here segments with
  | case1 here =>
    -- nothing is left: the walk has come here
    cases h
    rfl
  -- a dot stays, and two dots lead up
  | case2 here rest ih => exact ih (fun hm => hs (List.mem_cons_of_mem _ hm)) h
  | case3 here rest _ ih => exact ih (fun hm => hs (List.mem_cons_of_mem _ hm)) h
  | case4 => cases h
  | case5 here segment rest hdot hdots _ hrest =>
    -- the last segment is the name, whatever is there
    cases h
    have hempty : segment ≠ "" := fun he => hs (he ▸ List.mem_cons_self)
    have hstep : Path.isStep segment = true := by simp [Path.isStep, hempty, hdot]
    rw [List.isEmpty_iff.1 hrest, List.filter_cons_of_pos hstep, List.filter_nil, List.foldl_cons,
      List.foldl_nil, Path.follow, if_neg hdots]
    rfl
  | case6 here segment rest hdot hdots _ _ hdirectory ih =>
    -- a name that a directory has is entered
    have hempty : segment ≠ "" := fun he => hs (he ▸ List.mem_cons_self)
    have hstep : Path.isStep segment = true := by simp [Path.isStep, hempty, hdot]
    rw [List.filter_cons_of_pos hstep, List.foldl_cons, Path.follow, if_neg hdots]
    exact ih (fun hm => hs (List.mem_cons_of_mem _ hm)) h
  | case7 => cases h
  | case8 => cases h

/-- A name that a path leads to is the last of its segments. -/
theorem descend_name {segments : List String} {directory : Location} {name : String}
    {slash' : Bool} (h : fs.descend slash here segments = .ok (.name directory name slash')) :
    slash' = slash ∧ name ≠ "." ∧ name ≠ ".." ∧ ∃ before, segments = before ++ [name] := by
  fun_induction fs.descend slash here segments with
  | case1 => cases h
  | case2 here rest ih =>
    obtain ⟨hslash, hdot, hdots, before, rfl⟩ := ih h
    exact ⟨hslash, hdot, hdots, "." :: before, rfl⟩
  | case3 here rest _ ih =>
    obtain ⟨hslash, hdot, hdots, before, rfl⟩ := ih h
    exact ⟨hslash, hdot, hdots, ".." :: before, rfl⟩
  | case4 => cases h
  | case5 here segment rest hdot hdots _ hrest =>
    -- the last segment is the name
    cases h
    exact ⟨rfl, hdot, hdots, [], by rw [List.isEmpty_iff.1 hrest]; rfl⟩
  | case6 here segment rest _ _ _ _ _ ih =>
    obtain ⟨hslash, hdot, hdots, before, rfl⟩ := ih h
    exact ⟨hslash, hdot, hdots, segment :: before, rfl⟩
  | case7 => cases h
  | case8 => cases h

theorem descend_of_keepsOpen {segments : List String} {place : Place}
    (hk : KeepsOpen fs fs') (ho : fs.Open here)
    (h : fs.descend slash here segments = .ok place) :
    fs'.descend slash here segments = .ok place := by
  fun_induction fs.descend slash here segments with
  | case1 here => exact h
  | case2 here rest ih =>
    rw [descend, if_pos rfl]
    exact ih ho h
  | case3 here rest hdot ih =>
    rw [descend, if_neg hdot, if_pos rfl]
    exact ih (ho.of_prefix (List.dropLast_prefix here)) h
  | case4 => cases h
  | case5 here segment rest hdot hdots hshort hrest =>
    rw [descend, if_neg hdot, if_neg hdots, if_neg hshort, if_pos hrest]
    exact h
  | case6 here segment rest hdot hdots hshort hrest hdirectory ih =>
    -- the directory that was entered is still there
    have hopen := ho.snoc hdirectory
    rw [descend, if_neg hdot, if_neg hdots, if_neg hshort, if_neg hrest, (hk _ hopen).node?]
    exact ih hopen h
  | case7 => cases h
  | case8 => cases h

/-- The first steps of a path that leads somewhere lead to a directory. -/
theorem descend_before {before behind : List String} {place : Place} {slash' : Bool}
    (hb : behind ≠ []) (h : fs.descend slash here (before ++ behind) = .ok place) :
    ∃ place', fs.descend slash' here before = .ok place' ∧
      (fs.Open here → fs.node? place'.location = some .directory) := by
  induction before generalizing here with
  | nil => exact ⟨.dots here, rfl, fun ho => ho.node?⟩
  | cons segment before ih =>
    rw [List.cons_append, descend] at h
    rw [descend]
    -- `.` and `..` are gone through in both descents alike
    split at h
    · rename_i hdot
      rw [if_pos hdot]
      exact ih h
    split at h
    · rename_i hdot hdots
      rw [if_neg hdot, if_pos hdots]
      obtain ⟨place', hplace, hn⟩ := ih h
      exact ⟨place', hplace, fun ho => hn (ho.of_prefix (List.dropLast_prefix here))⟩
    split at h
    · cases h
    rename_i hdot hdots hshort
    rw [if_neg hdot, if_neg hdots, if_neg hshort]
    rw [if_neg (by simp [hb])] at h
    -- a name with something behind it was a directory, also if it is now the last
    split at h
    · rename_i hdirectory
      split
      · exact ⟨_, rfl, fun _ => hdirectory⟩
      · obtain ⟨place', hplace, hn⟩ := ih h
        exact ⟨place', hplace, fun ho => hn (ho.snoc hdirectory)⟩
    · cases h
    · cases h

-- ---------------------------------------------------------------------------
-- Paths
-- ---------------------------------------------------------------------------

/-- A text that the system takes for a path. -/
def IsPath (path : String) : Prop :=
  path.toList.contains '\x00' = false ∧ path ≠ "" ∧ path.utf8ByteSize < maxPath

instance : DecidablePred IsPath := fun path =>
  inferInstanceAs (Decidable (path.toList.contains '\x00' = false ∧ path ≠ "" ∧
    path.utf8ByteSize < maxPath))

/-- The segments of a path that are gone through. -/
def walk (path : String) : List String := (Path.segments path).filter (· != "")

theorem empty_not_mem_walk (path : String) : "" ∉ walk path := by
  intro h
  have hne := (List.mem_filter.1 h).2
  simp at hne

theorem steps_eq_walk (path : String) : Path.steps path = (walk path).filter Path.isStep := by
  rw [Path.steps_eq_segments, walk, Path.filter_isStep]

theorem resolve_eq_ok_iff {place : Place} : fs.resolve path = .ok place ↔
    IsPath path ∧ fs.descend (path.toList.getLast? == some '/') [] (walk path) = .ok place := by
  rw [resolve, IsPath, walk]
  constructor
  · intro h
    split at h
    · cases h
    split at h
    · cases h
    split at h
    · cases h
    rename_i hnul hempty hlong
    refine ⟨⟨by simpa using hnul, fun he => hempty (by simp [he]), by omega⟩, h⟩
  · rintro ⟨⟨hnul, hempty, hshort⟩, h⟩
    rw [hnul, if_neg (by decide), if_neg (by simpa using hempty), if_neg (by omega)]
    exact h

/-- A path leads where its text says. -/
theorem resolve_location {place : Place} (h : fs.resolve path = .ok place) :
    place.location = Path.locate path := by
  rw [descend_location (empty_not_mem_walk path) (resolve_eq_ok_iff.1 h).2, Path.locate, Path.reach,
    steps_eq_walk]

/-- A path still leads where it led after a change that keeps open what was
open. -/
theorem resolve_of_keepsOpen {place : Place} (hk : KeepsOpen fs fs')
    (h : fs.resolve path = .ok place) : fs'.resolve path = .ok place := by
  obtain ⟨hpath, hd⟩ := resolve_eq_ok_iff.1 h
  exact resolve_eq_ok_iff.2 ⟨hpath, descend_of_keepsOpen hk (open_nil fs) hd⟩

/-- A file is read if its path leads to its name. -/
theorem read_eq_ok_iff {content : Bytes} : fs.read path = .ok content ↔
    ∃ directory name number, fs.resolve path = .ok (.name directory name false) ∧
      fs.node? (directory ++ [name]) = some (.file number content) := by
  rw [read, find]
  constructor
  · -- of all cases only a file and a path without a slash behind it read
    intro h
    cases hresolve : fs.resolve path with
    | error e => simp [hresolve] at h
    | ok place =>
      cases place with
      | dots location => simp [hresolve] at h
      | name directory name slash =>
        simp only [hresolve] at h
        cases hnode : fs.node? (directory ++ [name]) with
        | none => simp [hnode] at h
        | some node =>
          cases node with
          | directory => simp [hnode] at h
          | file number content' =>
            cases slash with
            | true => simp [hnode] at h
            | false =>
              simp [hnode] at h
              exact ⟨directory, name, number, rfl, h ▸ hnode⟩
  · rintro ⟨directory, name, number, hresolve, hnode⟩
    simp [hresolve, hnode]

/-- A file keeps its content in a tree that has it and keeps open what was
open. -/
theorem read_of_keepsOpen {content : Bytes} (hk : KeepsOpen fs fs')
    (hn : ∀ number, fs.node? (Path.locate path) = some (.file number content) →
      fs'.node? (Path.locate path) = some (.file number content))
    (h : fs.read path = .ok content) : fs'.read path = .ok content := by
  obtain ⟨directory, name, number, hresolve, hnode⟩ := read_eq_ok_iff.1 h
  have hlocation : directory ++ [name] = Path.locate path := resolve_location hresolve
  rw [hlocation] at hnode
  refine read_eq_ok_iff.2
    ⟨directory, name, number, resolve_of_keepsOpen hk hresolve, ?_⟩
  rw [hlocation]
  exact hn number hnode

theorem hasPath_of_read {content : Bytes} (h : fs.read path = .ok content) :
    fs.hasPath path = true := by
  obtain ⟨directory, name, number, hresolve, hnode⟩ := read_eq_ok_iff.1 h
  simp [hasPath, find, hresolve, hnode]

/-- A sibling with a longer name is somewhere else. -/
theorem locate_append_ne {directory : Location} {name more : String}
    (h : fs.resolve path = .ok (.name directory name false)) (hmore : '/' ∉ more.toList)
    (hlong : 3 ≤ more.length) : Path.locate (path ++ more) ≠ Path.locate path := by
  obtain ⟨⟨_, hne, _⟩, hd⟩ := resolve_eq_ok_iff.1 h
  obtain ⟨hslash, hdot, hdots, before, hbefore⟩ := descend_name hd
  have hlength : ∀ short : String, short.length ≤ 2 → name ++ more ≠ short := by
    intro short hs he
    have := congrArg String.length he
    rw [String.length_append] at this
    omega
  have hstep : Path.isStep (name ++ more) = true := by
    simp [Path.isStep, hlength "" (by decide), hlength "." (by decide)]
  have hname : Path.isStep name = true := by
    have hempty : name ≠ "" := fun he =>
      empty_not_mem_walk path (by rw [hbefore, he]; simp)
    simp [Path.isStep, hempty, hdot]
  have hsteps : Path.steps path = before.filter Path.isStep ++ [name] := by
    rw [steps_eq_walk, hbefore, List.filter_append, List.filter_cons_of_pos hname, List.filter_nil]
  have hsteps' := Path.steps_append hne (by simpa using hslash.symm) hmore hstep hbefore
  rw [Path.locate, Path.locate, hsteps, hsteps',
    Path.reach_append_names (by simpa using (hlength ".." (by decide)).symm),
    Path.reach_append_names (by simpa using hdots.symm)]
  -- both are in one directory, so the names would have to be the same
  intro he
  have hnames := List.append_cancel_left he
  rw [List.singleton_inj] at hnames
  have := congrArg String.length hnames
  rw [String.length_append] at this
  omega

end FileSystem

end Flagpost
