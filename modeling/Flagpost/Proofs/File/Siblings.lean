import Flagpost.Proofs.File.Operations

/-!
# Flagpost — paths with longer names

Text behind a path makes its last name longer and leaves everything before it
alone, so a path and its longer ones go through the same directories and end in
different names. Whether the longer name is one that a file can have is written
in the text; if it is, the longer path leads somewhere in exactly the trees in
which the path itself does (`FileSystem.EndsIn.resolve_longer`).

Hence what is at the longer paths can be followed through changes of the tree
without looking at resolution again: `held_longer` for a change that leaves a
location alone, `rename_longer` for one that gives a longer path another name.
-/

namespace Flagpost

namespace FileSystem

variable {fs fs' : FileSystem} {path path' name name' more more' : String}
  {here directory : Location}
variable {before : List String} {slash slash' : Bool} {number : Nat} {content : Bytes}

-- ---------------------------------------------------------------------------
-- The last name of a path
-- ---------------------------------------------------------------------------

/-- A path that ends in a name that a file can have. `before` are the segments in
front of it. -/
structure EndsIn (path : String) (before : List String) (name : String) : Prop where
  isPath : IsPath path
  noSlash : (path.toList.getLast? == some '/') = false
  walk_eq : walk path = before ++ [name]
  ne_dot : name ≠ "."
  ne_dots : name ≠ ".."
  short : name.utf8ByteSize ≤ maxName

/-- The names behind the same segments are reached alike. -/
theorem descend_sibling (hdot : name ≠ ".") (hdots : name ≠ "..")
    (hdot' : name' ≠ ".") (hdots' : name' ≠ "..") (hshort' : name'.utf8ByteSize ≤ maxName)
    (h : fs.descend slash here (before ++ [name]) = .ok (.name directory name slash)) :
    fs.descend slash' here (before ++ [name']) = .ok (.name directory name' slash') := by
  induction before generalizing here with
  | nil =>
    -- the walk ends at the name, and nothing else is asked of it
    rw [List.nil_append, descend, if_neg hdot, if_neg hdots] at h
    rw [List.nil_append, descend, if_neg hdot', if_neg hdots', if_neg (by omega),
      if_pos List.isEmpty_nil]
    split at h
    · cases h
    · rw [if_pos List.isEmpty_nil] at h
      cases h
      rfl
  | cons segment before ih =>
    rw [List.cons_append, descend] at h
    rw [List.cons_append, descend]
    -- before the name the two walks take the same turns
    split at h
    · rename_i hsegment
      rw [if_pos hsegment]
      exact ih h
    split at h
    · rename_i hsegment hsegments
      rw [if_neg hsegment, if_pos hsegments]
      exact ih h
    split at h
    · cases h
    rename_i hsegment hsegments hshort
    rw [if_neg (by simp)] at h
    rw [if_neg hsegment, if_neg hsegments, if_neg hshort, if_neg (by simp)]
    split at h
    · exact ih h
    · cases h
    · cases h

/-- No segment of a path that leads somewhere is too long. -/
theorem descend_short {segments : List String} {place : Place}
    (h : fs.descend slash here segments = .ok place) : ∀ s ∈ segments, s.utf8ByteSize ≤ maxName := by
  have hdots : ".".utf8ByteSize ≤ maxName ∧ "..".utf8ByteSize ≤ maxName := by decide
  fun_induction fs.descend slash here segments with
  | case1 => simp
  | case2 here rest ih => exact List.forall_mem_cons.2 ⟨hdots.1, ih h⟩
  | case3 here rest _ ih => exact List.forall_mem_cons.2 ⟨hdots.2, ih h⟩
  | case4 => cases h
  | case5 here segment rest _ _ hshort hrest =>
    rw [List.isEmpty_iff.1 hrest, List.forall_mem_singleton]
    omega
  | case6 here segment rest _ _ hshort _ _ ih =>
    exact List.forall_mem_cons.2 ⟨by omega, ih h⟩
  | case7 => cases h
  | case8 => cases h

/-- A name behind other segments is reached as a name. -/
theorem descend_concat {place : Place} (hdot : name ≠ ".") (hdots : name ≠ "..")
    (h : fs.descend slash here (before ++ [name]) = .ok place) :
    ∃ directory, place = .name directory name slash := by
  induction before generalizing here with
  | nil =>
    -- neither kind of dots, so the walk ends at a name here
    rw [List.nil_append, descend, if_neg hdot, if_neg hdots] at h
    split at h
    · cases h
    · rw [if_pos List.isEmpty_nil] at h
      cases h
      exact ⟨here, rfl⟩
  | cons segment before ih =>
    rw [List.cons_append, descend] at h
    -- whatever comes before it leads on or fails
    split at h
    · exact ih h
    split at h
    · exact ih h
    split at h
    · cases h
    rw [if_neg (by simp)] at h
    split at h
    · exact ih h
    · cases h
    · cases h

theorem endsIn_of_resolve (h : fs.resolve path = .ok (.name directory name false)) :
    ∃ before, EndsIn path before name := by
  obtain ⟨hpath, hdescend⟩ := resolve_eq_ok_iff.1 h
  obtain ⟨hslash, hdot, hdots, before, hbefore⟩ := descend_name hdescend
  exact ⟨before, hpath, hslash.symm, hbefore, hdot, hdots,
    descend_short hdescend name (by rw [hbefore]; simp)⟩

namespace EndsIn

/-- A path that ends in a name leads to that name if it leads anywhere. -/
theorem resolve_eq {place : Place} (he : EndsIn path before name)
    (h : fs.resolve path = .ok place) : ∃ directory, place = .name directory name false := by
  obtain ⟨-, hdescend⟩ := resolve_eq_ok_iff.1 h
  rw [he.noSlash, he.walk_eq] at hdescend
  exact descend_concat he.ne_dot he.ne_dots hdescend

/-- Paths with the same segments in front of the last lead somewhere in the same
trees. -/
theorem resolve_sibling (he : EndsIn path before name) (he' : EndsIn path' before name')
    (h : fs.resolve path = .ok (.name directory name false)) :
    fs.resolve path' = .ok (.name directory name' false) := by
  obtain ⟨-, hdescend⟩ := resolve_eq_ok_iff.1 h
  rw [he.noSlash, he.walk_eq] at hdescend
  refine resolve_eq_ok_iff.2 ⟨he'.isPath, ?_⟩
  rw [he'.noSlash, he'.walk_eq]
  exact descend_sibling he.ne_dot he.ne_dots he'.ne_dot he'.ne_dots he'.short hdescend

/-- A path leads to one place in all trees in which it leads somewhere. -/
theorem resolve_unique {place : Place} (he : EndsIn path before name)
    (h : fs.resolve path = .ok (.name directory name false)) (h' : fs'.resolve path = .ok place) :
    place = .name directory name false := by
  obtain ⟨directory', rfl⟩ := he.resolve_eq h'
  have hlocation := (resolve_location h').trans (resolve_location h).symm
  rw [(List.append_inj' hlocation rfl).1]

theorem name_ne_empty (he : EndsIn path before name) : name ≠ "" := by
  intro hname
  refine empty_not_mem_walk path ?_
  rw [he.walk_eq, hname]
  simp

end EndsIn

-- ---------------------------------------------------------------------------
-- Longer paths
-- ---------------------------------------------------------------------------

/-- Text that makes a name longer and keeps it a name: nothing, or some characters
without a slash or NUL. -/
structure IsTail (more : String) : Prop where
  slash : '/' ∉ more.toList
  nul : '\x00' ∉ more.toList
  long : more = "" ∨ 2 ≤ more.length

theorem isTail_empty : IsTail "" where
  slash := List.not_mem_nil
  nul := List.not_mem_nil
  long := .inl rfl

namespace EndsIn

theorem walk_longer (he : EndsIn path before name) (hmore : IsTail more) :
    walk (path ++ more) = before ++ [name ++ more] := by
  obtain ⟨parts, last, hsplit, hsplit', hempty⟩ :=
    List.splitOn_append_of_not_mem hmore.slash path.toList
  -- a path that ends in a name ends in no slash, so its last segment is not empty
  have hlast : String.ofList last ≠ "" := by
    intro hnil
    rcases hempty (String.ofList_inj.1 hnil) with hpath | hslash
    · exact he.isPath.2.1 (String.toList_inj.1 hpath)
    · have hnone := he.noSlash
      rw [hslash] at hnone
      cases hnone
  have hlong : String.ofList last ++ more ≠ "" := by
    intro hnil
    exact hlast (String.append_eq_empty_iff.1 hnil).1
  -- the last segment gets longer, and those before it stay
  have hwalk := he.walk_eq
  rw [walk, Path.filter_segments (p := (· != "")) rfl, hsplit, List.map_append,
    List.filter_append, List.map_singleton, List.filter_cons_of_pos (by simp [hlast]),
    List.filter_nil] at hwalk
  obtain ⟨hbefore, hname⟩ := List.append_inj' hwalk rfl
  rw [List.singleton_inj] at hname
  rw [walk, Path.filter_segments (p := (· != "")) rfl, String.toList_append, hsplit',
    List.map_append, List.filter_append, List.map_singleton, String.ofList_append,
    String.ofList_toList, List.filter_cons_of_pos (by simp [hlong]), List.filter_nil, hbefore,
    hname]

theorem ne_longer (he : EndsIn path before name) (hmore : IsTail more) :
    name ++ more ≠ "." ∧ name ++ more ≠ ".." := by
  rcases hmore.long with rfl | hlong
  · rw [String.append_empty]
    exact ⟨he.ne_dot, he.ne_dots⟩
  · -- a name and two characters more are longer than two dots
    have hname : 0 < name.length := by
      rw [Nat.pos_iff_ne_zero, Ne, String.length_eq_zero_iff]
      exact he.name_ne_empty
    have hlength : 2 < (name ++ more).length := by
      rw [String.length_append]
      omega
    constructor
    · intro heq
      rw [heq] at hlength
      exact absurd hlength (by decide)
    · intro heq
      rw [heq] at hlength
      exact absurd hlength (by decide)

/-- A longer path that leads somewhere in some tree ends in the longer name. -/
theorem longer (he : EndsIn path before name) (hmore : IsTail more) {place : Place}
    (h : fs.resolve (path ++ more) = .ok place) : EndsIn (path ++ more) before (name ++ more) := by
  obtain ⟨hpath, hdescend⟩ := resolve_eq_ok_iff.1 h
  obtain ⟨hdot, hdots⟩ := he.ne_longer hmore
  rw [he.walk_longer hmore] at hdescend
  obtain ⟨directory, rfl⟩ := descend_concat hdot hdots hdescend
  refine ⟨hpath, ?_, he.walk_longer hmore, hdot, hdots, descend_short hdescend _ (by simp)⟩
  rw [String.toList_append, List.getLast?_append]
  cases hlast : more.toList.getLast? with
  | none => exact he.noSlash
  | some c =>
    have hc : c ≠ '/' := fun hslash => hmore.slash (hslash ▸ List.mem_of_getLast? hlast)
    simpa using hc

/-- A longer path leads to the longer name in the same directory, in every tree in
which the path leads somewhere, or in none. -/
theorem resolve_longer (he : EndsIn path before name) (hmore : IsTail more) {place : Place}
    (hsome : fs.resolve (path ++ more) = .ok place)
    (h : fs'.resolve path = .ok (.name directory name false)) :
    fs'.resolve (path ++ more) = .ok (.name directory (name ++ more) false) :=
  he.resolve_sibling (he.longer hmore hsome) h

/-- Where a longer path leads somewhere, so does the path. -/
theorem resolve_shorter (he : EndsIn path before name) (hmore : IsTail more) {place : Place}
    (h : fs.resolve (path ++ more) = .ok place) :
    ∃ directory, fs.resolve path = .ok (.name directory name false) := by
  have hlonger := he.longer hmore h
  obtain ⟨directory, rfl⟩ := hlonger.resolve_eq h
  exact ⟨directory, hlonger.resolve_sibling he h⟩

/-- The places of longer paths are in one directory. -/
theorem locate_longer (he : EndsIn path before name) (hmore : IsTail more) :
    Path.locate (path ++ more) = Path.reach (before.filter Path.isStep) ++ [name ++ more] := by
  obtain ⟨hdot, hdots⟩ := he.ne_longer hmore
  have hempty : name ++ more ≠ "" := fun hnil =>
    he.name_ne_empty (String.append_eq_empty_iff.1 hnil).1
  have hstep : Path.isStep (name ++ more) = true := by simp [Path.isStep, hdot, hempty]
  rw [Path.locate, steps_eq_walk, he.walk_longer hmore, List.filter_append,
    List.filter_cons_of_pos hstep, List.filter_nil, Path.reach_name hdots]

end EndsIn

-- ---------------------------------------------------------------------------
-- What is at a path
-- ---------------------------------------------------------------------------

/-- What is at a path, if there is anything. -/
def held (fs : FileSystem) (path : String) : Option Node := (fs.find path).toOption.map Prod.snd

theorem hasPath_eq_isSome (fs : FileSystem) (path : String) :
    fs.hasPath path = (fs.held path).isSome := by
  rw [hasPath, held]
  cases fs.find path with
  | error e => rfl
  | ok found => rfl

theorem held_of_not_hasPath (h : ¬ fs.hasPath path = true) : fs.held path = none := by
  rwa [hasPath_eq_isSome, Bool.not_eq_true, Option.isSome_eq_false_iff,
    Option.isNone_iff_eq_none] at h

theorem held_of_resolve (h : fs.resolve path = .ok (.name directory name false)) :
    fs.held path = fs.node? (directory ++ [name]) := by
  rw [held, find, h]
  dsimp only
  cases fs.node? (directory ++ [name]) with
  | none => rfl
  | some node =>
    cases node with
    | directory => rfl
    | file number content => rfl

theorem held_of_not_resolve (h : ∀ place, fs.resolve path ≠ .ok place) : fs.held path = none := by
  rw [held, find]
  cases hresolve : fs.resolve path with
  | error e => rfl
  | ok place => exact absurd hresolve (h place)

theorem resolve_of_held {node : Node} (h : fs.held path = some node) :
    ∃ place, fs.resolve path = .ok place := by
  rw [held, find] at h
  cases hresolve : fs.resolve path with
  | error e =>
    rw [hresolve] at h
    cases h
  | ok place => exact ⟨place, rfl⟩

/-- What is at a longer path is told by the longer name, in all trees in which the path
leads somewhere. -/
theorem held_longer (hmore : IsTail more) (h : fs.resolve path = .ok (.name directory name false))
    (h' : fs'.resolve path = .ok (.name directory name false))
    (hnode : fs'.node? (directory ++ [name ++ more]) = fs.node? (directory ++ [name ++ more])) :
    fs'.held (path ++ more) = fs.held (path ++ more) := by
  obtain ⟨before, he⟩ := endsIn_of_resolve h
  by_cases hsome : ∃ place, fs.resolve (path ++ more) = .ok place
  · obtain ⟨place, hplace⟩ := hsome
    rw [held_of_resolve (he.resolve_longer hmore hplace h),
      held_of_resolve (he.resolve_longer hmore hplace h'), hnode]
  · have hnone : ∀ place, fs.resolve (path ++ more) ≠ .ok place :=
      fun place hplace => hsome ⟨place, hplace⟩
    have hnone' : ∀ place, fs'.resolve (path ++ more) ≠ .ok place :=
      fun place hplace => hsome ⟨_, he.resolve_longer hmore hplace h⟩
    rw [held_of_not_resolve hnone, held_of_not_resolve hnone']

theorem longer_ne (directory : Location) (name : String) (hne : more ≠ more') :
    directory ++ [name ++ more] ≠ directory ++ [name ++ more'] := by
  intro heq
  have hnames := List.append_cancel_left heq
  rw [List.singleton_inj, ← String.toList_inj, String.toList_append, String.toList_append,
    List.append_cancel_left_eq, String.toList_inj] at hnames
  exact hne hnames

theorem not_prefix_of_ne {one other : String} (directory : Location)
    (hne : directory ++ [one] ≠ directory ++ [other]) :
    ¬ directory ++ [one] <+: directory ++ [other] := by
  intro hleads
  exact hne (hleads.eq_of_length (by simp))

/-- Removing a longer path takes away what is there, and nothing at the other ones. -/
theorem remove_longer (hmore : IsTail more) (h : fs.resolve path = .ok (.name directory name false))
    (hremove : fs.remove (path ++ more) = .ok fs') :
    KeepsOpen fs fs' ∧ fs'.held (path ++ more) = none ∧
      ∀ other, IsTail other → other ≠ more → fs'.held (path ++ other) = fs.held (path ++ other) := by
  obtain ⟨before, he⟩ := endsIn_of_resolve h
  obtain ⟨⟨content, hread⟩, rfl⟩ := remove_eq_ok_iff.1 hremove
  obtain ⟨_, _, number, hresolve, hnode⟩ := read_eq_ok_iff.1 hread
  have hlonger := he.resolve_longer hmore hresolve h
  rw [hlonger] at hresolve
  cases hresolve
  have hplace : directory ++ [name ++ more] = Path.locate (path ++ more) :=
    resolve_location hlonger
  rw [← hplace]
  have hkeeps : KeepsOpen fs (fs.drop (directory ++ [name ++ more])) :=
    keepsOpen_of_eq_off (by rw [hnode]; simp) fun l hl => by rw [node?_drop (by simp), if_neg hl]
  refine ⟨hkeeps, ?_, ?_⟩
  · -- nothing is at the place of the removed file any more
    rw [held_of_resolve (resolve_of_keepsOpen hkeeps hlonger), node?_drop (by simp), if_pos rfl]
  · -- the other paths lead to other places
    intro other hother hne
    refine held_longer hother h (resolve_of_keepsOpen hkeeps h) ?_
    rw [node?_drop (by simp), if_neg (longer_ne directory name hne)]

/-- Giving a longer path another name moves what is there, and nothing at the other ones. -/
theorem rename_longer (hmore : IsTail more) (hmore' : IsTail more') (hne : more ≠ more')
    (h : fs.resolve path = .ok (.name directory name false))
    (hrename : fs.rename (path ++ more) (path ++ more') = .ok fs')
    (h' : fs'.resolve path = .ok (.name directory name false)) :
    fs'.held (path ++ more') = fs.held (path ++ more) ∧ fs'.held (path ++ more) = none ∧
      ∀ other, IsTail other → other ≠ more → other ≠ more' →
        fs'.held (path ++ other) = fs.held (path ++ other) := by
  obtain ⟨before, he⟩ := endsIn_of_resolve h
  obtain ⟨⟨_, hleads⟩, ⟨_, hleads'⟩⟩ := resolve_of_rename hrename
  have hsource := he.resolve_longer hmore hleads h
  have htarget := he.resolve_longer hmore' hleads' h
  have hplaces := longer_ne directory name hne
  have hplace : directory ++ [name ++ more] = Path.locate (path ++ more) :=
    resolve_location hsource
  have hplace' : directory ++ [name ++ more'] = Path.locate (path ++ more') :=
    resolve_location htarget
  have hmoved := rename_eq_move hrename
  rw [← hplace, ← hplace'] at hmoved
  -- the two paths lead to different places, so the file was moved
  rcases hmoved with ⟨-, hsame⟩ | ⟨rfl, -⟩
  · exact absurd hsame hplaces
  refine ⟨?_, ?_, ?_⟩
  · -- at the new path is what was moved
    rw [held_of_resolve hsource, held_of_resolve (he.resolve_longer hmore' htarget h'),
      node?_move_target (by simp) (by simp) hplaces]
  · -- and the old one leads nowhere
    rw [held_of_resolve (he.resolve_longer hmore hsource h'),
      node?_move_source (by simp) (not_prefix_of_ne directory hplaces.symm)]
  · -- the other paths lead to neither place
    intro other hother hne₁ hne₂
    refine held_longer hother h h' ?_
    have hsource' := not_prefix_of_ne directory (longer_ne directory name hne₁).symm
    have htarget' := not_prefix_of_ne directory (longer_ne directory name hne₂).symm
    rw [node?_move_elsewhere (by simp) hsource' htarget']

end FileSystem

end Flagpost
