import Flagpost.Proofs.File.Resolution

/-!
# Flagpost — what the operations on files change

One statement for each operation that succeeds: where it works, what is there
before and after, and that nothing else changes. Operations that make
directories may get part of their way; whatever they answer, they only put
directories where there was nothing (`Builds`).
-/

namespace Flagpost

namespace FileSystem

variable {fs fs' : FileSystem} {path : String} {number : Nat} {content : Bytes}

-- ---------------------------------------------------------------------------
-- Directories
-- ---------------------------------------------------------------------------

/-- The one tree becomes the other by making directories where there was
nothing, all at locations that satisfy `P`. -/
def Builds (P : Location → Prop) (fs fs' : FileSystem) : Prop :=
  ∀ l, fs'.node? l = fs.node? l ∨ P l ∧ fs.node? l = none ∧ fs'.node? l = some .directory

namespace Builds

variable {P Q : Location → Prop} {fs'' : FileSystem}

theorem refl (P : Location → Prop) (fs : FileSystem) : Builds P fs fs := fun _ => .inl rfl

theorem mono (h : Builds P fs fs') (hPQ : ∀ l, P l → Q l) : Builds Q fs fs' := fun l =>
  (h l).imp_right fun ⟨hP, hbefore, hafter⟩ => ⟨hPQ l hP, hbefore, hafter⟩

theorem trans (h : Builds P fs fs') (h' : Builds P fs' fs'') : Builds P fs fs'' := by
  intro l
  rcases h l with hsame | ⟨hP, hbefore, hafter⟩
  · rcases h' l with hsame' | ⟨hP, hbefore, hafter⟩
    · exact .inl (hsame'.trans hsame)
    · exact .inr ⟨hP, hsame ▸ hbefore, hafter⟩
  · rcases h' l with hsame' | ⟨_, hbefore', _⟩
    · exact .inr ⟨hP, hbefore, hsame'.trans hafter⟩
    · rw [hafter] at hbefore'
      cases hbefore'

/-- What is there stays. -/
theorem node? {l : Location} {node : Node} (h : Builds P fs fs') (hn : fs.node? l = some node) :
    fs'.node? l = some node := by
  rcases h l with hsame | ⟨_, hbefore, _⟩
  · rw [hsame, hn]
  · rw [hn] at hbefore
    cases hbefore

/-- No file is made. -/
theorem file {l : Location} (h : Builds P fs fs')
    (hn : fs'.node? l = some (.file number content)) :
    fs.node? l = some (.file number content) := by
  rcases h l with hsame | ⟨_, _, hafter⟩
  · rw [← hsame, hn]
  · rw [hn] at hafter
    cases hafter

theorem keepsOpen (h : Builds P fs fs') : KeepsOpen fs fs' :=
  fun _ hl above habove => h.node? (hl above habove)

/-- Files are read as before. -/
theorem read (h : Builds P fs fs') (hr : fs.read path = .ok content) :
    fs'.read path = .ok content :=
  read_of_keepsOpen h.keepsOpen (fun _ => h.node?) hr

end Builds

theorem makeDirectory_builds (h : fs.makeDirectory path = .ok fs') :
    Builds (· = Path.locate path) fs fs' := by
  rw [makeDirectory] at h
  split at h
  · cases h
  · cases h
  · rename_i directory name slash hresolve
    split at h
    · cases h
    · rename_i hnone
      cases h
      intro l
      rw [node?_addDirectory]
      split
      · -- the new directory is where the path leads, and nothing was there
        rename_i hl
        exact .inr ⟨hl.trans (resolve_location hresolve), hl ▸ hnone, rfl⟩
      · exact .inl rfl

theorem makeFirst_builds (fs : FileSystem) (paths : List String) :
    Builds (fun l => ∃ p ∈ paths, l = Path.locate p) fs (fs.makeFirst paths).1 := by
  induction paths generalizing fs with
  | nil => exact .refl _ _
  | cons path above ih =>
    have hmake : ∀ {fs fs' : FileSystem}, fs.makeDirectory path = .ok fs' →
        Builds (fun l => ∃ p ∈ path :: above, l = Path.locate p) fs fs' := fun h =>
      (makeDirectory_builds h).mono fun l hl => ⟨path, List.mem_cons_self, hl⟩
    have habove : Builds (fun l => ∃ p ∈ path :: above, l = Path.locate p) fs
        (fs.makeFirst above).1 := (ih fs).mono fun l ⟨p, hp, hl⟩ =>
      ⟨p, List.mem_cons_of_mem _ hp, hl⟩
    rw [makeFirst]
    split
    · rename_i hok
      exact hmake hok
    · -- the directory above is missing: it is made first, then this one again
      split
      · rename_i heq
        rw [heq] at habove
        exact habove
      · rename_i heq
        rw [heq] at habove
        split
        · rename_i hok
          exact habove.trans (hmake hok)
        · split
          · exact habove
          · exact habove
    · split
      · exact .refl _ _
      · exact .refl _ _

/-- Making a directory with those above it makes directories on the way to
it. -/
theorem makeDirectories_builds (fs : FileSystem) (path : String) :
    Builds (fun l => ∃ before, before <+: Path.steps path ∧ l = Path.reach before) fs
      (fs.makeDirectories path).1 :=
  (makeFirst_builds fs (Path.ancestors path)).mono fun _ ⟨above, habove, hl⟩ =>
    ⟨Path.steps above, Path.steps_prefix habove, hl⟩

theorem makeDirectories_parent_builds {parent : String} (fs : FileSystem)
    (h : Path.parent? path = some parent) :
    Builds (fun l => ∃ before, before <+: Path.steps path ∧ l = Path.reach before) fs
      (fs.makeDirectories parent).1 := by
  refine (makeDirectories_builds fs parent).mono ?_
  rintro l ⟨before, hbefore, hl⟩
  exact ⟨before, hbefore.trans (Path.steps_parent_prefix h), hl⟩

theorem find_of_resolve {place : Place} (h : fs.resolve path = .ok place)
    (hn : fs.node? place.location = some .directory) :
    fs.find path = .ok (place.location, .directory) := by
  cases place with
  | dots location => simp [find, h, Place.location]
  | name directory name slash =>
    have hn' : fs.node? (directory ++ [name]) = some .directory := hn
    simp [find, h, hn', Place.location]

/-- The directory that the name a path leads to is in is found. -/
theorem isDirectory_parent {parent : String} {directory : Location} {name : String} {slash : Bool}
    (h : fs.resolve path = .ok (.name directory name slash)) (hp : Path.parent? path = some parent)
    (hne : parent ≠ "") : fs.isDirectory parent = true := by
  obtain ⟨⟨hnul, _, hshort⟩, hd⟩ := resolve_eq_ok_iff.1 h
  obtain ⟨behind, hpath⟩ := Path.parent?_append hp
  obtain ⟨above, habove, rfl⟩ := Option.map_eq_some_iff.1 hp
  obtain ⟨rest, hsplit, hrest⟩ := Path.above?_split habove
  rw [List.reverse_reverse] at hsplit
  -- the walk to the directory is where the walk along the whole path begins
  have hwalk : walk path = walk (Path.ofSegments above.reverse) ++ rest.filter (· != "") := by
    have hslash : ∀ s ∈ above.reverse, '/' ∉ s.toList := fun s hs =>
      Path.slash_not_mem_segments (hsplit ▸ List.mem_append_left rest hs)
    rw [walk, walk, Path.filter_segments_ofSegments (p := (· != "")) rfl hslash, hsplit,
      List.filter_append]
  rw [hwalk] at hd
  -- a walk that goes on has come to a directory first
  obtain ⟨place, hplace, hn⟩ := descend_before hrest hd
  -- a part of a path is a path: no longer, and without a zero byte
  have hpath' : IsPath (Path.ofSegments above.reverse) := by
    refine ⟨?_, hne, ?_⟩
    · rw [hpath, String.toList_append, List.contains_append, Bool.or_eq_false_iff] at hnul
      exact hnul.1
    · rw [hpath, String.utf8ByteSize_append] at hshort
      omega
  have hfind := find_of_resolve (resolve_eq_ok_iff.2 ⟨hpath', hplace⟩) (hn (open_nil fs))
  rw [isDirectory, hfind]

/-- A directory that is there need not be made. -/
theorem makeDirectories_of_isDirectory (h : fs.isDirectory path = true) :
    fs.makeDirectories path = (fs, .ok ()) := by
  -- making it is refused, for the place is taken already
  have hmake : fs.makeDirectory path = .error .alreadyExists := by
    rw [isDirectory, find] at h
    rw [makeDirectory]
    cases hresolve : fs.resolve path with
    | error e => simp [hresolve] at h
    | ok place =>
      cases place with
      | dots location => rfl
      | name directory name slash =>
        cases hnode : fs.node? (directory ++ [name]) with
        | none => simp [hresolve, hnode] at h
        | some node => simp [hnode]
  -- a directory that is there has a path, and a path has segments
  have hsegments : (Path.segments path).reverse ≠ [] := by
    intro hnil
    have hpath := Path.ofSegments_segments path (Path.segments_ne_root path)
    rw [List.reverse_eq_nil_iff.1 hnil] at hpath
    subst hpath
    cases h
  rw [makeDirectories, Path.ancestors, Path.upwards, if_neg hsegments, List.reverse_reverse,
    Path.ofSegments_segments path (Path.segments_ne_root path), makeFirst, hmake]
  exact if_pos h

theorem makeAbove_builds (fs : FileSystem) (path : String) :
    Builds (fun l => ∃ before, before <+: Path.steps path ∧ l = Path.reach before) fs
      (fs.makeAbove path).1 := by
  rw [makeAbove]
  split
  · exact .refl _ _
  · rename_i parent hparent
    split
    · exact .refl _ _
    · exact makeDirectories_parent_builds fs hparent

/-- The directories above a path that leads to a name are there. -/
theorem makeAbove_of_resolve {directory : Location} {name : String} {slash : Bool}
    (h : fs.resolve path = .ok (.name directory name slash)) :
    fs.makeAbove path = (fs, .ok ()) := by
  rw [makeAbove]
  split
  · rfl
  · rename_i parent hparent
    split
    · rfl
    · rename_i hne
      have hdirectory := isDirectory_parent h hparent (fun he => hne (by simp [he]))
      exact makeDirectories_of_isDirectory hdirectory

-- ---------------------------------------------------------------------------
-- Files
-- ---------------------------------------------------------------------------

/-- An opened file is at its path; it is new, or it had that number before. -/
theorem create_eq_ok (h : fs.create path = .ok (fs', number)) :
    ∃ directory name, fs.resolve path = .ok (.name directory name false) ∧
      fs.node? (directory ++ [name]) ≠ some .directory ∧
      fs'.node? (directory ++ [name]) = some (.file number []) ∧
      ∀ l, l ≠ directory ++ [name] → fs'.node? l = fs.node? l := by
  rw [create, openFile] at h
  split at h
  · cases h
  · cases h
  · rename_i directory name slash hresolve
    split at h
    · cases h
    · rename_i hslash
      rw [Bool.not_eq_true] at hslash
      subst hslash
      refine ⟨directory, name, hresolve, ?_⟩
      split at h
      · cases h
      · -- a file is there already, and it is emptied
        rename_i found hnode
        rw [if_neg (by decide)] at h
        cases h
        exact ⟨by rw [hnode]; simp, node?_rewrite_self _ hnode,
          fun l hl => node?_rewrite_of_ne _ hnode hl⟩
      · -- nothing is there: the file is new
        rename_i hnode
        cases h
        refine ⟨by rw [hnode]; simp, ?_, fun l hl => ?_⟩
        · rw [node?_addFile (by simp), if_pos rfl]
        · rw [node?_addFile (by simp), if_neg hl]

/-- A file opened to write behind what it holds is there, or is new and empty. -/
theorem openAppend_eq_ok (h : fs.openAppend path = .ok (fs', number)) :
    ∃ directory name, fs.resolve path = .ok (.name directory name false) ∧
      ((fs' = fs ∧ ∃ content, fs.node? (directory ++ [name]) = some (.file number content)) ∨
        (fs' = fs.addFile (directory ++ [name]) [] ∧ number = fs.fresh ∧
          fs.node? (directory ++ [name]) = none)) := by
  rw [openAppend, openFile] at h
  split at h
  · cases h
  · cases h
  · rename_i directory name slash hresolve
    split at h
    · cases h
    · rename_i hslash
      rw [Bool.not_eq_true] at hslash
      subst hslash
      refine ⟨directory, name, hresolve, ?_⟩
      split at h
      · cases h
      · -- a file is there already, and it is left as it is
        rename_i found content hnode
        rw [if_pos rfl] at h
        cases h
        exact .inl ⟨rfl, content, hnode⟩
      · -- nothing is there: the file is new
        rename_i hnode
        cases h
        exact .inr ⟨rfl, rfl, hnode⟩

/-- A file that was given another name is read there. -/
theorem rename_eq_ok {source target : String} {directory : Location} {name : String}
    (hs : fs.resolve source = .ok (.name directory name false))
    (hn : fs.node? (directory ++ [name]) = some (.file number content))
    (h : fs.rename source target = .ok fs') :
    KeepsOpen fs fs' ∧ fs'.read target = .ok content := by
  simp only [rename, hs, hn] at h
  split at h
  · cases h
  · cases h
  · rename_i directory' name' slash' hresolve
    split at h
    · cases h
    split at h
    · cases h
    split at h
    · cases h
    rename_i hslash hbelow hdirectory
    have hslash' : slash' = false := by simpa using hslash
    subst hslash'
    have htarget : fs.node? (directory' ++ [name']) ≠ some .directory := by simpa using hdirectory
    -- both names are for the one file, which stays where it is
    split at h
    · rename_i hsame
      cases h
      refine ⟨KeepsOpen.refl fs, read_eq_ok_iff.2 ⟨_, _, number, hresolve, ?_⟩⟩
      rw [← hsame, hn]
    · rename_i hne
      cases h
      -- a file was moved, and not over a directory, so nothing open is below either place
      have hkeeps : KeepsOpen fs
          (fs.move (directory ++ [name]) (directory' ++ [name'])) := by
        intro l hl above habove
        rw [node?_move_elsewhere (by simp), hl above habove]
        · intro hp
          rw [hl _ (hp.trans habove)] at hn
          cases hn
        · intro hp
          exact htarget (hl _ (hp.trans habove))
      refine ⟨hkeeps, read_eq_ok_iff.2 ⟨_, _, number, resolve_of_keepsOpen hkeeps hresolve, ?_⟩⟩
      rw [node?_move_target (by simp) (by simp) hne, hn]

/-- What can be read can be removed, and nothing else. -/
theorem remove_eq_ok_iff :
    fs.remove path = .ok fs' ↔
      (∃ content, fs.read path = .ok content) ∧ fs' = fs.drop (Path.locate path) := by
  constructor
  · intro h
    rw [remove] at h
    split at h
    · cases h
    · -- past the first cases the path leads to a name
      cases h
    rename_i directory name slash hresolve
    split at h
    · cases h
    · cases h
    -- and a file has that name
    rename_i number content hnode
    split at h
    · cases h
    rename_i hslash
    rw [Bool.not_eq_true] at hslash
    subst hslash
    have hplace : directory ++ [name] = Path.locate path := resolve_location hresolve
    refine ⟨⟨content, read_eq_ok_iff.2 ⟨directory, name, number, hresolve, hnode⟩⟩, ?_⟩
    rw [← hplace]
    exact (Except.ok.inj h).symm
  · rintro ⟨⟨content, hread⟩, rfl⟩
    obtain ⟨directory, name, number, hresolve, hnode⟩ := read_eq_ok_iff.1 hread
    have hplace : directory ++ [name] = Path.locate path := resolve_location hresolve
    rw [remove, hresolve]
    dsimp only
    rw [hnode, ← hplace]
    rfl

/-- A file that was removed is taken from the place its path leads to. -/
theorem remove_eq_drop (h : fs.remove path = .ok fs') :
    (∃ number content, fs.node? (Path.locate path) = some (.file number content)) ∧
      fs' = fs.drop (Path.locate path) := by
  obtain ⟨⟨content, hread⟩, hdrop⟩ := remove_eq_ok_iff.1 h
  obtain ⟨directory, name, number, hresolve, hnode⟩ := read_eq_ok_iff.1 hread
  have hplace : directory ++ [name] = Path.locate path := resolve_location hresolve
  exact ⟨⟨number, content, hplace ▸ hnode⟩, hdrop⟩

/-- A file that was removed was at its path. -/
theorem remove_eq_ok (h : fs.remove path = .ok fs') :
    fs.node? (Path.locate path) ≠ some .directory ∧
      ∀ l, l ≠ Path.locate path → fs'.node? l = fs.node? l := by
  obtain ⟨⟨number, content, hnode⟩, rfl⟩ := remove_eq_drop h
  have hne : Path.locate path ≠ [] := ne_nil_of_file hnode
  refine ⟨by rw [hnode]; simp, fun l hl => ?_⟩
  rw [node?_drop hne, if_neg hl]

/-- Both paths lead somewhere where one is given the name of the other. -/
theorem resolve_of_rename {source target : String} (h : fs.rename source target = .ok fs') :
    (∃ place, fs.resolve source = .ok place) ∧ ∃ place, fs.resolve target = .ok place := by
  rw [rename] at h
  split at h
  · cases h
  · split at h <;> cases h
  rename_i hsource
  split at h
  · cases h
  · cases h
  rename_i htarget
  exact ⟨⟨_, hsource⟩, ⟨_, htarget⟩⟩

/-- What got another name is moved from the place of the one path to that of the other. -/
theorem rename_eq_move {source target : String} (h : fs.rename source target = .ok fs') :
    fs' = fs ∧ Path.locate source = Path.locate target ∨
      fs' = fs.move (Path.locate source) (Path.locate target) ∧
        Path.locate source ≠ Path.locate target := by
  rw [rename] at h
  split at h
  · cases h
  · split at h <;> cases h
  -- past these cases each of the two paths leads to a name
  rename_i directory name slash hsource
  split at h
  · cases h
  · cases h
  rename_i directory' name' slash' htarget
  have hplace : directory ++ [name] = Path.locate source := resolve_location hsource
  have hplace' : directory' ++ [name'] = Path.locate target := resolve_location htarget
  dsimp only at h
  rw [hplace, hplace'] at h
  -- a file that gets the name it has is not moved
  by_cases hsame : Path.locate source = Path.locate target
  · refine .inl ⟨?_, hsame⟩
    simp only [hsame, if_true] at h
    repeat' split at h
    all_goals cases h <;> rfl
  · refine .inr ⟨?_, hsame⟩
    simp only [hsame, if_false] at h
    repeat' split at h
    all_goals cases h <;> rfl

/-- No number is given when a file is removed. -/
theorem remove_fresh (h : fs.remove path = .ok fs') : fs'.fresh = fs.fresh := by
  rw [(remove_eq_drop h).2]
  rfl

/-- No number is given when something gets another name. -/
theorem rename_fresh {source target : String} (h : fs.rename source target = .ok fs') :
    fs'.fresh = fs.fresh := by
  rcases rename_eq_move h with ⟨rfl, -⟩ | ⟨rfl, -⟩
  · rfl
  · rfl

-- ---------------------------------------------------------------------------
-- Files wherever they are
-- ---------------------------------------------------------------------------

/-- There is a file with this number and this content, whatever its name. -/
def HasFile (fs : FileSystem) (number : Nat) (content : Bytes) : Prop :=
  ∃ location, (location, Node.file number content) ∈ fs.nodes

theorem hasFile_of_node? {location : Location}
    (h : fs.node? location = some (.file number content)) : fs.HasFile number content :=
  ⟨location, mem_nodes (ne_nil_of_file h) h⟩

namespace HasFile

theorem lt_fresh (h : fs.HasFile number content) : number < fs.fresh := by
  obtain ⟨location, hmem⟩ := h
  exact fs.older _ (List.mem_filterMap.2 ⟨_, hmem, rfl⟩)

theorem content_eq {content' : Bytes} (h : fs.HasFile number content)
    (h' : fs.HasFile number content') : content = content' := by
  obtain ⟨location, hmem⟩ := h
  obtain ⟨location', hmem'⟩ := h'
  cases eq_of_number fs.unshared hmem hmem' rfl rfl
  rfl

theorem of_drop {location : Location} (h : (fs.drop location).HasFile number content) :
    fs.HasFile number content := by
  obtain ⟨at', hmem⟩ := h
  exact ⟨at', (List.mem_filter.1 hmem).1⟩

theorem of_remove (h : fs'.HasFile number content) (hremove : fs.remove path = .ok fs') :
    fs.HasFile number content := by
  rw [(remove_eq_drop hremove).2] at h
  exact h.of_drop

theorem of_rename {source target : String} (h : fs'.HasFile number content)
    (hrename : fs.rename source target = .ok fs') : fs.HasFile number content := by
  rcases rename_eq_move hrename with ⟨rfl, -⟩ | ⟨rfl, -⟩
  · exact h
  · obtain ⟨location, hmem⟩ := h
    obtain ⟨⟨at', node⟩, hbefore, heq⟩ := List.mem_map.1 hmem
    cases heq
    exact of_drop ⟨at', hbefore⟩

/-- A file that is there after one has been opened was there before, or is new and empty. -/
theorem of_openAppend {opened : Nat} (h : fs'.HasFile number content)
    (hopen : fs.openAppend path = .ok (fs', opened)) :
    fs.HasFile number content ∨ number = fs.fresh ∧ content = [] := by
  obtain ⟨directory, name, -, ⟨rfl, -⟩ | ⟨rfl, -⟩⟩ := openAppend_eq_ok hopen
  · exact .inl h
  · obtain ⟨location, hmem⟩ := h
    rcases List.mem_cons.1 hmem with hnew | hold
    · cases hnew
      exact .inr ⟨rfl, rfl⟩
    · exact .inl (of_drop ⟨location, hold⟩)

/-- A write changes the file it goes to and no other. -/
theorem of_append {opened : Nat} {bytes : Bytes}
    (h : (fs.append opened bytes).HasFile number content) :
    ∃ before, fs.HasFile number before ∧
      content = if number = opened then before ++ bytes else before := by
  obtain ⟨location, hmem⟩ := h
  obtain ⟨⟨at', node⟩, hbefore, heq⟩ := List.mem_map.1 hmem
  have hnode := congrArg Prod.snd heq
  cases node with
  | directory => cases hnode
  | file n before =>
    dsimp only [Node.rewritten] at hnode
    split at hnode
    · -- the open file gets the bytes behind what it held
      rename_i hopened
      obtain ⟨rfl, rfl⟩ := Node.file.inj hnode
      exact ⟨before, ⟨at', hbefore⟩, (if_pos hopened).symm⟩
    · -- another file is left as it is
      rename_i hother
      obtain ⟨rfl, rfl⟩ := Node.file.inj hnode
      exact ⟨before, ⟨at', hbefore⟩, (if_neg hother).symm⟩

end HasFile

end FileSystem

end Flagpost
