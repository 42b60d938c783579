import Flagpost.Proofs.File.Way
import Flagpost.Proofs.Hook.Trigger

/-!
# Flagpost — where a flag can be written

Whether a flag can be written is decided by the tree before anything is touched:
the path has to end in a name, no file may stand on the way, and there may be no
directory at the end of it, neither one that is there nor one that is made on the
way (`FileSystem.Writable`). When nothing else fails, that is all there is to it
(`Service.canWrite_iff_writable`).

Writing a flag is then one change of the tree, and no more of it has to be known
than what is at each location afterwards (`Service.Flagged`): the flag at the end of
the path, directories on the way, and everything else as it was.

* `Service.writable_of_canWrite` and `Service.canWrite_of_writable` — both directions
  of the first,
* `Service.flagged_of_canWrite` — the second.
-/

namespace Flagpost

namespace FileSystem

variable {fs fs' : FileSystem} {path : String} {l : Location}

-- ---------------------------------------------------------------------------
-- Conditions on the tree
-- ---------------------------------------------------------------------------

/-- The location is on the way to where a path leads, before its last step. -/
def OnWay (path : String) (l : Location) : Prop :=
  ∃ before, before <+: (Path.steps path).dropLast ∧ l = Path.reach before

/-- A file can be written at a path, after the directories above it have been made. -/
structure Writable (fs : FileSystem) (path : String) : Prop where
  /-- The path ends in a name, -/
  ends : ∃ before name, EndsIn path before name
  short : Short (walk path)
  /-- no file stands on the way, -/
  clear : fs.Clear (Path.steps path).dropLast
  /-- and where the path leads, there is no directory -/
  free : fs.node? (Path.locate path) ≠ some .directory
  /-- and none is made on the way. -/
  apart : ¬ OnWay path (Path.locate path)

/-- Without its last entry a list begins like before, but for the whole of it. -/
theorem prefix_dropLast_iff {steps before : List String} (hne : steps ≠ []) :
    before <+: steps.dropLast ↔ before <+: steps ∧ before ≠ steps := by
  obtain ⟨front, last, rfl⟩ := (List.eq_nil_or_concat steps).resolve_left hne
  rw [List.concat_eq_append, List.dropLast_concat, List.prefix_concat_iff]
  refine ⟨fun h => ⟨.inr h, ?_⟩, fun ⟨h, hshort⟩ => h.resolve_left hshort⟩
  rintro rfl
  have hlength := h.length_le
  rw [List.length_append, List.length_singleton] at hlength
  omega

/-- What is on the way to the end of a path is on the way before the last step, or it
is the end. -/
theorem onWay_of_prefix {before : List String} (h : before <+: Path.steps path) :
    OnWay path (Path.reach before) ∨ Path.reach before = Path.locate path := by
  by_cases hall : before = Path.steps path
  · rw [hall]
    exact .inr rfl
  · have hne : Path.steps path ≠ [] := by
      intro hnil
      rw [hnil] at h hall
      exact hall (List.prefix_nil.1 h)
    exact .inl ⟨before, (prefix_dropLast_iff hne).2 ⟨h, hall⟩, rfl⟩

/-- The file at a path that leads to a name is made or emptied, unless there is a
directory. -/
theorem create_of_resolve {directory : Location} {name : String}
    (h : fs.resolve path = .ok (.name directory name false))
    (hfree : fs.node? (directory ++ [name]) ≠ some .directory) :
    ∃ opened, fs.create path = .ok opened := by
  rw [create, openFile, h]
  dsimp only
  rw [if_neg (by decide)]
  split
  · rename_i hdirectory
    exact absurd hdirectory hfree
  · exact ⟨_, rfl⟩
  · exact ⟨_, rfl⟩

theorem node?_of_read {content : Bytes} (h : fs.read path = .ok content) :
    ∃ number, fs.node? (Path.locate path) = some (.file number content) := by
  obtain ⟨directory, name, number, hresolve, hnode⟩ := read_eq_ok_iff.1 h
  have hlocation : directory ++ [name] = Path.locate path := resolve_location hresolve
  exact ⟨number, hlocation ▸ hnode⟩

end FileSystem

namespace Service

open FileSystem (EndsIn OnWay Writable)

variable {m : Moment} {fs fs' : FileSystem} {path : String} {l : Location}

-- ---------------------------------------------------------------------------
-- What writing asks for
-- ---------------------------------------------------------------------------

/-- None of the three steps of writing a flag fails by itself. -/
structure Unfailing (m : Moment) : Prop where
  makeDirectory : m.faults.makeDirectory = none
  create : m.faults.create = none
  write : m.faults.write = none

theorem unfailing_of_faults (h : m.faults = {}) : Unfailing m := by
  constructor <;> rw [h]

/-- A flag is written if its path leads to a name where there is no directory once those
above it have been made. -/
theorem canWrite_of_resolve {made : FileSystem} {directory : Location} {name : String}
    (hm : Unfailing m) (hmade : makeFlagDirectory m fs path = (made, .ok ()))
    (hresolve : made.resolve path = .ok (.name directory name false))
    (hfree : made.node? (directory ++ [name]) ≠ some .directory) : CanWrite m fs path := by
  obtain ⟨⟨opened, number⟩, hcreate⟩ := FileSystem.create_of_resolve hresolve hfree
  rw [CanWrite, hmade]
  refine ⟨rfl, ⟨path, m.now⟩, ?_⟩
  rw [writeFlagFile, hm.create, hm.write, hcreate]
  rfl

theorem canWrite_of_writable (hm : Unfailing m) (h : Writable fs path) : CanWrite m fs path := by
  obtain ⟨before, name, hends⟩ := h.ends
  have hclear := h.clear
  rw [hends.dropLast_steps] at hclear
  obtain ⟨parent, made, hparent, hmade, hbuilds, hresolve⟩ := hends.makeDirectories_parent
    (fun s hs => h.short s (hends.walk_eq ▸ List.mem_append_left [name] hs)) hclear
  have hlocation : Path.reach (before.filter Path.isStep) ++ [name] = Path.locate path :=
    FileSystem.resolve_location hresolve
  refine canWrite_of_resolve hm ?_ hresolve ?_
  · simp [makeFlagDirectory, hparent, hm.makeDirectory, hmade]
  · rw [hlocation]
    -- making directories puts none where the flag goes, for its path is not on its own way
    rcases hbuilds (Path.locate path) with hsame | ⟨⟨first, hfirst, hreach⟩, -, -⟩
    · rw [hsame]
      exact h.free
    · exact absurd ⟨first, hends.dropLast_steps ▸ hfirst, hreach⟩ h.apart

/-- What a flag that can be written says of the tree in which its directory has been
made. -/
theorem CanWrite.made (h : CanWrite m fs path) : Unfailing m ∧ ∃ directory before name,
    EndsIn path before name ∧
      (makeFlagDirectory m fs path).1.resolve path = .ok (.name directory name false) ∧
      (makeFlagDirectory m fs path).1.node? (Path.locate path) ≠ some .directory := by
  obtain ⟨hmade, written, hwritten⟩ := h
  rw [writeFlagFile] at hwritten
  split at hwritten
  · cases hwritten
  rename_i opened number hcreate
  obtain ⟨hfault, hcreate⟩ := FileSystem.unlessFault_eq_ok hcreate
  obtain ⟨directory, name, hresolve, hfree, -⟩ := FileSystem.create_eq_ok hcreate
  obtain ⟨before, hends⟩ := FileSystem.endsIn_of_resolve hresolve
  have hlocation : directory ++ [name] = Path.locate path := FileSystem.resolve_location hresolve
  refine ⟨⟨?_, hfault, ?_⟩, directory, before, name, hends, hresolve, hlocation ▸ hfree⟩
  · -- a fault in making directories would have shown
    obtain ⟨front, hsegments, -⟩ := hends.segments_eq
    rw [makeFlagDirectory, Path.parent?, hends.above?_eq hsegments, Option.map_some] at hmade
    dsimp only at hmade
    split at hmade
    · cases hmade
    · assumption
  · -- and so would one in writing
    split at hwritten
    · cases hwritten
    · assumption

/-- Once the directory of a flag that can be written has been made, there are
directories on the way to it. -/
theorem CanWrite.node?_onWay (h : CanWrite m fs path) (hl : OnWay path l) :
    (makeFlagDirectory m fs path).1.node? l = some .directory := by
  obtain ⟨-, directory, before, name, hends, hresolve, -⟩ := h.made
  obtain ⟨first, hfirst, rfl⟩ := hl
  rw [hends.dropLast_steps] at hfirst
  exact (hends.paved_of_resolve hresolve first hfirst).node?

/-- What can be written could be, by the conditions on the tree, before anything was made. -/
theorem writable_of_canWrite (h : CanWrite m fs path) : Writable fs path := by
  obtain ⟨-, directory, before, name, hends, hresolve, hfree⟩ := h.made
  have hbuilds := makeFlagDirectory_builds m fs path
  refine ⟨⟨before, name, hends⟩, ?_, ?_, ?_, ?_⟩
  · exact FileSystem.descend_short (FileSystem.resolve_eq_ok_iff.1 hresolve).2
  · intro first hfirst number content hfile
    have hdirectory := h.node?_onWay ⟨first, hfirst, rfl⟩
    rw [hbuilds.node? hfile] at hdirectory
    cases hdirectory
  · exact fun hdirectory => hfree (hbuilds.node? hdirectory)
  · exact fun hway => hfree (h.node?_onWay hway)

/-- A flag can be written if and only if nothing fails and its path is one that can be
written. -/
theorem canWrite_iff_writable : CanWrite m fs path ↔ Unfailing m ∧ Writable fs path :=
  ⟨fun h => ⟨h.made.1, writable_of_canWrite h⟩, fun h => canWrite_of_writable h.1 h.2⟩

-- ---------------------------------------------------------------------------
-- What writing does
-- ---------------------------------------------------------------------------

/-- At a location is a file with the flag line of a moment, and nothing else in it. -/
def HoldsFlag (fs : FileSystem) (l : Location) (m : Moment) : Prop :=
  ∃ number, fs.node? l = some (.file number (Utf8.encode (flagLine m.now)))

/-- The second tree is the first after the flag at a path has been written. -/
structure Flagged (m : Moment) (path : String) (fs fs' : FileSystem) : Prop where
  flag : HoldsFlag fs' (Path.locate path) m
  way : ∀ l, OnWay path l → fs'.node? l = some .directory
  rest : ∀ l, l ≠ Path.locate path → ¬ OnWay path l → fs'.node? l = fs.node? l

theorem writeFlag_eq (h : (makeFlagDirectory m fs path).2 = .ok ()) :
    writeFlag m fs path = writeFlagFile m (makeFlagDirectory m fs path).1 path := by
  rw [writeFlag]
  split
  · rename_i heq
    rw [heq] at h
    cases h
  · rename_i heq
    rw [heq]

theorem flagged_of_canWrite (h : CanWrite m fs path) :
    Flagged m path fs (writeFlag m fs path).1 := by
  have hapart := (writable_of_canWrite h).apart
  refine ⟨?_, fun l hl => ?_, fun l hne hoff => ?_⟩
  · -- the flag was written
    rcases writeFlag_cases m fs path with ⟨-, -, hread⟩ | ⟨hcannot, -⟩
    · exact FileSystem.node?_of_read hread
    · exact absurd h hcannot
  · -- the directories on the way are there
    have hne : l ≠ Path.locate path := by
      rintro rfl
      exact hapart hl
    rw [writeFlag_eq h.1, writeFlagFile_off hne]
    exact h.node?_onWay hl
  · -- everything else is as it was
    rcases writeFlag_changes m fs path l with hsame | hpath | ⟨⟨before, hbefore, rfl⟩, -, -⟩
    · exact hsame
    · exact absurd hpath hne
    · rcases FileSystem.onWay_of_prefix hbefore with hway | hend
      · exact absurd hway hoff
      · exact absurd hend hne

end Service

end Flagpost
