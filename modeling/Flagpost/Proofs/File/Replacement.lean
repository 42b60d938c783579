import Flagpost.File.Replacement
import Flagpost.Proofs.File.Operations

/-!
# Flagpost — a file is replaced as a whole or not at all

Whatever steps of a replacement fail, and with whatever cause, the path is
read afterwards as the new content if the replacement succeeded
(`read_of_replace_ok`) and as the old if it did not (`read_of_replace_error`).

The new content is written to a sibling, so until the renaming nothing is
changed where the path leads; the renaming is the last step that can fail.
-/

namespace Flagpost

namespace FileSystem

variable {fs fs' : FileSystem} {faults : Faults} {path : String} {content old : Bytes}

-- ---------------------------------------------------------------------------
-- The directory above
-- ---------------------------------------------------------------------------

theorem makeParent_builds (faults : Faults) (fs : FileSystem) (path : String) :
    Builds (fun l => ∃ before, before <+: Path.steps path ∧ l = Path.reach before) fs
      (fs.makeParent faults path).1 := by
  rw [makeParent]
  split
  · exact .refl _ _
  · rename_i parent hparent
    split
    · exact .refl _ _
    · split
      · exact .refl _ _
      · -- whether all directories could be made or not, those that were made are on the way
        have hbuilds := makeDirectories_parent_builds fs hparent
        split
        · rename_i heq
          rw [heq] at hbuilds
          exact hbuilds
        · rename_i heq
          rw [heq] at hbuilds
          exact hbuilds

/-- The directory of a file that is there need not be made. -/
theorem makeParent_of_read (hf : faults.makeDirectory = none) (h : fs.read path = .ok content) :
    fs.makeParent faults path = (fs, .ok ()) := by
  obtain ⟨directory, name, number, hresolve, _⟩ := read_eq_ok_iff.1 h
  rw [makeParent]
  split
  · rfl
  · rename_i parent hparent
    split
    · rfl
    · rename_i hne
      have hdirectory := isDirectory_parent hresolve hparent (fun he => hne (by simp [he]))
      rw [hf, makeDirectories_of_isDirectory hdirectory]

-- ---------------------------------------------------------------------------
-- The sibling
-- ---------------------------------------------------------------------------

/-- The two trees differ at most in what is at the sibling, which is no
directory. -/
structure SiblingOnly (path : String) (fs fs' : FileSystem) : Prop where
  before : fs.node? (Path.locate (sibling path)) ≠ some .directory
  same : ∀ l, l ≠ Path.locate (sibling path) → fs'.node? l = fs.node? l

/-- A change of the sibling is none of the path. -/
theorem SiblingOnly.read (h : SiblingOnly path fs fs') (hr : fs.read path = .ok old) :
    fs'.read path = .ok old := by
  obtain ⟨directory, name, number, hresolve, _⟩ := read_eq_ok_iff.1 hr
  have hne : Path.locate (sibling path) ≠ Path.locate path :=
    locate_append_ne hresolve (by decide) (by decide)
  refine read_of_keepsOpen (keepsOpen_of_eq_off h.before h.same) (fun n hn => ?_) hr
  rw [h.same _ hne.symm, hn]

theorem unlessFault_eq_ok {α : Type} {fault : Option IoError} {outcome : Except IoError α} {a : α}
    (h : unlessFault fault outcome = .ok a) : fault = none ∧ outcome = .ok a := by
  cases fault with
  | none => exact ⟨rfl, h⟩
  | some e => cases h

/-- What writing the new content did: it was renamed over the path, or at most
the sibling has changed. -/
theorem writeSibling_cases (faults : Faults) (fs : FileSystem) (path : String) (content : Bytes) :
    (∃ fs', fs.writeSibling faults path content = (fs', .ok ()) ∧ fs'.read path = .ok content) ∨
    (∃ fs' e, fs.writeSibling faults path content = (fs', .error e) ∧
      (fs' = fs ∨ SiblingOnly path fs fs')) := by
  rw [writeSibling]
  cases hcreate : unlessFault faults.create (fs.create (sibling path)) with
  | error e => exact .inr ⟨fs, e, rfl, .inl rfl⟩
  | ok created =>
    obtain ⟨opened, number⟩ := created
    obtain ⟨directory, name, hresolve, hbefore, hempty, hsame⟩ :=
      create_eq_ok (unlessFault_eq_ok hcreate).2
    have hlocation : directory ++ [name] = Path.locate (sibling path) := resolve_location hresolve
    have hopened : SiblingOnly path fs opened :=
      ⟨hlocation ▸ hbefore, hlocation ▸ hsame⟩
    -- the open file now holds the content, and nothing else has changed
    have hfull : (opened.append number content).node? (directory ++ [name]) =
        some (.file number content) := node?_rewrite_self (· ++ content) hempty
    have hwritten : SiblingOnly path fs (opened.append number content) := by
      refine ⟨hopened.before, fun l hl => ?_⟩
      rw [append, node?_rewrite_of_ne _ hempty (hlocation ▸ hl), hopened.same l hl]
    dsimp only
    cases hwrite : unlessFault faults.write (.ok (opened.append number content)) with
    | error e => exact .inr ⟨opened, e, rfl, .inr hopened⟩
    | ok written =>
      cases (unlessFault_eq_ok hwrite).2
      dsimp only
      cases hsync : unlessFault faults.sync (.ok ()) with
      | error e => exact .inr ⟨_, e, rfl, .inr hwritten⟩
      | ok _ =>
        dsimp only
        cases hrename : unlessFault faults.rename
            ((opened.append number content).rename (sibling path) path) with
        | error e => exact .inr ⟨_, e, rfl, .inr hwritten⟩
        | ok renamed =>
          -- the sibling is still found where it was opened
          have hkeeps := keepsOpen_of_eq_off hwritten.before hwritten.same
          exact .inl ⟨renamed, rfl, (rename_eq_ok (resolve_of_keepsOpen hkeeps hresolve) hfull
            (unlessFault_eq_ok hrename).2).2⟩

/-- Taking the sibling away is no change of the path. -/
theorem read_withoutSibling (faults : Faults) (h : fs.read path = .ok old) :
    (fs.withoutSibling faults path).read path = .ok old := by
  rw [withoutSibling]
  split
  · rename_i removed hremove
    obtain ⟨hbefore, hsame⟩ := remove_eq_ok (unlessFault_eq_ok hremove).2
    have honly : SiblingOnly path fs removed := ⟨hbefore, hsame⟩
    exact honly.read h
  · exact h

theorem node?_withoutSibling {l : Location} (hl : l ≠ Path.locate (sibling path)) :
    (fs.withoutSibling faults path).node? l = fs.node? l := by
  rw [withoutSibling]
  split
  · rename_i hremove
    exact (remove_eq_ok (unlessFault_eq_ok hremove).2).2 l hl
  · rfl

-- ---------------------------------------------------------------------------
-- The whole replacement
-- ---------------------------------------------------------------------------

/-- A replacement that succeeds leaves the new content. -/
theorem read_of_replace_ok (h : fs.replace faults path content = (fs', .ok ())) :
    fs'.read path = .ok content := by
  rw [replace] at h
  split at h
  · cases h
  · rename_i parent _
    rcases writeSibling_cases faults parent path content with ⟨fs'', hok, hread⟩ | ⟨fs'', e, herror, _⟩
    · rw [hok] at h
      cases h
      exact hread
    · rw [herror] at h
      cases h

/-- A replacement that fails leaves the old content. -/
theorem read_of_replace_error {e : ReplacementError}
    (h : fs.replace faults path content = (fs', .error e)) (hr : fs.read path = .ok old) :
    fs'.read path = .ok old := by
  have hbuilds := makeParent_builds faults fs path
  rw [replace] at h
  split at h
  · -- the directory could not be made
    rename_i hparent
    rw [hparent] at hbuilds
    cases h
    exact hbuilds.read hr
  · rename_i parent hparent
    rw [hparent] at hbuilds
    have hr' := hbuilds.read hr
    rcases writeSibling_cases faults parent path content with ⟨fs'', hok, _⟩ | ⟨fs'', e, herror, hsibling⟩
    · rw [hok] at h
      cases h
    · rw [herror] at h
      cases h
      -- whatever the sibling was left with, it is taken away again
      refine read_withoutSibling faults ?_
      rcases hsibling with rfl | hsibling
      · exact hr'
      · exact hsibling.read hr'

/-- A replacement that fails leaves everything else too, but for directories that it has
made and for the sibling. -/
theorem node?_of_replace_error {e : ReplacementError} {l : Location}
    (h : fs.replace faults path content = (fs', .error e)) (hl : l ≠ Path.locate (sibling path)) :
    fs'.node? l = fs.node? l ∨ fs.node? l = none ∧ fs'.node? l = some .directory := by
  have hbuilds := makeParent_builds faults fs path l
  rw [replace] at h
  split at h
  · rename_i hparent
    rw [hparent] at hbuilds
    cases h
    exact hbuilds.imp_right And.right
  · rename_i parent hparent
    rw [hparent] at hbuilds
    rcases writeSibling_cases faults parent path content with ⟨fs'', hok, _⟩ | ⟨fs'', e, herror, hsibling⟩
    · rw [hok] at h
      cases h
    · rw [herror] at h
      cases h
      -- up to the renaming only the sibling is touched
      have hwritten : fs''.node? l = parent.node? l := by
        rcases hsibling with rfl | hsibling
        · rfl
        · exact hsibling.same l hl
      rw [node?_withoutSibling hl, hwritten]
      exact hbuilds.imp_right And.right

end FileSystem

end Flagpost
