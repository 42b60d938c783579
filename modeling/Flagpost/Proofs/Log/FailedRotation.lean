import Flagpost.Proofs.Log.Rotation

/-!
# Flagpost — rotations that fail

A rotation gives up the oldest backup first, then moves the others up, then the log
itself. When one of the later steps fails the write fails and the log is as it was, but
what has been done to the files is not undone, and the next write begins again from there.

Anything may have been done to the files since the log was opened, so nothing is assumed
of them here. What is followed is what the places of the log and its backups hold
(`stored`). A step of a rotation moves a file to the next place, which is free, so it
changes nothing about what is stored, and in which order. Only the first step does.

* `shift_stored`, `makeRoom_stored` — a rotation as far as it gets;
* `failed_write_loses_oldest`       — what a write that fails takes away.
-/

namespace Flagpost

namespace FileSystem

variable {fs fs' : FileSystem} {path : String}

/-- The content of the file at a location. -/
def file? (fs : FileSystem) (location : Location) : Option Bytes :=
  match fs.node? location with
  | some (.file _ content) => some content
  | _ => none

theorem file?_congr {l l' : Location} (h : fs'.node? l' = fs.node? l) :
    fs'.file? l' = fs.file? l := by
  rw [file?, file?, h]

theorem file?_of_none {l : Location} (h : fs.node? l = none) : fs.file? l = none := by
  rw [file?, h]

theorem file?_of_read {content : Bytes} (h : fs.read path = .ok content) :
    fs.file? (Path.locate path) = some content := by
  obtain ⟨directory, name, number, hresolve, hnode⟩ := read_eq_ok_iff.1 h
  have hplace : directory ++ [name] = Path.locate path := resolve_location hresolve
  rw [file?, ← hplace, hnode]

end FileSystem

namespace RotatingLog

open FileSystem (EndsIn)

variable {fs fs' : FileSystem} {log log' : RotatingLog} {path : String} {bytes : Bytes}
variable {before : List String} {name : String} {i j n : Nat}

-- ---------------------------------------------------------------------------
-- The places of a log
-- ---------------------------------------------------------------------------

/-- Where the path of the log, or of a backup, leads. -/
def place (path : String) (index : Nat) : Location := Path.locate (fileAt path index)

/-- What is stored in the first `n` places, the oldest first. -/
def stored (fs : FileSystem) (path : String) : Nat → List Bytes
  | 0 => []
  | n + 1 => (fs.file? (place path n)).toList ++ stored fs path n

theorem place_eq (he : EndsIn path before name) (index : Nat) :
    place path index = Path.reach (before.filter Path.isStep) ++ [name ++ suffix index] := by
  rw [place, fileAt_eq]
  exact he.locate_longer (isTail_suffix index)

theorem place_ne (he : EndsIn path before name) (hne : i ≠ j) : place path i ≠ place path j := by
  rw [place_eq he, place_eq he]
  exact FileSystem.longer_ne _ _ (suffix_ne hne)

theorem place_ne_nil (he : EndsIn path before name) (index : Nat) : place path index ≠ [] := by
  rw [place_eq he]
  simp

/-- A path that leads somewhere finds what is at the place. -/
theorem held_fileAt (he : EndsIn path before name) {at' : FileSystem.Place}
    (h : fs.resolve (fileAt path i) = .ok at') :
    fs.held (fileAt path i) = fs.node? (place path i) := by
  have hlocation := FileSystem.resolve_location h
  rw [fileAt_eq] at h
  obtain ⟨directory, rfl⟩ := (he.longer (isTail_suffix i) h).resolve_eq h
  rw [place, ← hlocation, fileAt_eq]
  exact FileSystem.held_of_resolve h

/-- What a place holds is what is read there, if the path leads somewhere. -/
theorem read_fileAt (he : EndsIn path before name) {at' : FileSystem.Place}
    (h : fs.resolve (fileAt path i) = .ok at') :
    (fs.read (fileAt path i)).toOption = fs.file? (place path i) := by
  have hheld := held_fileAt he h
  rw [FileSystem.held] at hheld
  rw [FileSystem.file?, ← hheld, FileSystem.read]
  rcases fs.find (fileAt path i) with e | ⟨location, _ | ⟨number, content⟩⟩
  · rfl
  · rfl
  · rfl

theorem held_eq_none (he : EndsIn path before name) (h : fs.node? (place path i) = none) :
    fs.held (fileAt path i) = none := by
  cases hheld : fs.held (fileAt path i) with
  | none => rfl
  | some node =>
    obtain ⟨at', hat⟩ := FileSystem.resolve_of_held hheld
    rw [← hheld, held_fileAt he hat, h]

theorem stored_congr (h : ∀ index < n, fs'.node? (place path index) =
    fs.node? (place path index)) : stored fs' path n = stored fs path n := by
  induction n with
  | zero => rfl
  | succ n ih =>
    rw [stored, stored, ih fun index hindex => h index (by omega),
      FileSystem.file?_congr (h n (by omega))]

/-- What goes to the next place, which is free, stays where it was in the order. -/
theorem stored_moved (hi : i + 1 < n)
    (hfree : fs.node? (place path (i + 1)) = none)
    (htarget : fs'.node? (place path (i + 1)) = fs.node? (place path i))
    (hsource : fs'.node? (place path i) = none)
    (hother : ∀ index, index ≠ i → index ≠ i + 1 →
      fs'.node? (place path index) = fs.node? (place path index)) :
    stored fs' path n = stored fs path n := by
  induction n with
  | zero => rfl
  | succ n ih =>
    by_cases hlast : i + 1 = n
    · have hbelow : stored fs' path i = stored fs path i :=
        stored_congr fun index hindex => hother index (by omega) (by omega)
      rw [← hlast, stored, stored, stored, stored, hbelow, FileSystem.file?_of_none hfree,
        FileSystem.file?_of_none hsource, FileSystem.file?_congr htarget]
      rfl
    · rw [stored, stored, ih (by omega),
        FileSystem.file?_congr (hother n (by omega) (by omega))]

-- ---------------------------------------------------------------------------
-- A rotation as far as it gets
-- ---------------------------------------------------------------------------

/-- Giving a file the next place, which is free, changes nothing about what is stored. -/
theorem rename_stored (he : EndsIn path before name) (hi : i + 1 < n)
    (hfree : fs.held (fileAt path (i + 1)) = none)
    (hrename : fs.rename (fileAt path i) (fileAt path (i + 1)) = .ok fs') :
    stored fs' path n = stored fs path n ∧ fs'.held (fileAt path i) = none := by
  obtain ⟨-, at', hat⟩ := FileSystem.resolve_of_rename hrename
  rw [held_fileAt he hat] at hfree
  have hne : place path i ≠ place path (i + 1) := place_ne he (by omega)
  rcases FileSystem.rename_eq_move hrename with ⟨-, hsame⟩ | ⟨rfl, -⟩
  · exact absurd hsame hne
  -- no place is below another
  have hapart : ∀ {i j : Nat}, i ≠ j → ¬ place path i <+: place path j := by
    intro i j hij
    rw [place_eq he, place_eq he]
    exact FileSystem.not_prefix_of_ne _ (FileSystem.longer_ne _ _ (suffix_ne hij))
  have hsource : (fs.move (place path i) (place path (i + 1))).node? (place path i) = none :=
    FileSystem.node?_move_source (place_ne_nil he i) (hapart (by omega))
  refine ⟨stored_moved hi hfree ?_ hsource ?_, held_eq_none he hsource⟩
  · exact FileSystem.node?_move_target (place_ne_nil he i) (place_ne_nil he (i + 1)) hne
  · intro index hindex hindex'
    exact FileSystem.node?_move_elsewhere (place_ne_nil he (i + 1)) (hapart (Ne.symm hindex))
      (hapart (Ne.symm hindex'))

/-- However far the backups are moved, what is stored stays. -/
theorem shift_stored {index : Nat} (he : EndsIn path before name) (hindex : index + 1 < n)
    (hfree : fs.held (fileAt path (index + 1)) = none) :
    stored (shift fs path index).1 path n = stored fs path n ∧
      ((shift fs path index).2 = .ok () → (shift fs path index).1.held (fileAt path 1) = none) := by
  induction index generalizing fs with
  | zero => exact ⟨rfl, fun _ => hfree⟩
  | succ index ih =>
    rw [shift]
    split
    · split
      · rename_i fs₁ hrename
        obtain ⟨hstored, hnone⟩ := rename_stored he hindex hfree hrename
        obtain ⟨hrest, hfirst⟩ := ih (by omega) hnone
        exact ⟨hrest.trans hstored, hfirst⟩
      · exact ⟨rfl, fun h => by cases h⟩
    · rename_i hnone
      exact ih (by omega) (FileSystem.held_of_not_hasPath hnone)

/-- What is given up is the oldest. -/
theorem remove_stored (he : EndsIn path before name)
    (hremove : fs.remove (fileAt path n) = .ok fs') :
    stored fs path (n + 1) =
        (fs.read (fileAt path n)).toOption.toList ++ stored fs' path (n + 1) ∧
      fs'.held (fileAt path n) = none := by
  obtain ⟨⟨content, hread⟩, rfl⟩ := FileSystem.remove_eq_ok_iff.1 hremove
  have hnone : (fs.drop (place path n)).node? (place path n) = none := by
    rw [FileSystem.node?_drop (place_ne_nil he n), if_pos rfl]
  have hbelow : stored (fs.drop (place path n)) path n = stored fs path n := by
    refine stored_congr fun index hindex => ?_
    rw [FileSystem.node?_drop (place_ne_nil he n), if_neg (place_ne he (by omega))]
  refine ⟨?_, held_eq_none he hnone⟩
  show _ = _ ++ stored (fs.drop (place path n)) path (n + 1)
  rw [stored, stored, hbelow, FileSystem.file?_of_none hnone, hread, place,
    FileSystem.file?_of_read hread]
  rfl

theorem read_of_remove_error {e : IoError} (h : fs.remove path = .error e) :
    (fs.read path).toOption.toList = [] := by
  cases hread : fs.read path with
  | error e => rfl
  | ok content =>
    rw [FileSystem.remove_eq_ok_iff.2 ⟨⟨content, hread⟩, rfl⟩] at h
    cases h

theorem read_of_not_hasPath (h : ¬ fs.hasPath path = true) :
    (fs.read path).toOption.toList = [] := by
  cases hread : fs.read path with
  | error e => rfl
  | ok content => exact absurd (FileSystem.hasPath_of_read hread) h

/-- Making room, as far as it gets, gives up the oldest of what is stored, if that is a
file, and nothing else. -/
theorem makeRoom_stored (he : EndsIn path before name) (maxBackups : Nat) :
    stored fs path (maxBackups + 1) = (fs.read (fileAt path maxBackups)).toOption.toList ++
      stored (makeRoom fs path maxBackups).1 path (maxBackups + 1) := by
  rw [makeRoom]
  split
  · rename_i hzero
    subst hzero
    split
    · rename_i hremove
      exact (remove_stored (n := 0) he hremove).1
    · rename_i hremove
      rw [fileAt, read_of_remove_error hremove]
      rfl
  · rename_i hsome
    obtain ⟨last, rfl⟩ := Nat.exists_eq_succ_of_ne_zero hsome
    dsimp only
    split
    · -- the oldest backup cannot be removed
      rename_i hcleared
      split at hcleared
      · rw [show fileAt path last.succ = backup path last.succ from rfl,
          read_of_remove_error hcleared]
        rfl
      · cases hcleared
    · rename_i fs₁ hcleared
      have hgivenUp : stored fs path (last + 2) =
            (fs.read (fileAt path (last + 1))).toOption.toList ++ stored fs₁ path (last + 2) ∧
          fs₁.held (fileAt path (last + 1)) = none := by
        split at hcleared
        · exact remove_stored he hcleared
        · rename_i hnone
          cases hcleared
          refine ⟨?_, FileSystem.held_of_not_hasPath hnone⟩
          rw [show fileAt path (last + 1) = backup path (last + 1) from rfl,
            read_of_not_hasPath hnone]
          rfl
      obtain ⟨hstored, hfree⟩ := hgivenUp
      obtain ⟨hshift, hfirst⟩ := shift_stored (n := last + 2) he (by omega) hfree
      rw [hstored, ← hshift, Nat.succ_sub_one]
      rcases hmoved : shift fs₁ path last with ⟨fs₂, e | _⟩
      · rfl
      · rw [hmoved] at hfirst
        dsimp only
        split
        · rename_i hrename
          rw [(rename_stored (i := 0) (n := last + 2) he (by omega) (hfirst rfl) hrename).1]
        · rfl

/-- A write fails when its rotation does, and then the rotation has got as far as it did in
making room. -/
theorem write_eq_error {e : IoError} (hwrite : write fs log bytes = (fs', log', .error e)) :
    log' = log ∧ fs' = (makeRoom fs log.path log.maxBackups).1 := by
  rw [write] at hwrite
  split at hwrite
  · rename_i hrotated
    cases hwrite
    split at hrotated
    · rw [rotate] at hrotated
      split at hrotated
      · -- making room stopped
        rename_i hroom
        cases hrotated
        exact ⟨rfl, (congrArg Prod.fst hroom).symm⟩
      · rename_i hroom
        -- there was room, but no new file
        split at hrotated
        · cases hrotated
          exact ⟨rfl, (congrArg Prod.fst hroom).symm⟩
        · cases hrotated
    · cases hrotated
  · cases hwrite

theorem exists_error_of_isOk (h : (write fs log bytes).2.2.isOk = false) :
    ∃ e, write fs log bytes = ((write fs log bytes).1, log, .error e) := by
  rcases hwrite : write fs log bytes with ⟨fs', log', e | result⟩
  · obtain ⟨rfl, -⟩ := write_eq_error hwrite
    exact ⟨e, rfl⟩
  · rw [hwrite] at h
    cases h

/-- The files after so many writes that failed. -/
inductive Failing (log : RotatingLog) (fs : FileSystem) : Nat → FileSystem → Prop
  | none : Failing log fs 0 fs
  | failed {fs' fs'' : FileSystem} {log' : RotatingLog} {bytes : Bytes} {e : IoError} {times : Nat} :
      Failing log fs times fs' → write fs' log bytes = (fs'', log', .error e) →
      Failing log fs (times + 1) fs''

theorem write_stored {e : IoError} (he : EndsIn log.path before name)
    (hwrite : write fs log bytes = (fs', log', .error e)) :
    stored fs log.path (log.maxBackups + 1) =
      (fs.read (fileAt log.path log.maxBackups)).toOption.toList ++
        stored fs' log.path (log.maxBackups + 1) := by
  obtain ⟨-, rfl⟩ := write_eq_error hwrite
  exact makeRoom_stored he log.maxBackups

/-- So many writes that fail lose at most so many files, the oldest first. -/
theorem Failing.stored {times : Nat} (he : EndsIn log.path before name)
    (h : Failing log fs times fs') :
    ∃ lost, lost.length ≤ times ∧ RotatingLog.stored fs log.path (log.maxBackups + 1) =
      lost ++ RotatingLog.stored fs' log.path (log.maxBackups + 1) := by
  induction h with
  | none => exact ⟨[], Nat.le_refl _, rfl⟩
  | @failed fs' fs'' log' bytes e times _ hwrite ih =>
    obtain ⟨lost, hlength, hstored⟩ := ih
    refine ⟨lost ++ (fs'.read (fileAt log.path log.maxBackups)).toOption.toList, ?_, ?_⟩
    · rw [List.length_append]
      -- what is read at one place is one file at most
      have hone : (fs'.read (fileAt log.path log.maxBackups)).toOption.toList.length ≤ 1 := by
        cases (fs'.read (fileAt log.path log.maxBackups)).toOption <;> simp
      omega
    · rw [hstored, write_stored he hwrite, List.append_assoc]

/-- **A write that fails loses the oldest backup, and nothing else.** Let a log have been
opened at a path. Whatever has been done to the files since, and however far the rotation
of a write gets before it fails:

* What a place holds is what is read there, if the path leads somewhere.
* The log is as it was. What its places held they still hold, in the same order, but for
  the file at the place of the oldest backup, which is gone if it could be read.
* So nothing is lost if and only if there was no such file.
* Writes that fail one after the other lose at most one file each, the oldest first. -/
theorem failed_write_loses_oldest {fs₀ fs₁ : FileSystem} {maxBytes maxBackups : Nat}
    {log₁ : RotatingLog} (hopen : openAt fs₀ path maxBytes maxBackups = (fs₁, .ok log₁))
    (hpath : log.path = path) (hbackups : log.maxBackups = maxBackups) :
    (∀ (fs : FileSystem) index at', fs.resolve (fileAt path index) = .ok at' →
      (fs.read (fileAt path index)).toOption = fs.file? (place path index)) ∧
    (∀ bytes fs' log' e, write fs log bytes = (fs', log', .error e) → log' = log ∧
      stored fs path (maxBackups + 1) = (fs.read (fileAt path maxBackups)).toOption.toList ++
        stored fs' path (maxBackups + 1) ∧
      (stored fs' path (maxBackups + 1) = stored fs path (maxBackups + 1) ↔
        ∀ content, fs.read (fileAt path maxBackups) ≠ .ok content)) ∧
    ∀ times fs', Failing log fs times fs' → ∃ lost, lost.length ≤ times ∧
      stored fs path (maxBackups + 1) = lost ++ stored fs' path (maxBackups + 1) := by
  obtain ⟨hlog₁, ⟨directory, name, -, hresolve, -⟩, -⟩ := openAt_eq_ok hopen
  have hpath₁ : log₁.path = path := by rw [hlog₁]
  obtain ⟨before, he⟩ := FileSystem.endsIn_of_resolve hresolve
  rw [hpath₁, ← hpath] at he
  rw [← hpath, ← hbackups]
  refine ⟨fun fs index at' => read_fileAt he, fun bytes fs' log' e hwrite => ?_,
    -- the path of an opened log leads to a name, so the places beside it can be told apart
    fun times fs' hfailing => hfailing.stored he⟩
  have hstored := write_stored he hwrite
  refine ⟨(write_eq_error hwrite).1, hstored, ?_⟩
  rw [hstored, List.self_eq_append_left]
  cases fs.read (fileAt log.path log.maxBackups) with
  | error e => simp [Except.toOption]
  | ok content => simp [Except.toOption]

/-- The log has been removed. The only backup goes to the place of the oldest, so the first
write that fails loses nothing. -/
theorem failed_write_loses_oldest_gap :
    let fs₀ := FileSystem.empty.addFile ["app.log.1"] [1]
    ∃ fs₁ log₁ fs log fs' e, openAt fs₀ "app.log" 4 2 = (fs₁, .ok log₁) ∧
      log = (write fs₁ log₁ [3, 3, 3, 3]).2.1 ∧
      ((write fs₁ log₁ [3, 3, 3, 3]).1.remove "app.log").toOption = some fs ∧
      write fs log [4] = (fs', log, .error e) ∧
      contentAt fs "app.log.1" = [1] ∧ contentAt fs' "app.log.2" = [1] ∧
      stored fs' "app.log" 3 = stored fs "app.log" 3 := by
  intro fs₀
  let fs₁ := (openAt fs₀ "app.log" 4 2).1
  let log₁ : RotatingLog := ⟨"app.log", 1, 0, 4, 2⟩
  let log : RotatingLog := ⟨"app.log", 1, 4, 4, 2⟩
  let fs := (write fs₁ log₁ [3, 3, 3, 3]).1.drop ["app.log"]
  let fs' := (write fs log [4]).1
  have hopen : openAt fs₀ "app.log" 4 2 = (fs₁, .ok log₁) := rfl
  have hfails : (write fs log [4]).2.2.isOk = false := by decide +kernel
  obtain ⟨e, hwrite⟩ := exists_error_of_isOk hfails
  -- nothing is at the place of the oldest backup
  have hnone : ∀ content, fs.read "app.log.2" ≠ .ok content := by
    intro content hread
    have hmissing : fs.hasPath "app.log.2" = false := by decide +kernel
    rw [FileSystem.hasPath_of_read hread] at hmissing
    cases hmissing
  obtain ⟨-, hstep, -⟩ := failed_write_loses_oldest hopen (show log.path = "app.log" from rfl) rfl
  have hstored := (hstep _ _ _ _ hwrite).2.2.2 hnone
  refine ⟨fs₁, log₁, fs, log, fs', e, hopen, ?_, ?_, hwrite, ?_, ?_, hstored⟩
  · decide +kernel
  · decide +kernel
  · decide +kernel
  · decide +kernel

/-- The log has been removed, and two writes that fail lose both backups. -/
theorem failed_writes_lose_backups :
    let fs₀ := (FileSystem.empty.addFile ["app.log.1"] [1]).addFile ["app.log.2"] [2]
    let fs₁ := (openAt fs₀ "app.log" 4 2).1
    let log₁ : RotatingLog := ⟨"app.log", 2, 0, 4, 2⟩
    let written := write fs₁ log₁ [3, 3, 3, 3]
    let fs := written.1.drop ["app.log"]
    let first := write fs written.2.1 [4]
    let second := write first.1 first.2.1 [4]
    (openAt fs₀ "app.log" 4 2).2.toOption = some log₁ ∧ written.2.2.isOk = true ∧
      (written.1.remove "app.log").toOption = some fs ∧
      stored fs "app.log" 3 = [[2], [1]] ∧
      first.2.2.isOk = false ∧ stored first.1 "app.log" 3 = [[1]] ∧
      second.2.2.isOk = false ∧ stored second.1 "app.log" 3 = [] := by
  decide +kernel

end RotatingLog

end Flagpost
