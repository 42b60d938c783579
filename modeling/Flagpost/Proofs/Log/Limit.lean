import Flagpost.Proofs.Log.Rotation

/-!
# Flagpost — the limit of a rotated log

A log counts the bytes of its file and never looks at the file again. The count is
right as long as nobody else writes to the file, so the file stays within the limit,
unless it is a single write that is larger.

When a log is opened again the bytes of the file are counted, which gives the number
that is known already, and the file that is opened is the one that is open. So what
a log does later does not depend on whether it has been opened again in between.

* `number_ne_iff`   — a rotation is a change of the open file, and when there is one;
* `reopen_eq`       — opening a log again gives the log;
* `Run.eq_writeAll` — so a run is told by what was written alone;
* `within_limit`    — every run of writes and reopenings stays within the limit.
-/

namespace Flagpost

namespace RotatingLog

variable {fs fs' : FileSystem} {log log' : RotatingLog} {path : String} {bytes : Bytes}

-- ---------------------------------------------------------------------------
-- Rotations
-- ---------------------------------------------------------------------------

/-- A property that stays when files are removed and when they get other names. -/
structure Stays (P : FileSystem → Prop) : Prop where
  remove {fs fs' : FileSystem} {path : String} : fs.remove path = .ok fs' → P fs → P fs'
  rename {fs fs' : FileSystem} {source target : String} :
    fs.rename source target = .ok fs' → P fs → P fs'

namespace Stays

variable {P : FileSystem → Prop}

theorem shift (hP : Stays P) (h : P fs) (path : String) (index : Nat) :
    P (shift fs path index).1 := by
  induction index generalizing fs with
  | zero => exact h
  | succ index ih =>
    rw [RotatingLog.shift]
    split
    · split
      · rename_i hrename
        exact ih (hP.rename hrename h)
      · exact h
    · exact ih h

/-- However far room is made, files are only removed and renamed. -/
theorem makeRoom (hP : Stays P) (h : P fs) (path : String) (maxBackups : Nat) :
    P (makeRoom fs path maxBackups).1 := by
  rw [RotatingLog.makeRoom]
  -- without backups the log itself is removed
  split
  · split
    · rename_i hremove
      exact hP.remove hremove h
    · exact h
  dsimp only
  split
  · exact h
  -- the place of the oldest backup is free
  rename_i fs₁ hcleared
  have hcleared : P fs₁ := by
    split at hcleared
    · exact hP.remove hcleared h
    · cases hcleared
      exact h
  have hshifted := hP.shift hcleared path (maxBackups - 1)
  split
  · -- some backup could not be moved
    rename_i hshift
    rw [hshift] at hshifted
    exact hshifted
  · rename_i hshift
    rw [hshift] at hshifted
    -- at last the log gets the place of the first backup
    split
    · rename_i hrename
      exact hP.rename hrename hshifted
    · exact hshifted

end Stays

theorem stays_fresh (number : Nat) : Stays (·.fresh = number) where
  remove hremove h := (FileSystem.remove_fresh hremove).trans h
  rename hrename h := (FileSystem.rename_fresh hrename).trans h

theorem makeRoom_fresh (fs : FileSystem) (path : String) (maxBackups : Nat) :
    (makeRoom fs path maxBackups).1.fresh = fs.fresh :=
  (stays_fresh fs.fresh).makeRoom rfl path maxBackups

/-- A rotation gives the log a file with a number that no file had. -/
theorem rotate_number (h : Ready fs log) (hrotate : rotate fs log = (fs', log', .ok ())) :
    log'.number = fs.fresh ∧ fs'.fresh = fs.fresh + 1 := by
  obtain ⟨directory, name, content, hpath, hnode, -⟩ := h
  rw [rotate] at hrotate
  split at hrotate
  · cases hrotate
  rename_i fs₁ hroom
  have hfresh := makeRoom_fresh fs log.path log.maxBackups
  rw [hroom] at hfresh
  obtain ⟨hpath₁, hnone, -⟩ := makeRoom_held hroom hpath hnode
  split at hrotate
  · cases hrotate
  rename_i happend
  cases hrotate
  obtain ⟨directory', name', hplace, ⟨rfl, _, hfile⟩ | ⟨rfl, rfl, -⟩⟩ :=
    FileSystem.openAppend_eq_ok happend
  · -- there was no file at the path when the room had been made
    rw [FileSystem.held_of_resolve hplace, hfile] at hnone
    cases hnone
  · exact ⟨hfresh, congrArg (· + 1) hfresh⟩

theorem Ready.number_lt (h : Ready fs log) : log.number < fs.fresh := by
  obtain ⟨directory, name, content, -, hnode, -⟩ := h
  refine fs.older _ (List.mem_filterMap.2 ⟨_, FileSystem.mem_nodes ?_ hnode, rfl⟩)
  exact FileSystem.ne_nil_of_file hnode

/-- The open file changes when the log is full, and otherwise the write is all that
changes. -/
theorem number_ne_iff (h : Ready fs log) (hwrite : write fs log bytes = (fs', log', .ok ())) :
    (log'.number ≠ log.number ↔ log.isFull bytes.length = true) ∧
      (log'.number = log.number → fs' = fs.append log.number bytes) := by
  rw [write] at hwrite
  split at hwrite
  · cases hwrite
  rename_i fs₁ log₁ hrotated
  cases hwrite
  split at hrotated
  · rename_i hfull
    -- the new file has a number of its own
    have hnumber := (rotate_number h hrotated).1
    have hne : log₁.number ≠ log.number := by
      have hlt := h.number_lt
      omega
    exact ⟨iff_of_true hne hfull, fun hsame => absurd hsame hne⟩
  · -- without a rotation the number stays
    rename_i hfits
    cases hrotated
    exact ⟨iff_of_false (fun hne => hne rfl) hfits, fun _ => rfl⟩

-- ---------------------------------------------------------------------------
-- Reopening
-- ---------------------------------------------------------------------------

/-- Opening a log again changes nothing and gives the log. -/
theorem reopen_eq (h : Ready fs log) :
    openAt fs log.path log.maxBytes log.maxBackups = (fs, .ok log) := by
  obtain ⟨directory, name, content, hpath, hnode, hsize⟩ := h
  have happend : fs.openAppend log.path = .ok (fs, log.number) := by
    rw [FileSystem.openAppend, FileSystem.openFile, hpath]
    dsimp only
    rw [if_neg (by decide), hnode]
    rfl
  rw [openAt, FileSystem.makeAbove_of_resolve hpath]
  dsimp only
  rw [happend]
  dsimp only
  rw [FileSystem.size_eq hnode, ← hsize]

/-- The files and the log after some writes, whatever they answer. -/
def writeAll (fs : FileSystem) (log : RotatingLog) (writes : List Bytes) :
    FileSystem × RotatingLog :=
  writes.foldl (fun s bytes => ((write s.1 s.2 bytes).1, (write s.1 s.2 bytes).2.1)) (fs, log)

theorem writeAll_concat (fs : FileSystem) (log : RotatingLog) (writes : List Bytes)
    (bytes : Bytes) : writeAll fs log (writes ++ [bytes]) =
      ((write (writeAll fs log writes).1 (writeAll fs log writes).2 bytes).1,
        (write (writeAll fs log writes).1 (writeAll fs log writes).2 bytes).2.1) :=
  List.foldl_append

/-- A run leaves what its writes alone would leave. -/
theorem Run.eq_writeAll {fs₁ : FileSystem} {log₁ : RotatingLog} {writes : List Bytes}
    (hrun : Run fs₁ log₁ fs log writes) (hready : Ready fs₁ log₁) :
    (fs, log) = writeAll fs₁ log₁ writes := by
  induction hrun with
  | opened => rfl
  | written _ hwrite ih =>
    rw [writeAll_concat, ← ih, hwrite]
  | reopened hbefore hopen ih =>
    rw [reopen_eq (hbefore.holdLast hready).1] at hopen
    cases hopen
    exact ih

-- ---------------------------------------------------------------------------
-- The limit
-- ---------------------------------------------------------------------------

theorem isFull_iff (h : Ready fs log) (count : Nat) : log.isFull count = true ↔
    0 < log.maxBytes ∧ contentAt fs log.path ≠ [] ∧
      log.maxBytes < (contentAt fs log.path).length + count := by
  rw [isFull, h.size_eq, ← List.length_pos_iff]
  simp [and_assoc]

/-- A write leaves a file within the limit, or one that holds the write alone. -/
theorem write_within (h : Ready fs log) (hlimit : 0 < log.maxBytes)
    (hwrite : write fs log bytes = (fs', log', .ok ())) :
    (contentAt fs' log.path).length ≤ log.maxBytes ∨ contentAt fs' log.path = bytes := by
  obtain ⟨-, -, hcontents⟩ := write_contents h hwrite
  have hlast := getLast?_contents fs' log.path log.maxBackups
  rw [hcontents] at hlast
  split at hlast
  · -- after a rotation the file holds the write alone
    rw [List.getLast?_concat] at hlast
    exact .inr (Option.some.inj hlast).symm
  · rename_i hfits
    rw [List.getLast?_concat] at hlast
    rw [← Option.some.inj hlast]
    -- a log that is not full had nothing in it, or takes the write within its limit
    by_cases hempty : contentAt fs log.path = []
    · exact .inr (by rw [hempty, List.nil_append])
    · refine .inl (Nat.le_of_not_lt fun hover => hfits ?_)
      rw [List.length_append] at hover
      exact (isFull_iff h bytes.length).2 ⟨hlimit, hempty, hover⟩

/-- After a write that was made last the file is within the limit, or it holds that write
alone. -/
theorem Run.within {fs₁ : FileSystem} {log₁ : RotatingLog} {writes : List Bytes}
    (hrun : Run fs₁ log₁ fs log writes) (hready : Ready fs₁ log₁) (hlimit : 0 < log₁.maxBytes)
    {last : Bytes} (hlast : writes.getLast? = some last) :
    (contentAt fs log₁.path).length ≤ log₁.maxBytes ∨ contentAt fs log₁.path = last := by
  induction hrun with
  | opened => cases hlast
  | @written before after log _ _ bytes hbefore hwrite ih =>
    obtain ⟨hready', hlog, -⟩ := hbefore.holdLast hready
    have hpath : log.path = log₁.path := by rw [hlog]
    have hbytes : log.maxBytes = log₁.maxBytes := by rw [hlog]
    rw [List.getLast?_concat] at hlast
    cases hlast
    rw [← hpath, ← hbytes]
    exact write_within hready' (hbytes ▸ hlimit) hwrite
  | reopened hbefore hopen ih =>
    rw [reopen_eq (hbefore.holdLast hready).1] at hopen
    cases hopen
    exact ih hlast

/-- **A log stays within its limit, and reopening it goes unnoticed.** Let a log with a
limit be opened and then be written to and reopened any number of times.

* The size that is kept is that of the file. After a write the file is within the limit,
  or it holds that write alone.
* The next write goes to another file if the log is not empty and would go past its limit
  with the write, and only then. Otherwise the write is added to the open file and nothing
  else changes.
* Reopening never fails and gives the same log. Whatever is written afterwards, the files
  are those that the same writes leave with other reopenings, or with none. -/
theorem within_limit {fs₀ fs₁ : FileSystem} {maxBytes maxBackups : Nat} {log₁ : RotatingLog}
    {writes : List Bytes} (hlimit : 0 < maxBytes)
    (hopen : openAt fs₀ path maxBytes maxBackups = (fs₁, .ok log₁))
    (hrun : Run fs₁ log₁ fs log writes) :
    (log.size = (contentAt fs path).length ∧
      ∀ last, writes.getLast? = some last →
        (contentAt fs path).length ≤ maxBytes ∨ contentAt fs path = last) ∧
    (∀ bytes fs' log', write fs log bytes = (fs', log', .ok ()) →
      (log'.number ≠ log.number ↔
        contentAt fs path ≠ [] ∧ maxBytes < (contentAt fs path).length + bytes.length) ∧
      (log'.number = log.number → fs' = fs.append log.number bytes)) ∧
    openAt fs path maxBytes maxBackups = (fs, .ok log) ∧
    (∀ fs' log', Run fs₁ log₁ fs' log' writes → fs' = fs ∧ log' = log) := by
  obtain ⟨hlog₁, hready₁, -⟩ := openAt_eq_ok hopen
  obtain ⟨hready, hlog, -⟩ := hrun.holdLast hready₁
  have hpath₁ : log₁.path = path := by rw [hlog₁]
  have hbytes₁ : log₁.maxBytes = maxBytes := by rw [hlog₁]
  have hpath : log.path = path := by rw [hlog, hpath₁]
  have hbytes : log.maxBytes = maxBytes := by rw [hlog, hbytes₁]
  have hbackups : log.maxBackups = maxBackups := by rw [hlog, hlog₁]
  refine ⟨⟨?_, fun last hlast => ?_⟩, fun bytes fs' log' hwrite => ?_, ?_, fun fs' log' hother => ?_⟩
  · -- the size is what the file holds
    rw [← hpath]
    exact hready.size_eq
  · -- after a write the file is within the limit or holds the write alone
    rw [← hpath₁, ← hbytes₁]
    exact hrun.within hready₁ (hbytes₁ ▸ hlimit) hlast
  · -- another file is taken when the write would not fit
    obtain ⟨hnumber, hadded⟩ := number_ne_iff hready hwrite
    refine ⟨?_, hadded⟩
    rw [hnumber, isFull_iff hready, hpath, hbytes]
    exact and_iff_right hlimit
  · -- a reopening finds the log as it was left
    rw [← hpath, ← hbytes, ← hbackups]
    exact reopen_eq hready
  · -- two runs with the same writes are those writes, whatever is reopened between them
    have hsame := (hother.eq_writeAll hready₁).trans (hrun.eq_writeAll hready₁).symm
    exact Prod.mk.inj hsame

/-- A log that was above its limit when it was opened is rotated with the first write, an
exact fit is not rotated, and a write above the limit has a file to itself. -/
theorem within_limit_exact_fit :
    let fs₀ := FileSystem.empty.addFile ["app.log"] [1, 2, 3, 4, 5]
    let writes : List Bytes := [[10, 11], [12, 13], [14, 15, 16, 17, 18, 19]]
    ∃ fs₁ log₁ fs log, openAt fs₀ "app.log" 4 2 = (fs₁, .ok log₁) ∧ Run fs₁ log₁ fs log writes ∧
      contents fs "app.log" 2 = [[1, 2, 3, 4, 5], [10, 11, 12, 13], [14, 15, 16, 17, 18, 19]] ∧
      log.size = 6 ∧ openAt fs "app.log" 4 2 = (fs, .ok log) := by
  intro fs₀ writes
  let fs₁ := (openAt fs₀ "app.log" 4 2).1
  let log₁ : RotatingLog := ⟨"app.log", 0, 5, 4, 2⟩
  have hopen : openAt fs₀ "app.log" 4 2 = (fs₁, .ok log₁) := rfl
  have hfirst : Run fs₁ log₁ fs₁ log₁ [] := .opened
  have hsecond := hfirst.written_of_isOk [10, 11] (by decide +kernel)
  have hthird := hsecond.written_of_isOk [12, 13] (by decide +kernel)
  have hrun := hthird.written_of_isOk [14, 15, 16, 17, 18, 19] (by decide +kernel)
  refine ⟨fs₁, log₁, _, _, hopen, hrun, ?_, ?_, (within_limit (by decide) hopen hrun).2.2.1⟩
  · decide +kernel
  · decide +kernel

end RotatingLog

end Flagpost
