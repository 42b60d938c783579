import Flagpost.Log.RotatingLog
import Flagpost.Proofs.File.Siblings
import Flagpost.Proofs.Text.Digits

/-!
# Flagpost — what a rotated log loses

A log and its backups hold, from the oldest backup to the log itself, the end of
all that was ever written to them. A write adds to the log; a rotation moves each
file to the next backup, so that nothing but the content of the oldest one goes.

The files are named by a path and the same path with an index behind it
(`fileAt`), and what is at these paths is followed by `FileSystem.held_longer` and
`rename_longer`. A backup that is missing leaves a gap that moves with the others,
and an index that makes the name too long is a backup that is missing for good.

* `shift_held`, `rotate_eq_ok`   — a rotation moves every file by one;
* `write_contents`               — what a write does to the contents of the files;
* `HoldLast`                     — the files hold the last of what was written, each
  piece as a whole;
* `oldest_lost_only`             — every run of writes and reopenings keeps to that.
-/

namespace Flagpost

/-- The bytes of a file; a directory has none. -/
def Node.content : Node → Bytes
  | .directory => []
  | .file _ content => content

namespace RotatingLog

open FileSystem (IsTail KeepsOpen held_longer held_of_resolve)

variable {fs fs' : FileSystem} {log log' : RotatingLog} {path : String} {bytes : Bytes}
variable {directory : Location} {name : String} {number : Nat} {content : Bytes}

-- ---------------------------------------------------------------------------
-- The files of a log
-- ---------------------------------------------------------------------------

/-- The path of the log and, from the first on, those of its backups. -/
def fileAt (path : String) : Nat → String
  | 0 => path
  | index + 1 => backup path (index + 1)

/-- What stands behind the path of the log in the path of a backup. -/
def suffix : Nat → String
  | 0 => ""
  | index + 1 => "." ++ String.ofList (Decimal.digits (index + 1))

theorem fileAt_eq (path : String) (index : Nat) : fileAt path index = path ++ suffix index := by
  cases index with
  | zero => exact String.append_empty.symm
  | succ index => exact String.append_assoc

theorem toList_suffix_succ (index : Nat) :
    (suffix (index + 1)).toList = '.' :: Decimal.digits (index + 1) := by
  rw [suffix, String.toList_append]
  exact congrArg ('.' :: ·) String.toList_ofList

theorem isTail_suffix (index : Nat) : IsTail (suffix index) := by
  cases index with
  | zero => exact FileSystem.isTail_empty
  | succ index =>
    have hdigit : ∀ c ∈ Decimal.digits (index + 1), c.isDigit = true := fun c hc =>
      Decimal.isDigit_of_mem_padded (by rw [Decimal.padded_zero]; exact hc)
    -- a suffix has a dot and digits only
    have hnone : ∀ c, c ≠ '.' → c.isDigit = false → c ∉ (suffix (index + 1)).toList := by
      intro c hdot hc hmem
      rw [toList_suffix_succ] at hmem
      rcases List.mem_cons.1 hmem with rfl | hmem
      · exact hdot rfl
      · rw [hdigit c hmem] at hc
        cases hc
    refine ⟨hnone '/' (by decide) (by decide), hnone '\x00' (by decide) (by decide), .inr ?_⟩
    obtain ⟨c, digits, hdigits, -⟩ := Decimal.exists_isDigit_cons_padded 0 (index + 1)
    rw [Decimal.padded_zero] at hdigits
    rw [← String.length_toList, toList_suffix_succ, hdigits]
    simp

theorem suffix_injective {i j : Nat} (h : suffix i = suffix j) : i = j := by
  have hlists := congrArg String.toList h
  cases i with
  | zero =>
    cases j with
    | zero => rfl
    | succ j =>
      rw [toList_suffix_succ] at hlists
      cases hlists
  | succ i =>
    cases j with
    | zero =>
      rw [toList_suffix_succ] at hlists
      cases hlists
    | succ j =>
      rw [toList_suffix_succ, toList_suffix_succ, List.cons.injEq] at hlists
      exact Decimal.digits_injective hlists.2

theorem suffix_ne {i j : Nat} (h : i ≠ j) : suffix i ≠ suffix j :=
  fun hsuffix => h (suffix_injective hsuffix)

theorem backup_ne (directory : Location) (name : String) (index : Nat) :
    directory ++ [name ++ suffix (index + 1)] ≠ directory ++ [name] := by
  have hsuffix : suffix (index + 1) ≠ suffix 0 := suffix_ne (by omega)
  have hplaces := FileSystem.longer_ne directory name hsuffix
  rwa [show suffix 0 = "" from rfl, String.append_empty] at hplaces

/-- What can be read at a path; nothing if there is no file. -/
def contentAt (fs : FileSystem) (path : String) : Bytes := (fs.read path).toOption.getD []

theorem contentAt_eq (fs : FileSystem) (path : String) :
    contentAt fs path = ((fs.held path).map Node.content).getD [] := by
  rw [contentAt, FileSystem.read, FileSystem.held]
  cases fs.find path with
  | error e => rfl
  | ok found =>
    obtain ⟨location, node⟩ := found
    cases node with
    | directory => rfl
    | file number content => rfl

theorem contentAt_of_held {other : String} (h : fs'.held other = fs.held path) :
    contentAt fs' other = contentAt fs path := by
  rw [contentAt_eq, contentAt_eq, h]

theorem contentAt_of_file (h : fs.resolve path = .ok (.name directory name false))
    (hn : fs.node? (directory ++ [name]) = some (.file number content)) :
    contentAt fs path = content := by
  rw [contentAt_eq, held_of_resolve h, hn]
  rfl

/-- The contents of the backups up to `index`, the oldest first, and of the log. -/
def contents (fs : FileSystem) (path : String) : Nat → List Bytes
  | 0 => [contentAt fs path]
  | index + 1 => contentAt fs (fileAt path (index + 1)) :: contents fs path index

theorem contents_congr
    (h : ∀ index, contentAt fs' (fileAt path index) = contentAt fs (fileAt path index))
    (index : Nat) : contents fs' path index = contents fs path index := by
  induction index with
  | zero => exact congrArg (fun c => [c]) (h 0)
  | succ index ih => rw [contents, contents, ih, h]

/-- The contents after the log alone has changed. -/
theorem contents_of_log {active : Bytes} (hlog : contentAt fs' path = active)
    (hbackup : ∀ index,
      contentAt fs' (fileAt path (index + 1)) = contentAt fs (fileAt path (index + 1)))
    (index : Nat) : contents fs' path index = (contents fs path index).dropLast ++ [active] := by
  induction index with
  | zero => rw [contents, contents, hlog]; rfl
  | succ index ih =>
    have hne : contents fs path index ≠ [] := by cases index <;> simp [contents]
    rw [contents, contents, ih, hbackup, List.dropLast_cons_of_ne_nil hne, List.cons_append]

/-- The contents after every file has become the next backup. -/
theorem contents_of_shifted {active : Bytes} (hlog : contentAt fs' path = active) (index : Nat)
    (hbackup : ∀ j < index, contentAt fs' (fileAt path (j + 1)) = contentAt fs (fileAt path j)) :
    contents fs' path index = (contents fs path index).tail ++ [active] := by
  induction index with
  | zero => rw [contents, contents, hlog]; rfl
  | succ index ih =>
    have hnext := ih fun j hj => hbackup j (by omega)
    have hfirst := hbackup index (by omega)
    rw [contents, contents, hnext, hfirst, List.tail_cons]
    cases index with
    | zero => rfl
    | succ index => rfl

-- ---------------------------------------------------------------------------
-- Rotations
-- ---------------------------------------------------------------------------

/-- Removing one of the files leaves the others alone. -/
theorem remove_held {i : Nat} (h : fs.resolve path = .ok (.name directory name false))
    (hremove : fs.remove (fileAt path i) = .ok fs') :
    KeepsOpen fs fs' ∧ fs'.held (fileAt path i) = none ∧
      ∀ j, j ≠ i → fs'.held (fileAt path j) = fs.held (fileAt path j) := by
  simp only [fileAt_eq] at hremove ⊢
  obtain ⟨hkeeps, hnone, hother⟩ := FileSystem.remove_longer (isTail_suffix i) h hremove
  exact ⟨hkeeps, hnone, fun j hj => hother _ (isTail_suffix j) (suffix_ne hj)⟩

/-- Giving one of the files the name of another leaves the rest alone. -/
theorem rename_held {i j : Nat} (hne : i ≠ j)
    (h : fs.resolve path = .ok (.name directory name false))
    (hrename : fs.rename (fileAt path i) (fileAt path j) = .ok fs')
    (h' : fs'.resolve path = .ok (.name directory name false)) :
    fs'.held (fileAt path j) = fs.held (fileAt path i) ∧ fs'.held (fileAt path i) = none ∧
      ∀ m, m ≠ i → m ≠ j → fs'.held (fileAt path m) = fs.held (fileAt path m) := by
  simp only [fileAt_eq] at hrename ⊢
  obtain ⟨htarget, hsource, hother⟩ := FileSystem.rename_longer (isTail_suffix i) (isTail_suffix j)
    (suffix_ne hne) h hrename h'
  exact ⟨htarget, hsource, fun m hi hj => hother _ (isTail_suffix m) (suffix_ne hi) (suffix_ne hj)⟩

/-- If the log can be found after its backups have been moved, it could before. -/
theorem resolve_of_shift {index : Nat} (hshift : shift fs path index = (fs', .ok ()))
    (h : fs'.resolve path = .ok (.name directory name false)) :
    fs.resolve path = .ok (.name directory name false) := by
  obtain ⟨before, he⟩ := FileSystem.endsIn_of_resolve h
  induction index generalizing fs with
  | zero =>
    cases hshift
    exact h
  | succ index ih =>
    rw [shift] at hshift
    split at hshift
    · rename_i hsome
      split at hshift
      · -- the path of the backup leads somewhere, so that of the log does
        rw [FileSystem.hasPath_eq_isSome, Option.isSome_iff_exists] at hsome
        obtain ⟨node, hnode⟩ := hsome
        obtain ⟨place, hplace⟩ := FileSystem.resolve_of_held hnode
        have hbackup : fs.resolve (path ++ suffix (index + 1)) = .ok place := by
          rw [← fileAt_eq]
          exact hplace
        obtain ⟨directory', hpath⟩ := he.resolve_shorter (isTail_suffix _) hbackup
        rw [hpath, he.resolve_unique h hpath]
      · cases hshift
    · exact ih hshift

/-- Moving the backups up to `index` makes room for the first one. -/
theorem shift_held {index : Nat} (hshift : shift fs path index = (fs', .ok ()))
    (h : fs'.resolve path = .ok (.name directory name false))
    (hfree : fs.held (fileAt path (index + 1)) = none) :
    fs'.held path = fs.held path ∧ fs'.held (fileAt path 1) = none ∧
      (∀ j < index, fs'.held (fileAt path (j + 2)) = fs.held (fileAt path (j + 1))) ∧
      ∀ j, index + 1 < j → fs'.held (fileAt path j) = fs.held (fileAt path j) := by
  induction index generalizing fs with
  | zero =>
    cases hshift
    exact ⟨rfl, hfree, fun j hj => absurd hj (Nat.not_lt_zero j), fun _ _ => rfl⟩
  | succ index ih =>
    have hbefore := resolve_of_shift hshift h
    rw [shift] at hshift
    split at hshift
    · split at hshift
      · rename_i fs₁ hrename
        have hpath₁ := resolve_of_shift hshift h
        obtain ⟨htarget, hsource, hsame⟩ := rename_held (i := index + 1) (j := index + 2) (by omega)
          hbefore hrename hpath₁
        obtain ⟨hlog, hfirst, hmoves, hrest⟩ := ih hshift hsource
        refine ⟨hlog.trans (hsame 0 (by omega) (by omega)), hfirst, ?_, ?_⟩
        · intro j hj
          by_cases hlast : j = index
          · rw [hlast, hrest (index + 2) (by omega), htarget]
          · rw [hmoves j (by omega), hsame (j + 1) (by omega) (by omega)]
        · intro j hj
          rw [hrest j (by omega), hsame j (by omega) (by omega)]
      · cases hshift
    · -- a gap is where the backup before it has come to be
      rename_i hnone
      have hvacant : fs.held (fileAt path (index + 1)) = none :=
        FileSystem.held_of_not_hasPath hnone
      obtain ⟨hlog, hfirst, hmoves, hrest⟩ := ih hshift hvacant
      refine ⟨hlog, hfirst, ?_, fun j hj => hrest j (by omega)⟩
      intro j hj
      by_cases hlast : j = index
      · rw [hlast, hrest (index + 2) (by omega), hvacant, hfree]
      · exact hmoves j (by omega)

/-- Giving up a backup, if there is one, leaves the other files alone. -/
theorem giveUp_held {i : Nat} (h : fs.resolve path = .ok (.name directory name false))
    (hcleared :
      (if fs.hasPath (fileAt path i) then fs.remove (fileAt path i) else .ok fs) = .ok fs') :
    KeepsOpen fs fs' ∧ fs'.held (fileAt path i) = none ∧
      ∀ j, j ≠ i → fs'.held (fileAt path j) = fs.held (fileAt path j) := by
  split at hcleared
  · exact remove_held h hcleared
  · rename_i hnone
    cases hcleared
    exact ⟨KeepsOpen.refl fs, FileSystem.held_of_not_hasPath hnone, fun _ _ => rfl⟩

/-- Making room moves every file to the next backup and leaves none at the path. -/
theorem makeRoom_held {maxBackups : Nat}
    (hroom : makeRoom fs path maxBackups = (fs', .ok ()))
    (h : fs.resolve path = .ok (.name directory name false))
    (hn : fs.node? (directory ++ [name]) = some (.file number content)) :
    fs'.resolve path = .ok (.name directory name false) ∧ fs'.held path = none ∧
      ∀ j < maxBackups, fs'.held (fileAt path (j + 1)) = fs.held (fileAt path j) := by
  rw [makeRoom] at hroom
  split at hroom
  · rename_i hzero
    split at hroom
    · rename_i hremove
      cases hroom
      obtain ⟨hkeeps, hnone, -⟩ := remove_held (i := 0) h hremove
      exact ⟨FileSystem.resolve_of_keepsOpen hkeeps h, hnone, fun j hj => by omega⟩
    · cases hroom
  · rename_i hsome
    obtain ⟨last, rfl⟩ := Nat.exists_eq_succ_of_ne_zero hsome
    dsimp only at hroom
    split at hroom
    · cases hroom
    rename_i fs₁ hcleared
    split at hroom
    · cases hroom
    rename_i fs₂ hshift
    split at hroom
    · rename_i fs₃ hrename
      cases hroom
      obtain ⟨hkeeps, hfree, hsame⟩ := giveUp_held (i := last + 1) h hcleared
      -- the renaming of the log shows that it can be found when the backups have been moved
      have hpath₂ : fs₂.resolve path = .ok (.name directory name false) := by
        obtain ⟨before, he⟩ := FileSystem.endsIn_of_resolve h
        obtain ⟨⟨_, hleads⟩, -⟩ := FileSystem.resolve_of_rename hrename
        rw [hleads, he.resolve_unique h hleads]
      obtain ⟨hlog, -, hmoves, -⟩ := shift_held hshift hpath₂ hfree
      have hactive : fs₂.held path = fs.held path := hlog.trans (hsame 0 (by omega))
      have hfile : fs₂.node? (directory ++ [name]) = some (.file number content) := by
        rw [← held_of_resolve hpath₂, hactive, held_of_resolve h, hn]
      obtain ⟨hkeeps₃, -⟩ := FileSystem.rename_eq_ok hpath₂ hfile hrename
      have hpath₃ := FileSystem.resolve_of_keepsOpen hkeeps₃ hpath₂
      obtain ⟨htarget, hsource, hother⟩ := rename_held (i := 0) (j := 1) (by omega) hpath₂
        hrename hpath₃
      refine ⟨hpath₃, hsource, fun j hj => ?_⟩
      cases j with
      | zero => exact htarget.trans hactive
      | succ j =>
        rw [hother (j + 2) (by omega) (by omega), hmoves j (by omega), hsame (j + 1) (by omega)]
    · cases hroom

/-- A rotation moves every file to the next backup and begins an empty one. -/
theorem rotate_eq_ok (hrotate : rotate fs log = (fs', log', .ok ()))
    (h : fs.resolve log.path = .ok (.name directory name false))
    (hn : fs.node? (directory ++ [name]) = some (.file number content)) :
    log' = { log with number := log'.number, size := 0 } ∧
      fs'.resolve log.path = .ok (.name directory name false) ∧
      fs'.node? (directory ++ [name]) = some (.file log'.number []) ∧
      ∀ j < log.maxBackups, fs'.held (fileAt log.path (j + 1)) = fs.held (fileAt log.path j) := by
  rw [rotate] at hrotate
  split at hrotate
  · cases hrotate
  · rename_i fs₁ hroom
    obtain ⟨hpath₁, hnone, hmoves⟩ := makeRoom_held hroom h hn
    -- the place of the log is free after room was made
    have hvacant : fs₁.node? (directory ++ [name]) = none := by
      rw [← held_of_resolve hpath₁, hnone]
    split at hrotate
    · cases hrotate
    · rename_i hopen
      cases hrotate
      obtain ⟨directory', name', hplace, hfile⟩ := FileSystem.openAppend_eq_ok hopen
      rw [hpath₁] at hplace
      cases hplace
      -- so the file that is opened there is a new one
      rcases hfile with ⟨-, _, hfile⟩ | ⟨rfl, rfl, -⟩
      · rw [hvacant] at hfile
        cases hfile
      · have hkeeps : KeepsOpen fs₁ (fs₁.addFile (directory ++ [name]) []) :=
          FileSystem.keepsOpen_of_eq_off (by rw [hvacant]; simp)
            fun l hl => by rw [FileSystem.node?_addFile (by simp), if_neg hl]
        have hpath := FileSystem.resolve_of_keepsOpen hkeeps hpath₁
        refine ⟨rfl, hpath, by rw [FileSystem.node?_addFile (by simp), if_pos rfl], ?_⟩
        -- the backups lie at other places than the new file
        intro j hj
        rw [← hmoves j hj, fileAt_eq]
        refine held_longer (isTail_suffix _) hpath₁ hpath ?_
        rw [FileSystem.node?_addFile (by simp), if_neg (backup_ne directory name j)]

-- ---------------------------------------------------------------------------
-- Writes
-- ---------------------------------------------------------------------------

/-- The open file is the one at the path, and its size is known. -/
def Ready (fs : FileSystem) (log : RotatingLog) : Prop :=
  ∃ directory name content, fs.resolve log.path = .ok (.name directory name false) ∧
    fs.node? (directory ++ [name]) = some (.file log.number content) ∧ log.size = content.length

theorem Ready.size_eq (h : Ready fs log) : log.size = (contentAt fs log.path).length := by
  obtain ⟨directory, name, content, hpath, hnode, hsize⟩ := h
  rw [contentAt_of_file hpath hnode, hsize]

/-- Writing to the open file adds to the log and leaves the backups alone. -/
theorem append_ready (h : Ready fs log) (bytes : Bytes) :
    Ready (fs.append log.number bytes) { log with size := log.size + bytes.length } ∧
      contentAt (fs.append log.number bytes) log.path = contentAt fs log.path ++ bytes ∧
      ∀ j, contentAt (fs.append log.number bytes) (fileAt log.path (j + 1)) =
        contentAt fs (fileAt log.path (j + 1)) := by
  obtain ⟨directory, name, content, hpath, hnode, hsize⟩ := h
  have hself := FileSystem.node?_rewrite_self (· ++ bytes) hnode
  have hkeeps : KeepsOpen fs (fs.append log.number bytes) :=
    FileSystem.keepsOpen_of_eq_off (by rw [hnode]; simp)
      fun l hl => FileSystem.node?_rewrite_of_ne _ hnode hl
  have hpath' := FileSystem.resolve_of_keepsOpen hkeeps hpath
  refine ⟨⟨directory, name, content ++ bytes, hpath', hself, ?_⟩, ?_, fun j => ?_⟩
  · rw [List.length_append]
    exact congrArg (· + bytes.length) hsize
  · -- the file holds one write more
    rw [contentAt_of_file hpath' hself, contentAt_of_file hpath hnode]
  · -- the backups are other files
    refine contentAt_of_held ?_
    rw [fileAt_eq]
    refine held_longer (isTail_suffix _) hpath hpath' ?_
    exact FileSystem.node?_rewrite_of_ne _ hnode (backup_ne directory name j)

/-- A write is added to the log, after a rotation if the log is full. -/
theorem write_contents (h : Ready fs log) (hwrite : write fs log bytes = (fs', log', .ok ())) :
    log' = { log with number := log'.number, size := log'.size } ∧ Ready fs' log' ∧
      contents fs' log.path log.maxBackups =
        if log.isFull bytes.length then (contents fs log.path log.maxBackups).tail ++ [bytes]
        else (contents fs log.path log.maxBackups).dropLast ++ [contentAt fs log.path ++ bytes] := by
  rw [write] at hwrite
  split at hwrite
  · cases hwrite
  rename_i fs₁ log₁ hrotated
  cases hwrite
  split at hrotated
  · -- full: the files move on, and the write has the new one
    rename_i hfull
    obtain ⟨directory, name, content, hpath, hnode, -⟩ := h
    obtain ⟨hlog, hpath₁, hnode₁, hmoves⟩ := rotate_eq_ok hrotated hpath hnode
    have hsize : log₁.size = 0 := by rw [hlog]
    have hready : Ready fs₁ log₁ := ⟨directory, name, [], by rw [hlog]; exact hpath₁, hnode₁, hsize⟩
    obtain ⟨hready', hactive, hbackups⟩ := append_ready hready bytes
    have hlogPath : log₁.path = log.path := by rw [hlog]
    rw [hlogPath, contentAt_of_file hpath₁ hnode₁, List.nil_append] at hactive
    rw [hlogPath] at hbackups
    refine ⟨by rw [hlog], hready', ?_⟩
    rw [if_pos hfull]
    refine contents_of_shifted hactive _ fun j hj => ?_
    rw [hbackups j]
    exact contentAt_of_held (hmoves j hj)
  · -- not full: the write is added to the last file
    rename_i hfits
    cases hrotated
    obtain ⟨hready, hactive, hbackups⟩ := append_ready h bytes
    rw [if_neg hfits]
    exact ⟨rfl, hready, contents_of_log hactive hbackups _⟩

-- ---------------------------------------------------------------------------
-- Opening
-- ---------------------------------------------------------------------------

/-- An opened log is ready, and no file has been changed by opening it. -/
theorem openAt_eq_ok {maxBytes maxBackups : Nat}
    (hopen : openAt fs path maxBytes maxBackups = (fs', .ok log)) :
    log = ⟨path, log.number, log.size, maxBytes, maxBackups⟩ ∧ Ready fs' log ∧
      ∀ l n c, c ≠ [] → (fs'.node? l = some (.file n c) ↔ fs.node? l = some (.file n c)) := by
  have hbuilds := FileSystem.makeAbove_builds fs path
  rw [openAt] at hopen
  split at hopen
  · cases hopen
  · rename_i fs₁ habove
    rw [habove] at hbuilds
    split at hopen
    · cases hopen
    · rename_i happend
      cases hopen
      have hfiles : ∀ l n c, fs₁.node? l = some (.file n c) ↔ fs.node? l = some (.file n c) :=
        fun l n c => ⟨hbuilds.file, hbuilds.node?⟩
      obtain ⟨directory, name, hpath, ⟨rfl, content, hnode⟩ | ⟨rfl, rfl, hnone⟩⟩ :=
        FileSystem.openAppend_eq_ok happend
      · refine ⟨rfl, ⟨directory, name, content, hpath, hnode, ?_⟩, fun l n c _ => hfiles l n c⟩
        exact FileSystem.size_eq hnode
      · have hnode : (fs₁.addFile (directory ++ [name]) []).node? (directory ++ [name]) =
            some (.file fs₁.fresh []) := by
          rw [FileSystem.node?_addFile (by simp), if_pos rfl]
        have hkeeps : KeepsOpen fs₁ (fs₁.addFile (directory ++ [name]) []) :=
          FileSystem.keepsOpen_of_eq_off (by rw [hnone]; simp)
            fun l hl => by rw [FileSystem.node?_addFile (by simp), if_neg hl]
        refine ⟨rfl, ⟨directory, name, [], FileSystem.resolve_of_keepsOpen hkeeps hpath, hnode,
          FileSystem.size_eq hnode⟩, fun l n c hc => ?_⟩
        rw [FileSystem.node?_addFile (by simp), ← hfiles l n c]
        split
        · -- the new file is empty, and there was none before
          rename_i hl
          rw [hl, hnone]
          simp [hc.symm]
        · exact Iff.rfl

/-- Where the path of the log leads somewhere, the files hold what they held before the
log was opened. -/
theorem contents_of_openAt {maxBytes maxBackups : Nat} {place : FileSystem.Place}
    (hopen : openAt fs path maxBytes maxBackups = (fs', .ok log))
    (hplace : fs.resolve path = .ok place) (index : Nat) :
    contents fs' path index = contents fs path index := by
  obtain ⟨hlog, ⟨directory, name, -, hpath', -, -⟩, -⟩ := openAt_eq_ok hopen
  rw [hlog] at hpath'
  obtain ⟨before, he⟩ := FileSystem.endsIn_of_resolve hpath'
  -- opening made no directory, for the path led somewhere before
  have hpath : fs.resolve path = .ok (.name directory name false) := by
    rw [hplace, he.resolve_unique hpath' hplace]
  rw [openAt, FileSystem.makeAbove_of_resolve hpath] at hopen
  dsimp only at hopen
  split at hopen
  · cases hopen
  · rename_i happend
    cases hopen
    obtain ⟨directory', name', hagain, ⟨rfl, -⟩ | ⟨rfl, rfl, hnone⟩⟩ :=
      FileSystem.openAppend_eq_ok happend
    · rfl
    · rw [hpath] at hagain
      cases hagain
      refine contents_congr (fun j => ?_) index
      cases j with
      | zero =>
        -- the log was missing and is empty now
        have hbefore : fs.held path = none := by rw [held_of_resolve hpath, hnone]
        have hafter : (fs.addFile (directory ++ [name]) []).held path =
            some (.file fs.fresh []) := by
          rw [held_of_resolve hpath', FileSystem.node?_addFile (by simp), if_pos rfl]
        show contentAt _ path = contentAt _ path
        rw [contentAt_eq, contentAt_eq, hbefore, hafter]
        rfl
      | succ j =>
        -- the backups are not touched
        refine contentAt_of_held ?_
        rw [fileAt_eq]
        refine held_longer (isTail_suffix _) hpath hpath' ?_
        rw [FileSystem.node?_addFile (by simp), if_neg (backup_ne directory name j)]

/-- Opening a log again changes nothing. -/
theorem openAt_of_ready {maxBytes maxBackups : Nat} (h : Ready fs log)
    (hopen : openAt fs log.path maxBytes maxBackups = (fs', .ok log')) : fs' = fs := by
  obtain ⟨directory, name, content, hpath, hnode, -⟩ := h
  rw [openAt, FileSystem.makeAbove_of_resolve hpath] at hopen
  dsimp only at hopen
  split at hopen
  · cases hopen
  · rename_i happend
    cases hopen
    obtain ⟨directory', name', hagain, ⟨rfl, -⟩ | ⟨-, -, hnone⟩⟩ :=
      FileSystem.openAppend_eq_ok happend
    · rfl
    · -- the log is there, so it is no new file
      rw [hpath] at hagain
      cases hagain
      rw [hnode] at hnone
      cases hnone

-- ---------------------------------------------------------------------------
-- The end of all that was written
-- ---------------------------------------------------------------------------

/-- Some files hold the last of some pieces, in order and each of them as a whole. -/
def HoldLast (files pieces : List Bytes) : Prop :=
  ∃ (lost : List Bytes) (kept : List (List Bytes)),
    pieces = lost ++ kept.flatten ∧ files = kept.map List.flatten

namespace HoldLast

variable {files pieces : List Bytes} {active : Bytes}

theorem refl (files : List Bytes) : HoldLast files files := by
  refine ⟨[], files.map fun file => [file], ?_, ?_⟩
  · rw [List.nil_append]
    induction files with
    | nil => rfl
    | cons file files ih => rw [List.map_cons, List.flatten_cons, ← ih]; rfl
  · simp [Function.comp_def]

theorem suffix (h : HoldLast files pieces) : files.flatten <:+ pieces.flatten := by
  obtain ⟨lost, kept, rfl, rfl⟩ := h
  rw [List.flatten_append, List.flatten_flatten]
  exact List.suffix_append _ _

/-- A piece may be added to the last file. -/
theorem add (h : HoldLast files pieces) (hlast : files.getLast? = some active) (bytes : Bytes) :
    HoldLast (files.dropLast ++ [active ++ bytes]) (pieces ++ [bytes]) := by
  obtain ⟨lost, kept, rfl, rfl⟩ := h
  rw [List.getLast?_map, Option.map_eq_some_iff] at hlast
  obtain ⟨group, hgroup, rfl⟩ := hlast
  obtain ⟨front, rfl⟩ := List.getLast?_eq_some_iff.1 hgroup
  refine ⟨lost, front ++ [group ++ [bytes]], ?_, ?_⟩
  · simp
  · simp

/-- The first file may be given up for a new one. -/
theorem shift (h : HoldLast files pieces) (hne : files ≠ []) (bytes : Bytes) :
    HoldLast (files.tail ++ [bytes]) (pieces ++ [bytes]) := by
  obtain ⟨lost, kept, rfl, rfl⟩ := h
  cases kept with
  | nil => exact absurd rfl hne
  | cons first kept =>
    refine ⟨lost ++ first, kept ++ [[bytes]], ?_, ?_⟩
    · simp
    · simp

end HoldLast

theorem getLast?_contents (fs : FileSystem) (path : String) (index : Nat) :
    (contents fs path index).getLast? = some (contentAt fs path) := by
  induction index with
  | zero => rfl
  | succ index ih => rw [contents, List.getLast?_cons, ih]; rfl

/-- The states of the files and of the log, with what has been written so far, after
writes to the log and reopenings of it that succeeded. -/
inductive Run (fs₁ : FileSystem) (log₁ : RotatingLog) :
    FileSystem → RotatingLog → List Bytes → Prop
  | opened : Run fs₁ log₁ fs₁ log₁ []
  | written {fs fs' : FileSystem} {log log' : RotatingLog} {writes : List Bytes} {bytes : Bytes} :
      Run fs₁ log₁ fs log writes → write fs log bytes = (fs', log', .ok ()) →
      Run fs₁ log₁ fs' log' (writes ++ [bytes])
  | reopened {fs fs' : FileSystem} {log log' : RotatingLog} {writes : List Bytes} :
      Run fs₁ log₁ fs log writes →
      openAt fs log.path log.maxBytes log.maxBackups = (fs', .ok log') →
      Run fs₁ log₁ fs' log' writes

theorem Run.written_of_isOk {fs₁ : FileSystem} {log₁ : RotatingLog} {writes : List Bytes}
    (hrun : Run fs₁ log₁ fs log writes) (bytes : Bytes)
    (hok : (write fs log bytes).2.2.isOk = true) :
    Run fs₁ log₁ (write fs log bytes).1 (write fs log bytes).2.1 (writes ++ [bytes]) := by
  refine hrun.written (Prod.ext rfl (Prod.ext rfl ?_))
  cases hresult : (write fs log bytes).2.2 with
  | error e =>
    rw [hresult] at hok
    cases hok
  | ok result => rfl

/-- Through every run the log stays ready, and its files hold the last of what was
there and was written. -/
theorem Run.holdLast {fs₁ : FileSystem} {log₁ : RotatingLog} {writes : List Bytes}
    (hrun : Run fs₁ log₁ fs log writes) (hready : Ready fs₁ log₁) :
    Ready fs log ∧ log = { log₁ with number := log.number, size := log.size } ∧
      HoldLast (contents fs log₁.path log₁.maxBackups)
        (contents fs₁ log₁.path log₁.maxBackups ++ writes) := by
  induction hrun with
  | opened =>
    rw [List.append_nil]
    exact ⟨hready, rfl, HoldLast.refl _⟩
  | @written fs fs' log log' writes bytes _ hwrite ih =>
    obtain ⟨hready, hlog, hlast⟩ := ih
    obtain ⟨hlog', hready', hcontents⟩ := write_contents hready hwrite
    have hpath : log.path = log₁.path := by rw [hlog]
    have hbackups : log.maxBackups = log₁.maxBackups := by rw [hlog]
    refine ⟨hready', by rw [hlog', hlog], ?_⟩
    rw [← hpath, ← hbackups] at hlast ⊢
    rw [hcontents, ← List.append_assoc]
    split
    · -- a rotation drops the first file, and there is one, the log itself
      refine hlast.shift ?_ bytes
      intro hnil
      have hfile := getLast?_contents fs log.path log.maxBackups
      rw [hnil] at hfile
      cases hfile
    · exact hlast.add (getLast?_contents fs log.path log.maxBackups) bytes
  | @reopened fs fs' log log' writes _ hopen ih =>
    obtain ⟨hready, hlog, hlast⟩ := ih
    obtain ⟨hlog', hready', -⟩ := openAt_eq_ok hopen
    have hsame := openAt_of_ready hready hopen
    refine ⟨hready', by rw [hlog', hlog], ?_⟩
    rw [hsame]
    exact hlast

/-- **Nothing but the oldest backup is lost.** Let a log be opened and then be written
to and reopened any number of times.

* Opening changes no file; where the path led somewhere before, the files of the log
  hold what they held.
* Together, the files hold the end of what was there and of all that was written; each
  write is in one of the files as a whole, and they follow one another in the order in
  which they were written.
* The next write is added to the log, unless it would take a log that is not empty past
  its limit. Then the oldest file goes (with no backups, the log itself) and the write
  has a new one.
* Reopening changes nothing. -/
theorem oldest_lost_only {fs₀ fs₁ : FileSystem} {maxBytes maxBackups : Nat}
    {log₁ : RotatingLog} {writes : List Bytes}
    (hopen : openAt fs₀ path maxBytes maxBackups = (fs₁, .ok log₁))
    (hrun : Run fs₁ log₁ fs log writes) :
    ((∀ l n c, c ≠ [] → (fs₁.node? l = some (.file n c) ↔ fs₀.node? l = some (.file n c))) ∧
      ∀ place, fs₀.resolve path = .ok place →
        contents fs₁ path maxBackups = contents fs₀ path maxBackups) ∧
    ((contents fs path maxBackups).flatten <:+
        (contents fs₁ path maxBackups).flatten ++ writes.flatten ∧
      ∃ (lost : List Bytes) (kept : List (List Bytes)),
        contents fs₁ path maxBackups ++ writes = lost ++ kept.flatten ∧
        contents fs path maxBackups = kept.map List.flatten) ∧
    (∀ bytes fs' log', write fs log bytes = (fs', log', .ok ()) →
      contents fs' path maxBackups =
        if 0 < maxBytes ∧ contentAt fs path ≠ [] ∧
            maxBytes < (contentAt fs path).length + bytes.length then
          (contents fs path maxBackups).tail ++ [bytes]
        else (contents fs path maxBackups).dropLast ++ [contentAt fs path ++ bytes]) ∧
    (∀ fs' log', openAt fs path maxBytes maxBackups = (fs', .ok log') → fs' = fs) := by
  obtain ⟨hlog₁, hready₁, hfiles⟩ := openAt_eq_ok hopen
  obtain ⟨hready, hlog, hlast⟩ := hrun.holdLast hready₁
  have hpath : log.path = path := by rw [hlog, hlog₁]
  have hbackups : log.maxBackups = maxBackups := by rw [hlog, hlog₁]
  have hbytes : log.maxBytes = maxBytes := by rw [hlog, hlog₁]
  have hlast' :
      HoldLast (contents fs path maxBackups) (contents fs₁ path maxBackups ++ writes) := by
    rw [hlog₁] at hlast
    exact hlast
  refine ⟨⟨hfiles, fun place hplace => contents_of_openAt hopen hplace _⟩, ⟨?_, hlast'⟩, ?_, ?_⟩
  · rw [← List.flatten_append]
    exact hlast'.suffix
  · intro bytes fs' log' hwrite
    obtain ⟨-, -, hcontents⟩ := write_contents hready hwrite
    -- the size that is kept is that of the file
    have hfull : log.isFull bytes.length = true ↔ 0 < maxBytes ∧ contentAt fs path ≠ [] ∧
        maxBytes < (contentAt fs path).length + bytes.length := by
      rw [isFull, hready.size_eq, hpath, hbytes, ← List.length_pos_iff]
      simp [and_assoc]
    rw [hpath, hbackups] at hcontents
    rw [hcontents]
    simp only [hfull]
  · intro fs' log' hagain
    rw [← hpath] at hagain
    exact openAt_of_ready hready hagain

/-- With two backups, of which only the first is there, two rotations give it up. -/
theorem oldest_lost_only_gap :
    let fs₀ := FileSystem.empty.addFile ["app.log.1"] [1]
    let writes : List Bytes := [[10, 11], [12, 13], [14, 15]]
    ∃ fs₁ log₁ fs log, openAt fs₀ "app.log" 3 2 = (fs₁, .ok log₁) ∧ Run fs₁ log₁ fs log writes ∧
      contents fs₁ "app.log" 2 = [[], [1], []] ∧
      contents fs "app.log" 2 = [[10, 11], [12, 13], [14, 15]] ∧
      (contents fs "app.log" 2).flatten <:+
        (contents fs₁ "app.log" 2).flatten ++ writes.flatten := by
  intro fs₀ writes
  let fs₁ := (openAt fs₀ "app.log" 3 2).1
  let log₁ : RotatingLog := ⟨"app.log", 1, 0, 3, 2⟩
  have hopen : openAt fs₀ "app.log" 3 2 = (fs₁, .ok log₁) := rfl
  have hfirst : Run fs₁ log₁ fs₁ log₁ [] := .opened
  have hsecond := hfirst.written_of_isOk [10, 11] (by decide +kernel)
  have hthird := hsecond.written_of_isOk [12, 13] (by decide +kernel)
  have hrun := hthird.written_of_isOk [14, 15] (by decide +kernel)
  have hbefore : contents fs₁ "app.log" 2 = [[], [1], []] := by decide +kernel
  refine ⟨fs₁, log₁, _, _, hopen, hrun, hbefore, ?_, (oldest_lost_only hopen hrun).2.1.1⟩
  decide +kernel

end RotatingLog

end Flagpost
