import Flagpost.Proofs.Log.Delivery
import Flagpost.Proofs.Log.Limit
import Flagpost.Proofs.Log.Passes

/-!
# Flagpost — records in a rotated log

Each record of a log goes through a redactor of its own, which offers the log one line
after the other or, when there is too much for that, the whole record at once. In both
cases the log is offered whole lines, and it never parts what it is offered. So a line of
a record is in one file as a whole, in its masked form, however the record was offered
and whenever the log was rotated.

* `Redactor.deliverAll_taken` — a log is offered the records in whole lines;
* `Run.exists_begun`          — the files of a log are the last of those it has begun;
* `Run.hasFile`               — what every file holds after a run;
* `lines_kept_whole`          — where the lines of any records are.
-/

namespace Flagpost

namespace Line

variable {bytes : Bytes} {lines : List Bytes}

-- ---------------------------------------------------------------------------
-- Whole lines
-- ---------------------------------------------------------------------------

/-- One line with its newline. -/
def IsWhole (bytes : Bytes) : Prop := ∃ line, bytes = line ++ [ending] ∧ ending ∉ line

theorem IsWhole.ends (h : IsWhole bytes) : Ends bytes := by
  obtain ⟨line, rfl, -⟩ := h
  exact .inr List.getLast?_concat

theorem IsWhole.ne_nil (h : IsWhole bytes) : bytes ≠ [] := by
  obtain ⟨line, rfl, -⟩ := h
  simp

theorem ends_flatten {pieces : List Bytes} (h : ∀ piece ∈ pieces, Ends piece) :
    Ends pieces.flatten := by
  induction pieces with
  | nil => exact .inl rfl
  | cons piece pieces ih =>
    rw [List.forall_mem_cons] at h
    rw [List.flatten_cons]
    rcases ih h.2 with hnil | hlast
    · rw [hnil, List.append_nil]
      exact h.1
    · exact .inr (by rw [List.getLast?_append, hlast]; rfl)

/-- What is left behind the first line leaves no line unfinished if nothing did. -/
theorem Ends.rest {line rest : Bytes} (h : Ends bytes) (hsplit : split? bytes = some (line, rest)) :
    Ends rest := by
  rcases h with rfl | hlast
  · cases hsplit
  · rw [split?_eq_some hsplit, List.getLast?_append, List.getLast?_cons] at hlast
    cases hrest : rest.getLast? with
    | none => exact .inl (List.getLast?_eq_none_iff.1 hrest)
    | some b =>
      rw [hrest] at hlast
      exact .inr (hrest.trans hlast)

theorem Ends.eq_nil (h : Ends bytes) (hsplit : split? bytes = none) : bytes = [] := by
  rcases h with rfl | hlast
  · rfl
  · exact absurd (List.mem_of_getLast? hlast) (not_mem_of_split?_eq_none hsplit)

/-- Bytes that leave no line unfinished are whole lines. -/
theorem exists_lines (h : Ends bytes) :
    ∃ lines : List Bytes, lines.flatten = bytes ∧ ∀ line ∈ lines, IsWhole line := by
  induction hn : bytes.length using Nat.strong_induction_on generalizing bytes with
  | h n ih =>
    cases hsplit : split? bytes with
    | none => exact ⟨[], (h.eq_nil hsplit).symm, by simp⟩
    | some split =>
      obtain ⟨line, rest⟩ := split
      obtain ⟨lines, hlines, hwhole⟩ :=
        ih rest.length (hn ▸ split?_length hsplit) (h.rest hsplit) rfl
      refine ⟨(line ++ [ending]) :: lines, ?_, ?_⟩
      · rw [List.flatten_cons, hlines, split?_eq_some hsplit, List.append_assoc,
          List.singleton_append]
      · exact List.forall_mem_cons.2 ⟨⟨line, rfl, not_mem_of_split?_eq_some hsplit⟩, hwhole⟩

/-- Pieces that leave no line unfinished come apart into lines, each piece for itself. -/
theorem exists_groups {pieces : List Bytes} (h : ∀ piece ∈ pieces, Ends piece) :
    ∃ groups : List (List Bytes),
      groups.map List.flatten = pieces ∧ ∀ line ∈ groups.flatten, IsWhole line := by
  induction pieces with
  | nil => exact ⟨[], rfl, by simp⟩
  | cons piece pieces ih =>
    rw [List.forall_mem_cons] at h
    obtain ⟨lines, hlines, hwhole⟩ := exists_lines h.1
    obtain ⟨groups, hgroups, hwholes⟩ := ih h.2
    refine ⟨lines :: groups, ?_, ?_⟩
    · rw [List.map_cons, hlines, hgroups]
    · rw [List.flatten_cons, List.forall_mem_append]
      exact ⟨hwhole, hwholes⟩

end Line

namespace Redactor

-- ---------------------------------------------------------------------------
-- Masked lines
-- ---------------------------------------------------------------------------

theorem newline_not_mem_redact {text : List Char} (h : '\n' ∉ text) :
    '\n' ∉ Redaction.redact text := by
  rw [Redaction.redact_eq_apply]
  intro hmem
  have htokens := Redaction.Pass.mem_of_mem_apply (by decide) (by decide) hmem
  have hparameters := Redaction.Pass.mem_of_mem_apply (by decide) (by decide) htokens
  exact h (Redaction.Pass.mem_of_mem_apply (by decide) (by decide) hparameters)

theorem ending_not_mem_maskBytes {line : Bytes} (h : Line.ending ∉ line) :
    Line.ending ∉ maskBytes line := by
  have hlossy : '\n' ∉ Utf8.lossy line := fun hmem =>
    h (Utf8.mem_of_mem_lossy hmem (by decide) (by decide))
  intro hmem
  rw [maskBytes, Utf8.encode_ofList] at hmem
  exact newline_not_mem_redact hlossy (Utf8.mem_of_mem_ofChars (by decide) (by decide) hmem)

/-- The masked form of a line is a line. -/
theorem isWhole_maskBytes {line : Bytes} (h : Line.IsWhole line) :
    Line.IsWhole (maskBytes line) := by
  obtain ⟨line, rfl, hline⟩ := h
  exact ⟨maskBytes line, maskBytes_line line, ending_not_mem_maskBytes hline⟩

theorem maskBytes_flatten {pieces : List Bytes} (h : ∀ piece ∈ pieces, Line.Ends piece) :
    maskBytes pieces.flatten = (pieces.map maskBytes).flatten := by
  induction pieces with
  | nil => exact maskBytes_nil
  | cons piece pieces ih =>
    rw [List.forall_mem_cons] at h
    rw [List.flatten_cons, maskBytes_append h.1, ih h.2, List.map_cons, List.flatten_cons]

end Redactor

-- ---------------------------------------------------------------------------
-- What a destination keeps
-- ---------------------------------------------------------------------------

variable {σ ε : Type} {dest : Destination σ ε} {P : σ → Prop}

/-- Whatever a destination is given, the property stays with its state. -/
structure Destination.Keeps (dest : Destination σ ε) (P : σ → Prop) : Prop where
  write : ∀ s bytes, P s → P (dest.write s bytes).1
  flush : ∀ s, P s → P (dest.flush s).1

/-- What is in the book stays there. -/
theorem Destination.keeps_offer (dest : Destination σ ε) (offer : Offer) :
    dest.booked.Keeps (offer ∈ ·.2) where
  write _ _ h := List.mem_append_left _ h
  flush _ h := h

namespace Redactor

variable {r : Redactor σ}

theorem deliverPending_keeps (h : dest.Keeps P) (hr : P r.sink) :
    P (deliverPending dest r).1.sink := by
  by_cases hempty : r.pending = []
  · rw [deliverPending_of_nil hempty]
    exact hr
  · rw [deliverPending_of_ne_nil hempty]
    exact h.write _ _ hr

theorem deliverLines_keeps (h : dest.Keeps P) {pending : Bytes} {s : σ} (hs : P s) :
    P (deliverLines dest pending s).1.sink := by
  fun_induction deliverLines dest pending s with
  | case1 pending s hnone => exact hs
  | case2 pending s line rest hsplit sink hwrite ih =>
    have hsink := h.write s (maskBytes line ++ [Line.ending]) hs
    rw [hwrite] at hsink
    exact ih hsink
  | case3 pending s line rest hsplit sink e hwrite =>
    have hsink := h.write s (maskBytes line ++ [Line.ending]) hs
    rwa [hwrite] at hsink

theorem write_keeps (h : dest.Keeps P) (chunk : Bytes) (hr : P r.sink) :
    P (write dest r chunk).1.sink := by
  by_cases hne : chunk = []
  · rw [hne, write_nil]
    exact hr
  · by_cases hover : capacity < (r.pending ++ chunk).length
    · rw [fst_write_of_lt hne hover]
      exact deliverPending_keeps h hr
    · rw [fst_write_of_le hne hover]
      exact deliverLines_keeps h hr

theorem writeAll_keeps (h : dest.Keeps P) (chunks : List Bytes) (hr : P r.sink) :
    P (writeAll dest r chunks).sink := by
  induction chunks generalizing r with
  | nil => exact hr
  | cons chunk chunks ih => exact ih (write_keeps h chunk hr)

theorem deliver_keeps (h : dest.Keeps P) (chunks : List Bytes) {sink : σ} (hs : P sink) :
    P (deliver dest sink chunks) :=
  h.flush _ (deliverPending_keeps h (writeAll_keeps h chunks (r := start sink) hs))

/-- A destination after each of some records has gone through a redactor of its own. -/
def deliverAll (dest : Destination σ ε) (sink : σ) (records : List Bytes) : σ :=
  records.foldl (fun sink record => deliver dest sink [record]) sink

theorem deliverAll_keeps (h : dest.Keeps P) (sink : σ) (records : List Bytes) (hs : P sink) :
    P (deliverAll dest sink records) := by
  induction records generalizing sink with
  | nil => exact hs
  | cons record records ih => exact ih _ (deliver_keeps h [record] hs)

theorem deliver_unbooked (s : σ × List Offer) (record : Bytes) :
    deliver dest s.1 [record] = (deliver dest.booked s [record]).1 := by
  have hwritten : (write dest (start s.1) record).1 =
      (write dest.booked (start s) record).1.unbooked := write_unbooked (start s) record
  show (dest.flush (deliverPending dest (write dest (start s.1) record).1).1.sink).1 = _
  rw [hwritten, deliverPending_unbooked]
  rfl

/-- The records leave the same with the book as without it. -/
theorem deliverAll_unbooked (s : σ × List Offer) (records : List Bytes) :
    deliverAll dest s.1 records = (deliverAll dest.booked s records).1 := by
  induction records generalizing s with
  | nil => rfl
  | cons record records ih =>
    show deliverAll dest (deliver dest s.1 [record]) records = _
    rw [deliver_unbooked, ih]
    rfl

-- ---------------------------------------------------------------------------
-- What a destination is offered of a record
-- ---------------------------------------------------------------------------

/-- The offers of pieces that are taken. -/
def taken (pieces : List Bytes) : List Offer := pieces.map fun piece => ⟨maskBytes piece, true⟩

/-- If what is pending is taken as a whole, nothing is left of it. -/
theorem deliverPending_taken {r : Redactor (σ × List Offer)} (hne : r.pending ≠ [])
    (htaken : ∀ offer ∈ (deliverPending dest.booked r).1.sink.2, offer.taken = true) :
    (deliverPending dest.booked r).1.pending = [] ∧
      (deliverPending dest.booked r).1.sink.2 = r.sink.2 ++ taken [r.pending] := by
  rw [deliverPending_of_ne_nil hne] at htaken ⊢
  have hbook := snd_write_booked dest r.sink (maskBytes r.pending)
  have hok : (dest.booked.write r.sink (maskBytes r.pending)).2.isOk = true :=
    htaken ⟨_, _⟩ (hbook ▸ List.mem_append_right _ List.mem_cons_self)
  rw [hok] at hbook ⊢
  exact ⟨rfl, hbook⟩

/-- If every line is taken, nothing is left of whole lines. -/
theorem deliverLines_taken {pending : Bytes} {s : σ × List Offer} (hends : Line.Ends pending)
    (htaken : ∀ offer ∈ (deliverLines dest.booked pending s).1.sink.2, offer.taken = true) :
    (deliverLines dest.booked pending s).1.pending = [] ∧
      ∃ lines : List Bytes, lines.flatten = pending ∧ (∀ line ∈ lines, line.getLast? = some Line.ending) ∧
        (deliverLines dest.booked pending s).1.sink.2 = s.2 ++ taken lines := by
  fun_induction deliverLines dest.booked pending s with
  | case1 pending s hnone =>
    have hnil := hends.eq_nil hnone
    exact ⟨hnil, [], hnil.symm, by simp, (List.append_nil _).symm⟩
  | case2 pending s line rest hsplit sink hwrite ih =>
    have hbook := snd_write_booked dest s (maskBytes line ++ [Line.ending])
    rw [hwrite, ← maskBytes_line] at hbook
    obtain ⟨hnil, lines, hlines, hwhole, hoffers⟩ := ih (hends.rest hsplit) htaken
    refine ⟨hnil, (line ++ [Line.ending]) :: lines, ?_, ?_, ?_⟩
    · rw [List.flatten_cons, hlines, Line.split?_eq_some hsplit, List.append_assoc,
        List.singleton_append]
    · exact List.forall_mem_cons.2 ⟨List.getLast?_concat, hwhole⟩
    · rw [hoffers, hbook, List.append_assoc]
      rfl
  | case3 pending s line rest hsplit sink e hwrite =>
    -- the line that was refused is in the book
    have hbook := snd_write_booked dest s (maskBytes line ++ [Line.ending])
    rw [hwrite] at hbook
    have hrefused := htaken ⟨maskBytes line ++ [Line.ending], false⟩
      (hbook ▸ List.mem_append_right _ List.mem_cons_self)
    cases hrefused

/-- A record is offered as lines, or as a whole if it has too many bytes. Either way no
line is parted, and nothing is left. -/
theorem write_taken {s : σ × List Offer} {record : Bytes}
    (hrecord : record.getLast? = some Line.ending)
    (htaken : ∀ offer ∈ (write dest.booked (start s) record).1.sink.2, offer.taken = true) :
    (write dest.booked (start s) record).1.pending = [] ∧
      ∃ pieces : List Bytes, pieces.flatten = record ∧
      (∀ piece ∈ pieces, piece.getLast? = some Line.ending) ∧
        (write dest.booked (start s) record).1.sink.2 = s.2 ++ taken pieces := by
  have hne : record ≠ [] := by
    rintro rfl
    cases hrecord
  by_cases hover : capacity < ((start s).pending ++ record).length
  · rw [fst_write_of_lt hne hover] at htaken ⊢
    obtain ⟨hnil, hoffer⟩ := deliverPending_taken (r := ⟨record, s⟩) hne htaken
    refine ⟨hnil, [record], List.flatten_singleton, ?_, hoffer⟩
    exact List.forall_mem_singleton.2 hrecord
  · rw [fst_write_of_le hne hover] at htaken ⊢
    exact deliverLines_taken (.inr hrecord) htaken

theorem deliver_taken {s : σ × List Offer} {record : Bytes}
    (hrecord : record.getLast? = some Line.ending)
    (htaken : ∀ offer ∈ (deliver dest.booked s [record]).2, offer.taken = true) :
    ∃ pieces : List Bytes, pieces.flatten = record ∧
      (∀ piece ∈ pieces, piece.getLast? = some Line.ending) ∧
      (deliver dest.booked s [record]).2 = s.2 ++ taken pieces := by
  have hearlier : ∀ offer ∈ (write dest.booked (start s) record).1.sink.2, offer.taken = true :=
    fun offer hmem => htaken offer (deliverPending_keeps (dest.keeps_offer offer) hmem)
  obtain ⟨hnil, pieces, hpieces, hends, hoffers⟩ := write_taken hrecord hearlier
  refine ⟨pieces, hpieces, hends, ?_⟩
  show (deliverPending dest.booked (write dest.booked (start s) record).1).1.sink.2 = _
  rw [deliverPending_of_nil hnil, hoffers]

/-- Of any records, whole lines are offered, and all of them. -/
theorem deliverAll_taken {s : σ × List Offer} {records : List Bytes}
    (hrecords : ∀ record ∈ records, record.getLast? = some Line.ending)
    (htaken : ∀ offer ∈ (deliverAll dest.booked s records).2, offer.taken = true) :
    ∃ pieces : List Bytes, pieces.flatten = records.flatten ∧
      (∀ piece ∈ pieces, piece.getLast? = some Line.ending) ∧
      (deliverAll dest.booked s records).2 = s.2 ++ taken pieces := by
  induction records generalizing s with
  | nil => exact ⟨[], rfl, by simp, (List.append_nil _).symm⟩
  | cons record records ih =>
    rw [List.forall_mem_cons] at hrecords
    have hearlier : ∀ offer ∈ (deliver dest.booked s [record]).2, offer.taken = true :=
      fun offer hmem => htaken offer (deliverAll_keeps (dest.keeps_offer offer) _ records hmem)
    obtain ⟨pieces, hpieces, hends, hoffers⟩ := deliver_taken hrecords.1 hearlier
    obtain ⟨later, hlater, hlaterEnds, hlaterOffers⟩ := ih hrecords.2 htaken
    refine ⟨pieces ++ later, ?_, List.forall_mem_append.2 ⟨hends, hlaterEnds⟩, ?_⟩
    · rw [List.flatten_append, hpieces, hlater, List.flatten_cons]
    · rw [taken, List.map_append, ← List.append_assoc]
      exact hlaterOffers.trans (congrArg (· ++ taken later) hoffers)

end Redactor

namespace RotatingLog

variable {fs fs' fs₁ : FileSystem} {log log' log₁ : RotatingLog} {path : String}
variable {number : Nat} {content : Bytes} {writes : List Bytes}

-- ---------------------------------------------------------------------------
-- What the files hold
-- ---------------------------------------------------------------------------

theorem stays_hasFile (fs₁ : FileSystem) : Stays fun fs =>
    ∀ number content, fs.HasFile number content → fs₁.HasFile number content where
  remove hremove h number content hfile := h number content (hfile.of_remove hremove)
  rename hrename h number content hfile := h number content (hfile.of_rename hrename)

theorem makeRoom_hasFile (path : String) (maxBackups : Nat)
    (h : (makeRoom fs path maxBackups).1.HasFile number content) : fs.HasFile number content :=
  (stays_hasFile fs).makeRoom (fun _ _ hfile => hfile) path maxBackups number content h

/-- After a rotation there are the files there were before and the one that is open, which
is empty. -/
theorem rotate_hasFile (hready : Ready fs log) (hrotate : rotate fs log = (fs', log', .ok ()))
    (h : fs'.HasFile number content) :
    fs.HasFile number content ∧ number ≠ log'.number ∨ content = [] := by
  have hnumber := (rotate_number hready hrotate).1
  rw [rotate] at hrotate
  split at hrotate
  · cases hrotate
  rename_i hroom
  split at hrotate
  · cases hrotate
  rename_i happend
  cases hrotate
  rcases h.of_openAppend happend with hold | ⟨-, hempty⟩
  · -- what is moved keeps its number, and the new file has a later one
    have hfile : fs.HasFile number content :=
      makeRoom_hasFile log.path log.maxBackups (by rw [hroom]; exact hold)
    have hlt := hfile.lt_fresh
    exact .inl ⟨hfile, by omega⟩
  · exact .inr hempty

/-- Let `P` hold of an empty file, and of a file that is written to if it held before.
Then after a write every file is as it was and not the open one, or `P` holds of it. -/
theorem write_hasFile {P : Bytes → Prop} {bytes : Bytes} (hready : Ready fs log)
    (hwrite : write fs log bytes = (fs', log', .ok ())) (hnil : P [])
    (hadd : ∀ content, P content → P (content ++ bytes))
    (hbefore : ∀ number content, fs.HasFile number content →
      fs₁.HasFile number content ∧ number ≠ log.number ∨ P content)
    (h : fs'.HasFile number content) :
    fs₁.HasFile number content ∧ number ≠ log'.number ∨ P content := by
  rw [write] at hwrite
  split at hwrite
  · cases hwrite
  rename_i fs₂ log₂ hrotated
  cases hwrite
  have hrotated : ∀ number content, fs₂.HasFile number content →
      fs₁.HasFile number content ∧ number ≠ log₂.number ∨ P content := by
    split at hrotated
    · -- the file that was open is in place of a backup, and the new one is empty
      intro number content hfile
      rcases rotate_hasFile hready hrotated hfile with ⟨hfile, hne⟩ | rfl
      · exact (hbefore _ _ hfile).imp_left fun hold => ⟨hold.1, hne⟩
      · exact .inr hnil
    · -- nothing was moved
      cases hrotated
      exact hbefore
  -- the bytes are added to the open file, and to no other
  obtain ⟨before, hfile, hcontent⟩ := h.of_append
  rcases hrotated number before hfile with ⟨hold, hne⟩ | hP
  · rw [hcontent, if_neg hne]
    exact .inl ⟨hold, hne⟩
  · rw [hcontent]
    split
    · exact .inr (hadd before hP)
    · exact .inr hP

/-- Let the open file be empty at first, and let `P` hold of an empty file and of a file that
one of the writes is added to, if it held before. Then after a run every file is one there
was, or `P` holds of it. -/
theorem Run.hasFile {P : Bytes → Prop} (hrun : Run fs₁ log₁ fs log writes)
    (hready : Ready fs₁ log₁) (hempty : contentAt fs₁ log₁.path = []) (hnil : P [])
    (hadd : ∀ bytes ∈ writes, ∀ content, P content → P (content ++ bytes)) :
    ∀ number content, fs.HasFile number content →
      fs₁.HasFile number content ∧ number ≠ log.number ∨ P content := by
  induction hrun with
  | opened =>
    intro number content hfile
    -- the open file is the empty one
    by_cases hnumber : number = log₁.number
    · obtain ⟨directory, name, active, hpath, hnode, -⟩ := hready
      rw [contentAt_of_file hpath hnode] at hempty
      rw [hnumber] at hfile
      rw [hfile.content_eq (FileSystem.hasFile_of_node? hnode), hempty]
      exact .inr hnil
    · exact .inl ⟨hfile, hnumber⟩
  | @written before after log log' writes bytes hbefore hwrite ih =>
    rw [List.forall_mem_append, List.forall_mem_singleton] at hadd
    intro number content hfile
    exact write_hasFile (hbefore.holdLast hready).1 hwrite hnil hadd.2 (ih hadd.1) hfile
  | reopened hbefore hopen ih =>
    rw [reopen_eq (hbefore.holdLast hready).1] at hopen
    cases hopen
    exact ih hadd

-- ---------------------------------------------------------------------------
-- Pieces that come apart
-- ---------------------------------------------------------------------------

/-- If pieces that are held together come apart into smaller ones, so do the files. -/
theorem exists_groups_of_flatten {groups kept : List (List Bytes)}
    (h : groups.map List.flatten = kept.flatten) :
    ∃ finer : List (List Bytes),
      finer.flatten = groups.flatten ∧ finer.map List.flatten = kept.map List.flatten := by
  induction kept generalizing groups with
  | nil => exact ⟨[], by rw [List.map_eq_nil_iff.1 h], rfl⟩
  | cons group kept ih =>
    rw [List.flatten_cons] at h
    obtain ⟨first, rest, rfl, hfirst, hrest⟩ := List.map_eq_append_iff.1 h
    obtain ⟨finer, hfiner, hfiles⟩ := ih hrest
    refine ⟨first.flatten :: finer, ?_, ?_⟩
    · rw [List.flatten_cons, hfiner, List.flatten_append]
    · rw [List.map_cons, List.map_cons, hfiles, List.flatten_flatten, hfirst]

theorem length_contents (fs : FileSystem) (path : String) (index : Nat) :
    (contents fs path index).length = index + 1 := by
  induction index with
  | zero => rfl
  | succ index ih => rw [contents, List.length_cons, ih]

/-- The files begun in a run of a log whose files were empty, each with the writes it got.
The first of them is the one that was open, and another one is begun with a write only. The
files of the log are the last of those. -/
theorem Run.exists_begun (hrun : Run fs₁ log₁ fs log writes) (hready : Ready fs₁ log₁)
    (hempty : ∀ file ∈ contents fs₁ log₁.path log₁.maxBackups, file = []) :
    ∃ begun : List (List Bytes), begun ≠ [] ∧ begun.flatten = writes ∧
      (∀ group ∈ begun.tail, group ≠ []) ∧
      contents fs log₁.path log₁.maxBackups <:+
        List.replicate log₁.maxBackups [] ++ begun.map List.flatten := by
  induction hrun with
  | opened =>
    refine ⟨[[]], by simp, rfl, by simp, ?_⟩
    rw [List.eq_replicate_iff.2 ⟨length_contents _ _ _, hempty⟩, List.replicate_succ']
    exact List.suffix_refl _
  | @written fs fs' log log' writes bytes hbefore hwrite ih =>
    obtain ⟨begun, hne, rfl, hlater, hfiles⟩ := ih
    obtain ⟨hready', hlog, -⟩ := hbefore.holdLast hready
    obtain ⟨-, -, hcontents⟩ := write_contents hready' hwrite
    have hpath : log.path = log₁.path := by rw [hlog]
    have hbackups : log.maxBackups = log₁.maxBackups := by rw [hlog]
    rw [hpath, hbackups] at hcontents
    rw [hcontents]
    split
    · -- a new file is begun with the write
      obtain ⟨earlier, hearlier⟩ := (List.tail_suffix _).trans hfiles
      refine ⟨begun ++ [[bytes]], by simp, by simp, ?_, earlier, ?_⟩
      · rw [List.tail_append_of_ne_nil hne, List.forall_mem_append]
        exact ⟨hlater, by simp⟩
      · rw [← List.append_assoc, hearlier]
        simp
    · -- the write goes to the file that was begun last
      obtain ⟨front, group, rfl⟩ := (List.eq_nil_or_concat' begun).resolve_left hne
      have hlast := getLast?_contents fs log₁.path log₁.maxBackups
      obtain ⟨others, hothers⟩ := List.getLast?_eq_some_iff.1 hlast
      obtain ⟨earlier, hearlier⟩ := hfiles
      rw [hothers, List.map_append, List.map_singleton, ← List.append_assoc,
        ← List.append_assoc] at hearlier
      obtain ⟨hfront, hgroup⟩ := List.append_inj' hearlier rfl
      rw [List.singleton_inj] at hgroup
      refine ⟨front ++ [group ++ [bytes]], by simp, by simp, ?_, earlier, ?_⟩
      · cases front with
        | nil => simp
        | cons first front =>
          rw [List.cons_append, List.tail_cons, List.forall_mem_append] at hlater ⊢
          exact ⟨hlater.1, by simp⟩
      · rw [hothers, List.dropLast_concat, hgroup, ← List.append_assoc, hfront]
        simp
  | reopened hbefore hopen ih =>
    rw [reopen_eq (hbefore.holdLast hready).1] at hopen
    cases hopen
    exact ih

/-- If what is written comes apart into lines, the files begun consist of those lines. -/
theorem Run.exists_begun_of_groups {groups : List (List Bytes)}
    (hrun : Run fs₁ log₁ fs log (groups.map List.flatten)) (hready : Ready fs₁ log₁)
    (hempty : ∀ file ∈ contents fs₁ log₁.path log₁.maxBackups, file = [])
    (hsome : ∀ group ∈ groups, group.flatten ≠ []) :
    ∃ begun : List (List Bytes), begun.flatten = groups.flatten ∧
      (∀ file ∈ begun.tail, file ≠ []) ∧
      contents fs log₁.path log₁.maxBackups <:+
        List.replicate log₁.maxBackups [] ++ begun.map List.flatten := by
  obtain ⟨begun, -, hbegun, hlater, hfiles⟩ := hrun.exists_begun hready hempty
  obtain ⟨finer, hfiner, hsame⟩ := exists_groups_of_flatten hbegun.symm
  refine ⟨finer, hfiner, ?_, hsame ▸ hfiles⟩
  rintro _ hfile rfl
  -- a file without a line would have been begun without a write
  have hnothing : [] ∈ begun.tail.map List.flatten := by
    rw [List.map_tail, ← hsame, ← List.map_tail]
    exact List.mem_map.2 ⟨[], hfile, rfl⟩
  obtain ⟨file, hbegan, hflat⟩ := List.mem_map.1 hnothing
  obtain ⟨bytes, rest, rfl⟩ := List.exists_cons_of_ne_nil (hlater file hbegan)
  have hwritten : bytes ∈ groups.map List.flatten := by
    rw [← hbegun]
    exact List.mem_flatten.2 ⟨_, List.mem_of_mem_tail hbegan, List.mem_cons_self⟩
  obtain ⟨group, hgroup, rfl⟩ := List.mem_map.1 hwritten
  rw [List.flatten_cons, List.append_eq_nil_iff] at hflat
  exact hsome group hgroup hflat.1

/-- If what is written comes apart into lines, so does every file that is not as it was. -/
theorem Run.exists_part_of_groups {groups : List (List Bytes)}
    (hrun : Run fs₁ log₁ fs log (groups.map List.flatten)) (hready : Ready fs₁ log₁)
    (hempty : ∀ file ∈ contents fs₁ log₁.path log₁.maxBackups, file = [])
    (hfile : fs.HasFile number content) :
    fs₁.HasFile number content ∨
      ∃ part : List Bytes, (∀ line ∈ part, line ∈ groups.flatten) ∧ content = part.flatten := by
  have hactive : contentAt fs₁ log₁.path = [] :=
    hempty _ (List.mem_of_getLast? (getLast?_contents fs₁ log₁.path log₁.maxBackups))
  refine (hrun.hasFile hready hactive (P := fun content => ∃ part : List Bytes,
    (∀ line ∈ part, line ∈ groups.flatten) ∧ content = part.flatten)
      ⟨[], by simp, rfl⟩ ?_ number content hfile).imp_left And.left
  rintro bytes hbytes content ⟨part, hpart, rfl⟩
  obtain ⟨group, hgroup, rfl⟩ := List.mem_map.1 hbytes
  refine ⟨part ++ group, List.forall_mem_append.2 ⟨hpart, fun line hline => ?_⟩, ?_⟩
  · exact List.mem_flatten.2 ⟨group, hgroup, hline⟩
  · rw [List.flatten_append]

-- ---------------------------------------------------------------------------
-- Records
-- ---------------------------------------------------------------------------

/-- As long as everything is taken, what is offered to a log is a run of it. -/
theorem keeps_run (fs₁ : FileSystem) (log₁ : RotatingLog) :
    destination.booked.Keeps fun s => (∀ offer ∈ s.2, offer.taken = true) →
      Run fs₁ log₁ s.1.1 s.1.2 (s.2.map Offer.piece) where
  write s bytes hrun htaken := by
    have hbook := Redactor.snd_write_booked destination s bytes
    rw [hbook, List.forall_mem_append, List.forall_mem_singleton] at htaken
    rw [hbook, List.map_append]
    exact (hrun htaken.1).written_of_isOk bytes htaken.2
  flush _ hrun := hrun

/-- If everything is taken, the records are a run of the log whose writes are masked lines,
some lines at a time. -/
theorem exists_run {records : List Bytes}
    (hrecords : ∀ record ∈ records, record.getLast? = some Line.ending)
    (htaken : ∀ offer ∈ (Redactor.deliverAll destination.booked ((fs₁, log₁), []) records).2,
      offer.taken = true) :
    ∃ groups : List (List Bytes), groups.flatten.flatten = records.flatten ∧
      (∀ line ∈ groups.flatten, Line.IsWhole line) ∧
      (∀ group ∈ groups.map (List.map Redactor.maskBytes), group.flatten ≠ []) ∧
      Run fs₁ log₁ (Redactor.deliverAll destination (fs₁, log₁) records).1
        (Redactor.deliverAll destination (fs₁, log₁) records).2
        ((groups.map (List.map Redactor.maskBytes)).map List.flatten) := by
  obtain ⟨pieces, hpieces, hends, hoffers⟩ := Redactor.deliverAll_taken hrecords htaken
  obtain ⟨groups, rfl, hwhole⟩ := Line.exists_groups fun piece hpiece => .inr (hends piece hpiece)
  -- a masked line is never empty, so no write is
  have hsome : ∀ group ∈ groups.map (List.map Redactor.maskBytes), group.flatten ≠ [] := by
    intro _ hmasked hnil
    obtain ⟨group, hgroup, rfl⟩ := List.mem_map.1 hmasked
    cases group with
    | nil => cases hends [] (List.mem_map.2 ⟨[], hgroup, rfl⟩)
    | cons line rest =>
      have hline := hwhole line (List.mem_flatten.2 ⟨_, hgroup, List.mem_cons_self⟩)
      rw [List.map_cons, List.flatten_cons, List.append_eq_nil_iff] at hnil
      exact (Redactor.isWhole_maskBytes hline).ne_nil hnil.1
  have hrun := Redactor.deliverAll_keeps (keeps_run fs₁ log₁) ((fs₁, log₁), []) records
    (fun _ => .opened) htaken
  -- what the redactor gave to the log is the masked lines, group by group
  have hwrites : (Redactor.taken (groups.map List.flatten)).map Offer.piece =
      (groups.map (List.map Redactor.maskBytes)).map List.flatten := by
    rw [Redactor.taken, List.map_map, List.map_map, List.map_map]
    refine List.map_congr_left fun group hgroup => ?_
    exact Redactor.maskBytes_flatten fun line hline =>
      (hwhole line (List.mem_flatten.2 ⟨group, hgroup, hline⟩)).ends
  rw [hoffers, List.nil_append, hwrites] at hrun
  refine ⟨groups, by rw [List.flatten_flatten, hpieces], hwhole, hsome, ?_⟩
  rw [Redactor.deliverAll_unbooked ((fs₁, log₁), []) records]
  exact hrun

/-- **No line is parted, and every line is masked.** Let a log whose files are empty be
opened, let each of some records that end in a newline be written at once to a redactor of
its own in front of the log, and let the log refuse nothing it is offered.

* The records are lines, and masked they are their masked lines.
* The masked lines went to one file after the other, each line to one file as a whole, and
  each file but the first was begun with a line. The files of the log are the last of those.
* Each file of the log is empty or ends with a newline.
* Every file there is was there when the log was opened and has not changed, or it consists
  of masked lines. -/
theorem lines_kept_whole {fs₀ : FileSystem} {maxBytes maxBackups : Nat} {records : List Bytes}
    (hopen : openAt fs₀ path maxBytes maxBackups = (fs₁, .ok log₁))
    (hempty : ∀ file ∈ contents fs₁ path maxBackups, file = [])
    (hrecords : ∀ record ∈ records, record.getLast? = some Line.ending)
    (htaken : ∀ offer ∈ (Redactor.deliverAll destination.booked ((fs₁, log₁), []) records).2,
      offer.taken = true) :
    let fs := (Redactor.deliverAll destination (fs₁, log₁) records).1
    ∃ lines : List Bytes,
      (lines.flatten = records.flatten ∧
        Redactor.maskBytes records.flatten = (lines.map Redactor.maskBytes).flatten ∧
        ∀ line ∈ lines, Line.IsWhole line ∧ Line.IsWhole (Redactor.maskBytes line)) ∧
      (∃ begun : List (List Bytes), begun.flatten = lines.map Redactor.maskBytes ∧
        (∀ file ∈ begun.tail, file ≠ []) ∧
        contents fs path maxBackups <:+
          List.replicate maxBackups [] ++ begun.map List.flatten) ∧
      (∀ file ∈ contents fs path maxBackups, Line.Ends file) ∧
      ∀ number content, fs.HasFile number content → fs₁.HasFile number content ∨
        ∃ part : List Bytes,
          (∀ line ∈ part, line ∈ lines.map Redactor.maskBytes) ∧ content = part.flatten := by
  intro fs
  obtain ⟨hlog₁, hready₁, -⟩ := openAt_eq_ok hopen
  have hpath : log₁.path = path := by rw [hlog₁]
  have hbackups : log₁.maxBackups = maxBackups := by rw [hlog₁]
  rw [← hpath, ← hbackups] at hempty ⊢
  obtain ⟨groups, hflat, hwhole, hsome, hrun⟩ := exists_run hrecords htaken
  obtain ⟨begun, hbegun, hlater, hlast⟩ := hrun.exists_begun_of_groups hready₁ hempty hsome
  rw [← List.map_flatten] at hbegun
  -- every line that was written ends in a newline
  have hends : ∀ line ∈ begun.flatten, Line.Ends line := by
    intro line hline
    obtain ⟨line, hmem, rfl⟩ := List.mem_map.1 (hbegun ▸ hline)
    exact (Redactor.isWhole_maskBytes (hwhole line hmem)).ends
  refine ⟨groups.flatten, ⟨hflat, ?_, ?_⟩, ⟨begun, hbegun, hlater, hlast⟩, ?_, ?_⟩
  · rw [← hflat]
    exact Redactor.maskBytes_flatten fun line hline => (hwhole line hline).ends
  · exact fun line hline => ⟨hwhole line hline, Redactor.isWhole_maskBytes (hwhole line hline)⟩
  · intro file hfile
    rcases List.mem_append.1 (hlast.subset hfile) with hnone | hmem
    · exact .inl (List.eq_of_mem_replicate hnone)
    · obtain ⟨group, hgroup, rfl⟩ := List.mem_map.1 hmem
      exact Line.ends_flatten fun line hline =>
        hends line (List.mem_flatten.2 ⟨group, hgroup, hline⟩)
  · intro number content hfile
    rw [List.map_flatten]
    exact hrun.exists_part_of_groups hready₁ hempty hfile

/-- The masked line fills the log, so the two lines behind it have a file of their own. -/
theorem lines_kept_whole_rotated :
    let records := [Utf8.encode "Bearer abc\nok\n", Utf8.encode "go\n"]
    ∃ fs₁ log₁, openAt FileSystem.empty "app.log" 12 1 = (fs₁, .ok log₁) ∧
      contents (Redactor.deliverAll destination (fs₁, log₁) records).1 "app.log" 1 =
        [Utf8.encode "[REDACTED]\n", Utf8.encode "ok\ngo\n"] ∧
      ∃ lines : List Bytes, lines.flatten = records.flatten ∧
        ∃ begun : List (List Bytes), begun.flatten = lines.map Redactor.maskBytes ∧
          (∀ file ∈ begun.tail, file ≠ []) ∧
          contents (Redactor.deliverAll destination (fs₁, log₁) records).1 "app.log" 1 <:+
            [[]] ++ begun.map List.flatten := by
  intro records
  let fs₁ := (openAt FileSystem.empty "app.log" 12 1).1
  let log₁ : RotatingLog := ⟨"app.log", 0, 0, 12, 1⟩
  have hopen : openAt FileSystem.empty "app.log" 12 1 = (fs₁, .ok log₁) := rfl
  have hempty : ∀ file ∈ contents fs₁ "app.log" 1, file = [] := by decide +kernel
  have hrecords : ∀ record ∈ records, record.getLast? = some Line.ending := by decide +kernel
  have htaken : ∀ offer ∈ (Redactor.deliverAll destination.booked ((fs₁, log₁), []) records).2,
      offer.taken = true := by
    decide +kernel
  obtain ⟨lines, ⟨hlines, -⟩, hbegun, -⟩ := lines_kept_whole hopen hempty hrecords htaken
  exact ⟨fs₁, log₁, hopen, by decide +kernel, lines, hlines, hbegun⟩

end RotatingLog

end Flagpost
