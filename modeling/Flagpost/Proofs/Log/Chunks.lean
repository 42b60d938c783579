import Flagpost.File.IoError
import Flagpost.Proofs.Log.Lines
import Flagpost.Proofs.Text.Line
import Mathlib.Data.List.DropRight

/-!
# Flagpost — output that arrives in chunks

A redactor masks what is written to it, line by line, however the lines are cut
into chunks. What it holds back between two chunks is the line that is not
finished yet (`Line.unfinished`), so a credential that is cut in two is seen as
a whole.

The exception is a chunk that does not fit. When it brings what is held back above
the capacity, all of it is let go at once, before any finished line is looked for.
If that is in the middle of a line, the two parts of the line are masked each for
itself, even if the line is short and only the lines before it in the chunk were too
many. `Redactor.pieces` cuts what is written behind every such chunk, and nowhere
else.

* `Redactor.masked_line_by_line` — bytes that leave at once and bytes that leave line
  by line are received alike;
* `Redactor.close_writeAll`     — what has been received of any chunks;
* `Redactor.mask_pieces`        — when the pieces are whole lines, masking them is
  masking everything;
* `Redactor.chunks_received`    — what is received, in general and when no line is
  cut.
-/

namespace Flagpost

-- ---------------------------------------------------------------------------
-- Finished and unfinished lines
-- ---------------------------------------------------------------------------

namespace Line

variable {bytes line rest : Bytes}

/-- The bytes up to the last newline. -/
def finished (bytes : Bytes) : Bytes := bytes.rdropWhile (· != ending)

/-- The bytes behind the last newline. -/
def unfinished (bytes : Bytes) : Bytes := bytes.rtakeWhile (· != ending)

@[simp] theorem finished_nil : finished [] = [] := rfl

@[simp] theorem unfinished_nil : unfinished [] = [] := rfl

theorem finished_append_unfinished (bytes : Bytes) : finished bytes ++ unfinished bytes = bytes :=
  List.rdropWhile_append_rtakeWhile

theorem ends_finished (bytes : Bytes) : Ends (finished bytes) := by
  by_cases hnil : finished bytes = []
  · exact .inl hnil
  · have hend : (finished bytes).getLast hnil = ending := by
      by_contra hne
      exact List.rdropWhile_last_not (· != ending) bytes hnil (bne_iff_ne.2 hne)
    exact .inr (by rw [List.getLast?_eq_some_getLast hnil, hend])

theorem length_unfinished_le (bytes : Bytes) : (unfinished bytes).length ≤ bytes.length := by
  have hlength := congrArg List.length (finished_append_unfinished bytes)
  rw [List.length_append] at hlength
  omega

/-- Behind the end of a line, lines are finished and unfinished as they are for
themselves. -/
theorem finished_append (h : Ends bytes) (behind : Bytes) :
    finished (bytes ++ behind) = bytes ++ finished behind := by
  have hstop : bytes.reverse.dropWhile (· != ending) = bytes.reverse := by
    rcases h with rfl | hlast
    · rfl
    · obtain ⟨line, rfl⟩ := List.getLast?_eq_some_iff.1 hlast
      simp
  rw [finished, finished, List.rdropWhile, List.rdropWhile, List.reverse_append,
    List.dropWhile_append, hstop]
  split
  · rename_i hempty
    rw [List.isEmpty_iff.1 hempty]
    simp
  · simp

theorem unfinished_append (h : Ends bytes) (behind : Bytes) :
    unfinished (bytes ++ behind) = unfinished behind := by
  have hsplit := finished_append_unfinished (bytes ++ behind)
  rw [finished_append h, List.append_assoc, List.append_cancel_left_eq] at hsplit
  have hbehind := finished_append_unfinished behind
  exact List.append_cancel_left (hsplit.trans hbehind.symm)

theorem unfinished_of_ends (h : Ends bytes) : unfinished bytes = [] := by
  have hnil := unfinished_append h []
  rwa [List.append_nil] at hnil

/-- What has been unfinished and what is written next is as unfinished as all of
it. -/
theorem unfinished_append_unfinished (bytes behind : Bytes) :
    unfinished (unfinished bytes ++ behind) = unfinished (bytes ++ behind) := by
  have hall := unfinished_append (ends_finished bytes) (unfinished bytes ++ behind)
  rw [← List.append_assoc, finished_append_unfinished] at hall
  exact hall.symm

theorem finished_append_unfinished_append (bytes behind : Bytes) :
    finished bytes ++ finished (unfinished bytes ++ behind) = finished (bytes ++ behind) := by
  have hall := finished_append (ends_finished bytes) (unfinished bytes ++ behind)
  rw [← List.append_assoc, finished_append_unfinished] at hall
  exact hall.symm

theorem finished_of_split?_eq_none (h : split? bytes = none) : finished bytes = [] := by
  have hmem := not_mem_of_split?_eq_none h
  rw [finished, List.rdropWhile_eq_nil_iff]
  intro b hb
  have hne : b ≠ ending := fun he => hmem (he ▸ hb)
  simp [hne]

end Line

-- ---------------------------------------------------------------------------
-- A destination that never fails
-- ---------------------------------------------------------------------------

/-- A destination that never fails. `received` is all that it has been given, in
order. -/
structure Destination.Accepts {σ ε : Type} (dest : Destination σ ε) (received : σ → Bytes) :
    Prop where
  write_ok : ∀ s bytes, (dest.write s bytes).2 = .ok ()
  write_received : ∀ s bytes, received (dest.write s bytes).1 = received s ++ bytes
  flush_received : ∀ s, received (dest.flush s).1 = received s

/-- A destination that keeps what it is given. -/
def Destination.collecting : Destination Bytes IoError where
  write s bytes := (s ++ bytes, .ok ())
  flush s := (s, .ok ())

theorem Destination.collecting_accepts : collecting.Accepts id where
  write_ok _ _ := rfl
  write_received _ _ := rfl
  flush_received _ := rfl

namespace Redactor

variable {σ ε : Type} {dest : Destination σ ε} {received : σ → Bytes} {r : Redactor σ}

/-- The redactor after some chunks have been written to it. -/
def writeAll (dest : Destination σ ε) (r : Redactor σ) (chunks : List Bytes) : Redactor σ :=
  chunks.foldl (fun r chunk => (write dest r chunk).1) r

/-- What a destination is left with when chunks have been written to a redactor
in front of it and the redactor has ended. -/
def deliver (dest : Destination σ ε) (sink : σ) (chunks : List Bytes) : σ :=
  close dest (writeAll dest (start sink) chunks)

theorem write_eq (h : dest.Accepts received) (s : σ) (bytes : Bytes) :
    ∃ sink, dest.write s bytes = (sink, .ok ()) ∧ received sink = received s ++ bytes :=
  ⟨_, Prod.ext rfl (h.write_ok s bytes), h.write_received s bytes⟩

/-- All that is pending is received, masked. -/
theorem deliverPending_eq (h : dest.Accepts received) (r : Redactor σ) :
    ∃ sink, deliverPending dest r = (⟨[], sink⟩, .ok ()) ∧
      received sink = received r.sink ++ maskBytes r.pending := by
  obtain ⟨pending, s⟩ := r
  rw [deliverPending]
  split
  · -- with nothing pending, nothing is written
    rename_i hempty
    have hnil : pending = [] := List.isEmpty_iff.1 hempty
    subst hnil
    exact ⟨s, rfl, by rw [maskBytes_nil, List.append_nil]⟩
  · obtain ⟨sink, hwrite, hreceived⟩ := write_eq h s (maskBytes pending)
    exact ⟨sink, by rw [hwrite], hreceived⟩

/-- The lines that are finished are received, masked, and the other one is held
back. -/
theorem deliverLines_eq (h : dest.Accepts received) (pending : Bytes) (s : σ) :
    ∃ sink, deliverLines dest pending s = (⟨Line.unfinished pending, sink⟩, .ok ()) ∧
      received sink = received s ++ maskBytes (Line.finished pending) := by
  fun_induction deliverLines dest pending s with
  | case1 pending s hnone =>
    -- no line is finished, so all of it is held back
    have hfinished := Line.finished_of_split?_eq_none hnone
    have hall := Line.finished_append_unfinished pending
    rw [hfinished, List.nil_append] at hall
    exact ⟨s, by rw [hall], by rw [hfinished, maskBytes_nil, List.append_nil]⟩
  | case2 pending s line rest hsplit sink hwrite ih =>
    -- the first line is written, and then those behind it
    obtain ⟨last, hlast, hreceived⟩ := ih
    have hsink := h.write_received s (maskBytes line ++ [Line.ending])
    rw [hwrite] at hsink
    have hends : Line.Ends (line ++ [Line.ending]) := .inr List.getLast?_concat
    have hpending : pending = (line ++ [Line.ending]) ++ rest := by
      rw [Line.split?_eq_some hsplit, List.append_assoc, List.singleton_append]
    refine ⟨last, ?_, ?_⟩
    · rw [hlast, hpending, Line.unfinished_append hends]
    · rw [hreceived, hsink, hpending, Line.finished_append hends, maskBytes_append hends,
        maskBytes_line]
      simp
  | case3 pending s line rest hsplit sink e hwrite =>
    -- this sink takes every line
    have hok := h.write_ok s (maskBytes line ++ [Line.ending])
    rw [hwrite] at hok
    cases hok

-- ---------------------------------------------------------------------------
-- All at once, or line by line
-- ---------------------------------------------------------------------------

/-- A flush leaves nothing pending. -/
theorem flush_eq (h : dest.Accepts received) (r : Redactor σ) :
    (flush dest r).1.pending = [] ∧
      received (flush dest r).1.sink = received r.sink ++ maskBytes r.pending := by
  obtain ⟨sink, hpending, hreceived⟩ := deliverPending_eq h r
  rw [flush, hpending]
  exact ⟨rfl, (h.flush_received sink).trans hreceived⟩

/-- Bytes leave a redactor line by line, with a flush for the rest, as they leave it
all at once. -/
theorem flush_deliverLines (h : dest.Accepts received) (pending : Bytes) (sink : σ) :
    ∃ r, deliverLines dest pending sink = (r, .ok ()) ∧ (flush dest r).1.pending = [] ∧
      received (flush dest r).1.sink = received sink ++ maskBytes pending := by
  obtain ⟨finished, hfinished, hlines⟩ := deliverLines_eq h pending sink
  obtain ⟨hnone, hrest⟩ := flush_eq h ⟨Line.unfinished pending, finished⟩
  -- the lines are masked for themselves, and so is the rest
  have hmasked := maskBytes_append (Line.ends_finished pending) (Line.unfinished pending)
  rw [Line.finished_append_unfinished] at hmasked
  exact ⟨_, hfinished, hnone, by rw [hrest, hlines, hmasked, List.append_assoc]⟩

/-- A chunk and a flush let all go that has been held back, with the chunk, whether or
not there was too much for the lines to go one by one. -/
theorem flush_write (h : dest.Accepts received) (r : Redactor σ) (chunk : Bytes) :
    (write dest r chunk).2 = .ok chunk.length ∧
      (flush dest (write dest r chunk).1).1.pending = [] ∧
      received (flush dest (write dest r chunk).1).1.sink =
        received r.sink ++ maskBytes (r.pending ++ chunk) := by
  rw [write]
  split
  · rename_i hempty
    rw [List.isEmpty_iff.1 hempty, List.append_nil]
    exact ⟨rfl, flush_eq h r⟩
  · dsimp only
    -- an overflow delivers all of it at once, a chunk that fits delivers lines
    by_cases hover : capacity < (r.pending ++ chunk).length
    · obtain ⟨whole, hwhole, hreceived⟩ := deliverPending_eq h ⟨r.pending ++ chunk, r.sink⟩
      obtain ⟨last, hlast, hnone, hlines⟩ := flush_deliverLines h [] whole
      rw [if_pos hover, hwhole]
      dsimp only
      rw [hlast]
      exact ⟨rfl, hnone, by rw [hlines, hreceived, maskBytes_nil, List.append_nil]⟩
    · obtain ⟨last, hlast, hnone, hlines⟩ := flush_deliverLines h (r.pending ++ chunk) r.sink
      rw [if_neg hover]
      dsimp only
      rw [hlast]
      exact ⟨rfl, hnone, hlines⟩

/-- **Masking works line by line.** What stands before a newline and what stands
behind it are masked each for itself, in a text and in bytes, whether or not these
are text.

So it makes no difference in which way bytes leave a redactor. A destination that
never fails receives the same whether they leave all at once or one line after the
other with a flush for the rest, and what it has received of a chunk after a flush
does not depend on whether the chunk was too long to be held back. -/
theorem masked_line_by_line :
    (∀ a b : String, Redaction.redactText (a ++ "\n" ++ b) =
      Redaction.redactText a ++ "\n" ++ Redaction.redactText b) ∧
    (∀ (lines : List Bytes) (rest : Bytes),
      maskBytes (lines.flatMap (· ++ [Line.ending]) ++ rest) =
        lines.flatMap (maskBytes · ++ [Line.ending]) ++ maskBytes rest) ∧
    ∀ {σ ε : Type} {dest : Destination σ ε} {received : σ → Bytes}, dest.Accepts received →
      (∀ (pending : Bytes) (sink : σ), ∃ atOnce lineByLine : Redactor σ,
        deliverPending dest ⟨pending, sink⟩ = (atOnce, .ok ()) ∧ atOnce.pending = [] ∧
        deliverLines dest pending sink = (lineByLine, .ok ()) ∧
        (flush dest lineByLine).1.pending = [] ∧
        received atOnce.sink = received sink ++ maskBytes pending ∧
        received (flush dest lineByLine).1.sink = received atOnce.sink) ∧
      ∀ (r : Redactor σ) (chunk : Bytes),
        (write dest r chunk).2 = .ok chunk.length ∧
        (flush dest (write dest r chunk).1).1.pending = [] ∧
        received (flush dest (write dest r chunk).1).1.sink =
          received r.sink ++ maskBytes (r.pending ++ chunk) := by
  refine ⟨Redaction.redactText_newline, maskBytes_lines, ?_⟩
  intro σ ε dest received h
  refine ⟨fun pending sink => ?_, flush_write h⟩
  -- all at once, everything pending is masked as one text, which is masked line by line
  obtain ⟨whole, hwhole, hreceived⟩ := deliverPending_eq h ⟨pending, sink⟩
  obtain ⟨lineByLine, hlast, hnone, hlines⟩ := flush_deliverLines h pending sink
  exact ⟨_, lineByLine, hwhole, rfl, hlast, hnone, hreceived, hlines.trans hreceived.symm⟩

/-- A newline between the parts of a credential, and one behind the first byte of a
character of two. -/
theorem masked_line_by_line_torn :
    let bytes := Utf8.encode "Bearer \nabc token=" ++ [0xC3, Line.ending, 0xA9]
    let masked := Utf8.encode "Bearer \nabc token=[REDACTED]\n\uFFFD"
    Destination.collecting.Accepts id ∧
      (∃ atOnce lineByLine : Redactor Bytes,
        deliverPending Destination.collecting ⟨bytes, []⟩ = (atOnce, .ok ()) ∧
        deliverLines Destination.collecting bytes [] = (lineByLine, .ok ()) ∧
        atOnce.sink = masked ∧ (flush Destination.collecting lineByLine).1.sink = masked) ∧
      (flush Destination.collecting
        (write Destination.collecting (start []) bytes).1).1.sink = masked := by
  intro bytes masked
  have hmasked : id ([] : Bytes) ++ maskBytes bytes = masked := by decide +kernel
  obtain ⟨hways, hwritten⟩ := masked_line_by_line.2.2 Destination.collecting_accepts
  obtain ⟨atOnce, lineByLine, hwhole, -, hlines, -, hreceived, hsame⟩ := hways bytes []
  rw [hmasked] at hreceived
  exact ⟨Destination.collecting_accepts,
    ⟨atOnce, lineByLine, hwhole, hlines, hreceived, hsame.trans hreceived⟩,
    (hwritten (start []) bytes).2.2.trans hmasked⟩

-- ---------------------------------------------------------------------------
-- Chunk by chunk
-- ---------------------------------------------------------------------------

/-- Where a redactor is after `piece` has been written since it last let go all
that was pending: the finished lines of the piece have been received behind
`base`, and the unfinished one is held back. -/
structure Holds (received : σ → Bytes) (base piece : Bytes) (r : Redactor σ) : Prop where
  pending_eq : r.pending = Line.unfinished piece
  fits : (Line.unfinished piece).length ≤ capacity
  received_eq : received r.sink = base ++ maskBytes (Line.finished piece)

theorem holds_start (received : σ → Bytes) (sink : σ) :
    Holds received (received sink) [] (start sink) where
  pending_eq := rfl
  fits := Nat.zero_le _
  received_eq := by rw [Line.finished_nil, maskBytes_nil, List.append_nil]; rfl

/-- A chunk that fits adds to the piece. -/
theorem write_of_fits (h : dest.Accepts received) {base piece chunk : Bytes}
    (hr : Holds received base piece r)
    (hfits : ¬ capacity < (Line.unfinished piece ++ chunk).length) :
    Holds received base (piece ++ chunk) (write dest r chunk).1 := by
  rw [write]
  split
  · rename_i hempty
    rw [List.isEmpty_iff.1 hempty, List.append_nil]
    exact hr
  · dsimp only
    rw [hr.pending_eq, if_neg hfits]
    -- its finished lines go, and the line that is not finished stays pending
    obtain ⟨sink, hlines, hreceived⟩ :=
      deliverLines_eq h (Line.unfinished piece ++ chunk) r.sink
    have hshort := Line.length_unfinished_le (Line.unfinished piece ++ chunk)
    rw [Line.unfinished_append_unfinished] at hlines hshort
    dsimp only
    rw [hlines]
    refine ⟨rfl, by omega, ?_⟩
    show received sink = base ++ maskBytes (Line.finished (piece ++ chunk))
    rw [hreceived, hr.received_eq, ← Line.finished_append_unfinished_append piece,
      maskBytes_append (Line.ends_finished piece), List.append_assoc]

/-- A chunk that does not fit ends the piece, and all of the piece has been
received. -/
theorem write_of_overflow (h : dest.Accepts received) {base piece chunk : Bytes}
    (hr : Holds received base piece r)
    (hover : capacity < (Line.unfinished piece ++ chunk).length) :
    Holds received (base ++ maskBytes (piece ++ chunk)) [] (write dest r chunk).1 := by
  -- what is pending fits, so an empty chunk does not overflow
  have hne : chunk ≠ [] := by
    rintro rfl
    have hfits := hr.fits
    rw [List.append_nil] at hover
    omega
  rw [write, if_neg (by simpa using hne)]
  dsimp only
  rw [hr.pending_eq, if_pos hover]
  obtain ⟨sink, hpending, hreceived⟩ :=
    deliverPending_eq h ⟨Line.unfinished piece ++ chunk, r.sink⟩
  obtain ⟨last, hlines, hlast⟩ := deliverLines_eq h [] sink
  rw [hpending]
  dsimp only
  rw [hlines]
  refine ⟨rfl, Nat.zero_le _, ?_⟩
  -- its finished lines have been received before, and the rest is masked as one text
  have hpiece : maskBytes (piece ++ chunk) =
      maskBytes (Line.finished piece) ++ maskBytes (Line.unfinished piece ++ chunk) := by
    rw [← maskBytes_append (Line.ends_finished piece), ← List.append_assoc,
      Line.finished_append_unfinished]
  show received last = _
  rw [hlast, hreceived, hr.received_eq, hpiece]
  simp

/-- What is written, cut behind every chunk with which more bytes are held back
than the capacity. `piece` is what has been written since the last cut. -/
def pieces (piece : Bytes) : List Bytes → List Bytes
  | [] => [piece]
  | chunk :: chunks =>
    if capacity < (Line.unfinished piece ++ chunk).length then (piece ++ chunk) :: pieces [] chunks
    else pieces (piece ++ chunk) chunks

theorem flatten_pieces (piece : Bytes) (chunks : List Bytes) :
    (pieces piece chunks).flatten = piece ++ chunks.flatten := by
  induction chunks generalizing piece with
  | nil => simp [pieces]
  | cons chunk chunks ih =>
    rw [pieces]
    split
    · rw [List.flatten_cons, ih, List.nil_append, List.flatten_cons, List.append_assoc]
    · rw [ih, List.flatten_cons, List.append_assoc]

/-- Whatever the chunks, when the redactor ends the pieces have been received,
each of them masked. -/
theorem close_writeAll (h : dest.Accepts received) {base piece : Bytes} (chunks : List Bytes)
    (hr : Holds received base piece r) :
    received (close dest (writeAll dest r chunks)) =
      base ++ ((pieces piece chunks).map maskBytes).flatten := by
  induction chunks generalizing r base piece with
  | nil =>
    -- what is left of the piece goes when the redactor is closed
    obtain ⟨sink, hpending, hreceived⟩ := deliverPending_eq h r
    have hpiece := maskBytes_append (Line.ends_finished piece) (Line.unfinished piece)
    rw [Line.finished_append_unfinished] at hpiece
    show received (close dest r) = _
    rw [close, hpending, h.flush_received, hreceived, hr.received_eq, hr.pending_eq]
    simp [pieces, hpiece]
  | cons chunk chunks ih =>
    show received (close dest (writeAll dest (write dest r chunk).1 chunks)) = _
    rw [pieces]
    split
    · rename_i hover
      rw [ih (write_of_overflow h hr hover), List.map_cons, List.flatten_cons, List.append_assoc]
    · rename_i hfits
      rw [ih (write_of_fits h hr hfits)]

-- ---------------------------------------------------------------------------
-- Lines that are not cut
-- ---------------------------------------------------------------------------

/-- No chunk with which more bytes are held back than the capacity ends inside a
line that goes on. `before` is what has been written before. -/
def CutsNoLine (before : Bytes) : List Bytes → Prop
  | [] => True
  | chunk :: chunks =>
    (capacity < (Line.unfinished before ++ chunk).length →
      Line.Ends (before ++ chunk) ∨ chunks.flatten = []) ∧ CutsNoLine (before ++ chunk) chunks

theorem pieces_of_flatten_eq_nil {chunks : List Bytes} (h : chunks.flatten = []) :
    ((pieces [] chunks).map maskBytes).flatten = [] := by
  induction chunks with
  | nil => simp [pieces]
  | cons chunk chunks ih =>
    rw [List.flatten_cons, List.append_eq_nil_iff] at h
    obtain ⟨rfl, hrest⟩ := h
    rw [pieces, if_neg (by decide), List.append_nil]
    exact ih hrest

/-- If no line is cut, the pieces masked each for itself are the whole masked. -/
theorem mask_pieces {before piece : Bytes} {chunks : List Bytes}
    (hbefore : Line.unfinished before = Line.unfinished piece) (h : CutsNoLine before chunks) :
    ((pieces piece chunks).map maskBytes).flatten = maskBytes (piece ++ chunks.flatten) := by
  induction chunks generalizing before piece with
  | nil => simp [pieces]
  | cons chunk chunks ih =>
    obtain ⟨hcut, hlater⟩ := h
    have hnext : Line.unfinished (before ++ chunk) = Line.unfinished (piece ++ chunk) := by
      rw [← Line.unfinished_append_unfinished before, hbefore, Line.unfinished_append_unfinished]
    rw [hbefore] at hcut
    rw [pieces, List.flatten_cons, ← List.append_assoc]
    split
    · rename_i hover
      rw [List.map_cons, List.flatten_cons]
      rcases hcut hover with hends | hnothing
      · -- the piece ends a line, in the text before as well as for itself
        have hunfinished : Line.unfinished (piece ++ chunk) = [] :=
          hnext ▸ Line.unfinished_of_ends hends
        have hpiece : Line.Ends (piece ++ chunk) := by
          have hall := Line.finished_append_unfinished (piece ++ chunk)
          rw [hunfinished, List.append_nil] at hall
          exact hall ▸ Line.ends_finished (piece ++ chunk)
        have hnone : Line.unfinished (before ++ chunk) = Line.unfinished [] :=
          hnext.trans hunfinished
        rw [ih hnone hlater, List.nil_append, maskBytes_append hpiece]
      · rw [pieces_of_flatten_eq_nil hnothing, hnothing, List.append_nil, List.append_nil]
    · exact ih hnext hlater

/-- **What is received of chunks.** Let chunks be written to a redactor in front of
a destination that never fails, and let the redactor end.

* The destination receives the pieces, each masked for itself; together they are
  what was written. If everything is written in one chunk, it is masked as a
  whole.
* So if no line is cut, it makes no difference how the text was cut into
  chunks. -/
theorem chunks_received (h : dest.Accepts received) (sink : σ) (chunks : List Bytes) :
    received (deliver dest sink chunks) =
        received sink ++ ((pieces [] chunks).map maskBytes).flatten ∧
      (pieces [] chunks).flatten = chunks.flatten ∧
      received (deliver dest sink [chunks.flatten]) =
        received sink ++ maskBytes chunks.flatten ∧
      (CutsNoLine [] chunks →
        received (deliver dest sink chunks) = received (deliver dest sink [chunks.flatten])) := by
  have hreceived : ∀ chunks, received (deliver dest sink chunks) =
      received sink ++ ((pieces [] chunks).map maskBytes).flatten :=
    fun chunks => close_writeAll h chunks (holds_start received sink)
  -- one chunk ends no line that goes on, so it is one piece
  have hwhole : received (deliver dest sink [chunks.flatten]) =
      received sink ++ maskBytes chunks.flatten := by
    have hone : CutsNoLine [] [chunks.flatten] := ⟨fun _ => .inr rfl, trivial⟩
    rw [hreceived, mask_pieces rfl hone]
    simp
  refine ⟨hreceived chunks, flatten_pieces [] chunks, hwhole, fun hcuts => ?_⟩
  rw [hreceived chunks, hwhole, mask_pieces rfl hcuts, List.nil_append]

/-- A credential, and the character `é`, are each cut in two. -/
theorem chunks_received_cut :
    let chunks := [Utf8.encode "caf" ++ [0xC3], 0xA9 :: Utf8.encode "?tok", Utf8.encode "en=abc\nBea",
      Utf8.encode "rer abc"]
    CutsNoLine [] chunks ∧ deliver Destination.collecting [] chunks =
      Utf8.encode "caf\u00E9?token=[REDACTED]\n[REDACTED]" := by
  intro chunks
  have hcuts : CutsNoLine [] chunks := by
    simp only [chunks, CutsNoLine]
    decide
  have hmasked : maskBytes chunks.flatten =
      Utf8.encode "caf\u00E9?token=[REDACTED]\n[REDACTED]" := by
    decide +kernel
  obtain ⟨-, -, hwhole, hsame⟩ := chunks_received Destination.collecting_accepts [] chunks
  have hreceived := (hsame hcuts).trans hwhole
  rw [hmasked] at hreceived
  exact ⟨hcuts, hreceived⟩

/-- A chunk that does not fit cuts the line it ends in, however short the line is.
Inside a credential, what stands behind the cut is kept. -/
theorem cut_credential_kept {filler : Bytes} (hends : Line.Ends filler)
    (hlong : capacity ≤ filler.length) :
    deliver Destination.collecting [] [filler ++ Utf8.encode "Bearer abc", Utf8.encode "def"] =
        maskBytes filler ++ Utf8.encode "[REDACTED]def" ∧
      deliver Destination.collecting []
          [(filler ++ Utf8.encode "Bearer abc") ++ Utf8.encode "def"] =
        maskBytes filler ++ Utf8.encode "[REDACTED]" := by
  have hreceived : ∀ chunks, deliver Destination.collecting [] chunks =
      ((pieces [] chunks).map maskBytes).flatten := by
    intro chunks
    have hclose := close_writeAll Destination.collecting_accepts chunks (holds_start id [])
    rwa [id, id, List.nil_append] at hclose
  constructor
  · -- the first chunk overflows and is masked alone
    have hover : capacity < (Line.unfinished [] ++ (filler ++ Utf8.encode "Bearer abc")).length := by
      have hbegins : 0 < (Utf8.encode "Bearer abc").length := by decide +kernel
      rw [Line.unfinished_nil, List.nil_append, List.length_append]
      omega
    have hfits : ¬ capacity < (Line.unfinished [] ++ Utf8.encode "def").length := by decide
    have hbegin : maskBytes (Utf8.encode "Bearer abc") = Utf8.encode "[REDACTED]" := by
      decide +kernel
    have hrest : maskBytes (Utf8.encode "def") = Utf8.encode "def" := by decide +kernel
    have hjoin : Utf8.encode "[REDACTED]def" = Utf8.encode "[REDACTED]" ++ Utf8.encode "def" := by
      decide +kernel
    rw [hreceived, pieces, if_pos hover, pieces, if_neg hfits, pieces, List.nil_append,
      List.nil_append, List.map_cons, List.map_singleton, List.flatten_cons,
      List.flatten_singleton, maskBytes_append hends, hbegin, hrest, hjoin, List.append_assoc]
  · -- as one chunk it is masked as a whole
    have hone : CutsNoLine [] [(filler ++ Utf8.encode "Bearer abc") ++ Utf8.encode "def"] :=
      ⟨fun _ => .inr rfl, trivial⟩
    have hwhole : maskBytes (Utf8.encode "Bearer abc" ++ Utf8.encode "def") =
        Utf8.encode "[REDACTED]" := by
      decide +kernel
    rw [hreceived, mask_pieces rfl hone, List.nil_append, List.flatten_singleton,
      List.append_assoc, maskBytes_append hends, hwhole]

/-- A line of thirteen bytes is received otherwise in two chunks than in one. -/
theorem cut_after_newlines :
    let filler := List.replicate capacity Line.ending
    let chunks := [filler ++ Utf8.encode "Bearer abc", Utf8.encode "def"]
    deliver Destination.collecting [] chunks ≠
      deliver Destination.collecting [] [chunks.flatten] := by
  intro filler chunks
  have hends : Line.Ends filler := .inr (by rw [List.getLast?_replicate, if_neg (by decide)])
  have hlong : capacity ≤ filler.length := List.length_replicate.ge
  have hwhole : chunks.flatten = (filler ++ Utf8.encode "Bearer abc") ++ Utf8.encode "def" := by
    rw [List.flatten_cons, List.flatten_singleton]
  -- the cut keeps the end of the credential, and the whole does not
  obtain ⟨hcut, hone⟩ := cut_credential_kept hends hlong
  rw [hwhole, hcut, hone]
  intro heq
  have hkept := List.append_cancel_left heq
  revert hkept
  decide +kernel

end Redactor

end Flagpost
