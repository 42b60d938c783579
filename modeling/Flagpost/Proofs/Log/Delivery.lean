import Flagpost.Proofs.Log.Chunks

/-!
# Flagpost — destinations that fail

A destination may refuse what it is offered. To say what then becomes of the
bytes that have been handed to the redactor, the destination keeps a book of all
that it is offered (`Destination.booked`), which changes nothing about the run
(`Redactor.after_unbooked`).

What has been handed over comes apart into segments, one for each offer, and the
bytes that are still pending (`Redactor.Accounts`). When pending bytes leave in
one piece and are refused, they stay pending. A line has been taken off the
pending bytes before it is offered, so when it is refused it is neither delivered
nor pending any more.

* `Redactor.Accounts.deliverPending`, `Redactor.Accounts.deliverLines` — a step.
* `Redactor.accounts_after`  — any calls.
* `Redactor.lost_iff`        — what is lost are the lines that were refused.
-/

namespace Flagpost

variable {σ ε : Type}

-- ---------------------------------------------------------------------------
-- Calls
-- ---------------------------------------------------------------------------

/-- What a destination has been offered, and whether it took it. -/
structure Offer where
  piece : Bytes
  taken : Bool
deriving DecidableEq

namespace Destination

/-- A destination that keeps a book of what it is offered. -/
def booked (dest : Destination σ ε) : Destination (σ × List Offer) ε where
  write s piece :=
    let written := dest.write s.1 piece
    ((written.1, s.2 ++ [⟨piece, written.2.isOk⟩]), written.2)
  flush s :=
    let flushed := dest.flush s.1
    ((flushed.1, s.2), flushed.2)

/-- A destination that takes or refuses what it is offered as it is told to, and
takes everything when it is told no more. -/
def told : Destination (List Bool) IoError where
  write
    | [], _ => ([], .ok ())
    | taken :: later, _ => (later, if taken then .ok () else .error .noSpace)
  flush s := (s, .ok ())

end Destination

namespace Redactor

/-- A call of a redactor. -/
inductive Call
  | write (chunk : Bytes)
  | flush

/-- The bytes that are handed over with a call. -/
def Call.bytes : Call → Bytes
  | .write chunk => chunk
  | .flush => []

/-- The redactor after a call, whatever the call answered. -/
def call (dest : Destination σ ε) (r : Redactor σ) : Call → Redactor σ
  | .write chunk => (write dest r chunk).1
  | .flush => (flush dest r).1

/-- The redactor after some calls. -/
def after (dest : Destination σ ε) (r : Redactor σ) (calls : List Call) : Redactor σ :=
  calls.foldl (call dest) r

/-- The bytes that have been handed over with some calls. -/
def handedOver (calls : List Call) : Bytes := calls.flatMap Call.bytes

-- ---------------------------------------------------------------------------
-- One delivery
-- ---------------------------------------------------------------------------

section Delivery

variable {dest : Destination σ ε} {r : Redactor σ} {s sink : σ} {pending line rest : Bytes} {e : ε}

theorem deliverPending_of_nil (h : r.pending = []) : deliverPending dest r = (r, .ok ()) := by
  rw [deliverPending, h, if_pos List.isEmpty_nil]

theorem deliverPending_of_ne_nil (h : r.pending ≠ []) :
    deliverPending dest r =
      (⟨if (dest.write r.sink (maskBytes r.pending)).2.isOk then [] else r.pending,
        (dest.write r.sink (maskBytes r.pending)).1⟩,
        (dest.write r.sink (maskBytes r.pending)).2) := by
  rw [deliverPending, if_neg (by simpa using h)]
  rcases dest.write r.sink (maskBytes r.pending) with ⟨sink, _ | _⟩ <;> rfl

theorem deliverLines_of_none (h : Line.split? pending = none) :
    deliverLines dest pending s = (⟨pending, s⟩, .ok ()) := by
  rw [deliverLines]
  split
  · rfl
  · rename_i hsome
    rw [h] at hsome
    cases hsome

theorem deliverLines_of_some (h : Line.split? pending = some (line, rest)) :
    deliverLines dest pending s = match dest.write s (maskBytes line ++ [Line.ending]) with
      | (sink, .ok ()) => deliverLines dest rest sink
      | (sink, .error e) => (⟨rest, sink⟩, .error e) := by
  rw [deliverLines]
  split
  · rename_i hnone
    rw [h] at hnone
    cases hnone
  · rename_i hsome
    rw [h] at hsome
    cases hsome
    rfl

variable {chunk : Bytes}

theorem write_nil (r : Redactor σ) : write dest r [] = (r, .ok 0) := rfl

theorem fst_write_of_le (hne : chunk ≠ []) (h : ¬ capacity < (r.pending ++ chunk).length) :
    (write dest r chunk).1 = (deliverLines dest (r.pending ++ chunk) r.sink).1 := by
  rw [write, if_neg (by simpa using hne)]
  dsimp only
  rw [if_neg h]
  dsimp only
  rcases deliverLines dest (r.pending ++ chunk) r.sink with ⟨r', _ | _⟩ <;> rfl

/-- When all that is pending is let go, there are no lines left to deliver. -/
theorem fst_write_of_lt (hne : chunk ≠ []) (h : capacity < (r.pending ++ chunk).length) :
    (write dest r chunk).1 = (deliverPending dest ⟨r.pending ++ chunk, r.sink⟩).1 := by
  have hfilled : r.pending ++ chunk ≠ [] := List.append_ne_nil_of_right_ne_nil _ hne
  have hlines : ∀ sink, deliverLines dest [] sink = (⟨[], sink⟩, .ok ()) := by
    intro sink
    exact deliverLines_of_none rfl
  rw [write, if_neg (by simpa using hne)]
  dsimp only
  rw [if_pos h, deliverPending_of_ne_nil hfilled]
  rcases dest.write r.sink (maskBytes (r.pending ++ chunk)) with ⟨sink, _ | _⟩
  · rfl
  · simp only [Except.isOk, Except.toBool, if_true, hlines]

end Delivery

-- ---------------------------------------------------------------------------
-- Booking changes nothing
-- ---------------------------------------------------------------------------

/-- The redactor without the book. -/
def unbooked (r : Redactor (σ × List Offer)) : Redactor σ := ⟨r.pending, r.sink.1⟩

variable {dest : Destination σ ε} {r : Redactor (σ × List Offer)}

theorem write_booked (dest : Destination σ ε) (s : σ × List Offer) (piece : Bytes) :
    dest.write s.1 piece = ((dest.booked.write s piece).1.1, (dest.booked.write s piece).2) := rfl

theorem snd_write_booked (dest : Destination σ ε) (s : σ × List Offer) (piece : Bytes) :
    (dest.booked.write s piece).1.2 =
      s.2 ++ [⟨piece, (dest.booked.write s piece).2.isOk⟩] := rfl

theorem deliverPending_unbooked (r : Redactor (σ × List Offer)) :
    deliverPending dest r.unbooked =
      ((deliverPending dest.booked r).1.unbooked, (deliverPending dest.booked r).2) := by
  by_cases hempty : r.pending = []
  · rw [deliverPending_of_nil hempty]
    exact deliverPending_of_nil hempty
  · rw [deliverPending_of_ne_nil hempty]
    exact deliverPending_of_ne_nil (r := r.unbooked) hempty

theorem deliverLines_unbooked (pending : Bytes) (s : σ × List Offer) :
    deliverLines dest pending s.1 = ((deliverLines dest.booked pending s).1.unbooked,
      (deliverLines dest.booked pending s).2) := by
  fun_induction deliverLines dest.booked pending s with
  | case1 pending s hnone => exact deliverLines_of_none hnone
  | case2 pending s line rest hsplit sink hwrite ih =>
    rw [deliverLines_of_some hsplit, write_booked, hwrite]
    exact ih
  | case3 pending s line rest hsplit sink e hwrite =>
    rw [deliverLines_of_some hsplit, write_booked, hwrite]
    rfl

theorem write_unbooked (r : Redactor (σ × List Offer)) (chunk : Bytes) :
    (write dest r.unbooked chunk).1 = (write dest.booked r chunk).1.unbooked := by
  by_cases hne : chunk = []
  · rw [hne, write_nil, write_nil]
  · by_cases hover : capacity < (r.pending ++ chunk).length
    · rw [fst_write_of_lt hne hover, fst_write_of_lt (r := r.unbooked) hne hover]
      exact congrArg Prod.fst (deliverPending_unbooked ⟨r.pending ++ chunk, r.sink⟩)
    · rw [fst_write_of_le hne hover, fst_write_of_le (r := r.unbooked) hne hover]
      exact congrArg Prod.fst (deliverLines_unbooked (r.pending ++ chunk) r.sink)

theorem flush_unbooked (r : Redactor (σ × List Offer)) :
    (flush dest r.unbooked).1 = (flush dest.booked r).1.unbooked := by
  rw [flush, flush, deliverPending_unbooked]
  rcases deliverPending dest.booked r with ⟨r, _ | _⟩ <;> rfl

/-- The run is the same with the book as without it. -/
theorem after_unbooked (r : Redactor (σ × List Offer)) (calls : List Call) :
    after dest r.unbooked calls = (after dest.booked r calls).unbooked := by
  induction calls generalizing r with
  | nil => rfl
  | cons c calls ih =>
    have hcall : call dest r.unbooked c = (call dest.booked r c).unbooked := by
      cases c with
      | write chunk => exact write_unbooked r chunk
      | flush => exact flush_unbooked r
    exact (congrArg (after dest · calls) hcall).trans (ih _)

-- ---------------------------------------------------------------------------
-- What becomes of the bytes
-- ---------------------------------------------------------------------------

/-- Some of the bytes that have been handed over, as they were offered: a line
with its newline, or all that was pending. -/
structure Segment where
  bytes : Bytes
  isLine : Bool
  taken : Bool

/-- A segment is offered masked. -/
def Segment.offer (s : Segment) : Offer := ⟨maskBytes s.bytes, s.taken⟩

/-- Whether the bytes of the segment are no longer pending: a line is taken off the
pending bytes even if it is refused. -/
def Segment.gone (s : Segment) : Bool := s.isLine || s.taken

/-- A segment that is a line has one newline, at its end. -/
def Segment.Whole (s : Segment) : Prop :=
  s.isLine = true → ∃ line, s.bytes = line ++ [Line.ending] ∧ Line.ending ∉ line

/-- The segments are what the destination has been offered, in order, and those
that are gone are what has been handed over and is not pending. -/
structure Accounts (handed : Bytes) (segments : List Segment) (r : Redactor (σ × List Offer)) :
    Prop where
  offered : r.sink.2 = segments.map Segment.offer
  handed_eq : handed = (segments.filter Segment.gone).flatMap Segment.bytes ++ r.pending
  whole : ∀ s ∈ segments, s.Whole

variable {handed : Bytes} {segments : List Segment}

theorem accounts_start (sink : σ) : Accounts [] [] (start (sink, ([] : List Offer))) where
  offered := rfl
  handed_eq := rfl
  whole := by simp

/-- One more segment is offered. -/
theorem Accounts.snoc (h : Accounts handed segments r) {s : Segment} (hs : s.Whole)
    {r' : Redactor (σ × List Offer)} (hoffer : r'.sink.2 = r.sink.2 ++ [s.offer])
    (hpending : r.pending = (if s.gone then s.bytes else []) ++ r'.pending) :
    Accounts handed (segments ++ [s]) r' where
  offered := by
    rw [hoffer, h.offered, List.map_append, List.map_singleton]
  handed_eq := by
    rw [h.handed_eq, hpending, List.filter_append, List.flatMap_append, List.append_assoc]
    cases hgone : s.gone <;> simp [hgone]
  whole := by
    intro s' hs'
    rcases List.mem_append.1 hs' with hold | hnew
    · exact h.whole s' hold
    · rw [List.mem_singleton.1 hnew]
      exact hs

theorem Accounts.deliverPending (h : Accounts handed segments r) :
    ∃ segments', Accounts handed segments' (deliverPending dest.booked r).1 := by
  by_cases hempty : r.pending = []
  · rw [deliverPending_of_nil hempty]
    exact ⟨segments, h⟩
  · obtain ⟨taken, htaken⟩ :
        ∃ taken, taken = (dest.booked.write r.sink (maskBytes r.pending)).2.isOk := ⟨_, rfl⟩
    rw [deliverPending_of_ne_nil hempty, ← htaken]
    refine ⟨_, h.snoc (s := ⟨r.pending, false, taken⟩) (fun hline => by cases hline) ?_ ?_⟩
    · rw [snd_write_booked, ← htaken]
      rfl
    · cases taken <;> simp [Segment.gone]

/-- A line is offered, and is no longer pending. -/
theorem Accounts.line {pending line rest : Bytes} {s sink : σ × List Offer}
    {result : Except ε Unit} (h : Accounts handed segments ⟨pending, s⟩)
    (hsplit : Line.split? pending = some (line, rest))
    (hwrite : dest.booked.write s (maskBytes line ++ [Line.ending]) = (sink, result)) :
    Accounts handed (segments ++ [⟨line ++ [Line.ending], true, result.isOk⟩]) ⟨rest, sink⟩ := by
  refine h.snoc (fun _ => ⟨line, rfl, Line.not_mem_of_split?_eq_some hsplit⟩) ?_ ?_
  · have hbook := snd_write_booked dest s (maskBytes line ++ [Line.ending])
    rw [hwrite, ← maskBytes_line] at hbook
    exact hbook
  · show pending = line ++ [Line.ending] ++ rest
    rw [Line.split?_eq_some hsplit, List.append_assoc, List.singleton_append]

theorem Accounts.deliverLines {pending : Bytes} {s : σ × List Offer}
    (h : Accounts handed segments ⟨pending, s⟩) :
    ∃ segments', Accounts handed segments' (deliverLines dest.booked pending s).1 := by
  fun_induction Redactor.deliverLines dest.booked pending s generalizing segments with
  | case1 pending s hnone => exact ⟨segments, h⟩
  | case2 pending s line rest hsplit sink hwrite ih => exact ih (h.line hsplit hwrite)
  | case3 pending s line rest hsplit sink e hwrite => exact ⟨_, h.line hsplit hwrite⟩

theorem Accounts.call (h : Accounts handed segments r) (c : Call) :
    ∃ segments', Accounts (handed ++ c.bytes) segments' (call dest.booked r c) := by
  cases c with
  | write chunk =>
    show ∃ segments', Accounts (handed ++ chunk) segments' (write dest.booked r chunk).1
    -- an empty chunk leaves at once
    by_cases hne : chunk = []
    · rw [hne, write_nil, List.append_nil]
      exact ⟨segments, h⟩
    · -- the bytes are pending as soon as they are handed over
      have hfilled : Accounts (handed ++ chunk) segments ⟨r.pending ++ chunk, r.sink⟩ :=
        ⟨h.offered, by rw [h.handed_eq, List.append_assoc], h.whole⟩
      by_cases hover : capacity < (r.pending ++ chunk).length
      · rw [fst_write_of_lt hne hover]
        exact hfilled.deliverPending
      · rw [fst_write_of_le hne hover]
        exact hfilled.deliverLines
  | flush =>
    show ∃ segments', Accounts (handed ++ []) segments' (flush dest.booked r).1
    obtain ⟨segments', hdelivered⟩ : ∃ segments',
        Accounts handed segments' (Redactor.deliverPending dest.booked r).1 := h.deliverPending
    rw [flush, List.append_nil]
    revert hdelivered
    rcases Redactor.deliverPending dest.booked r with ⟨r', _ | _⟩
    · exact fun hdelivered => ⟨segments', hdelivered⟩
    · -- the sink's own flush is in no account
      exact fun hdelivered => ⟨segments', hdelivered.offered, hdelivered.handed_eq, hdelivered.whole⟩

/-- After any calls, what has been handed over is accounted for. -/
theorem accounts_after (dest : Destination σ ε) (sink : σ) (calls : List Call) :
    ∃ segments, Accounts (handedOver calls) segments
      (after dest.booked (start (sink, [])) calls) := by
  -- the accounts of the calls so far are carried along
  suffices hrun : ∀ {handed segments} {r : Redactor (σ × List Offer)},
      Accounts handed segments r → ∃ segments',
        Accounts (handed ++ handedOver calls) segments' (after dest.booked r calls) from
    hrun (accounts_start sink)
  induction calls with
  | nil =>
    intro handed segments r h
    exact ⟨segments, by rwa [handedOver, List.flatMap_nil, List.append_nil]⟩
  | cons c calls ih =>
    intro handed segments r h
    obtain ⟨segments', hcall⟩ : ∃ segments',
        Accounts (handed ++ c.bytes) segments' (call dest.booked r c) := h.call c
    obtain ⟨segments'', hlater⟩ := ih hcall
    refine ⟨segments'', ?_⟩
    rwa [List.append_assoc] at hlater

-- ---------------------------------------------------------------------------
-- What is lost
-- ---------------------------------------------------------------------------

/-- The bytes of the segments that were taken, in order. -/
def delivered (segments : List Segment) : Bytes :=
  (segments.filter Segment.taken).flatMap Segment.bytes

theorem length_delivered_le (segments : List Segment) :
    (delivered segments).length ≤ ((segments.filter Segment.gone).flatMap Segment.bytes).length := by
  induction segments with
  | nil => exact Nat.le_refl _
  | cons s segments ih =>
    rw [delivered, List.length_flatMap, List.length_flatMap] at ih ⊢
    rw [List.filter_cons, List.filter_cons, Segment.gone]
    cases s.taken <;> cases s.isLine <;> simp <;> omega

/-- Segments that are gone were taken, unless they are lines that were refused, and
these are not empty. -/
theorem gone_eq_delivered_iff (h : ∀ s ∈ segments, s.Whole) :
    (segments.filter Segment.gone).flatMap Segment.bytes = delivered segments ↔
      ∀ s ∈ segments, s.isLine = true → s.taken = true := by
  induction segments with
  | nil => simp [delivered]
  | cons s segments ih =>
    rw [List.forall_mem_cons] at h
    rw [List.forall_mem_cons, ← ih h.2, delivered, List.filter_cons, List.filter_cons, Segment.gone]
    -- what was taken counts on both sides
    cases htaken : s.taken with
    | true => simp [delivered]
    | false =>
      -- a line that was refused is gone and not delivered
      cases hline : s.isLine with
      | false => simp [delivered]
      | true =>
        obtain ⟨line, hbytes, -⟩ := h.1 hline
        have hle := length_delivered_le segments
        have hne : s.bytes ++ (segments.filter Segment.gone).flatMap Segment.bytes ≠
            delivered segments := by
          intro heq
          rw [← heq, List.length_append, hbytes, List.length_append, List.length_singleton] at hle
          omega
        simpa [delivered] using hne

theorem Accounts.lost_iff (h : Accounts handed segments r) :
    handed = delivered segments ++ r.pending ↔
      ∀ s ∈ segments, s.isLine = true → s.taken = true := by
  rw [← gone_eq_delivered_iff h.whole, h.handed_eq, List.append_cancel_right_eq]

/-- What is pending leaves in one piece with a flush, and stays pending until it
is taken. -/
theorem flush_pending (dest : Destination σ ε) (hne : r.pending ≠ []) :
    ∃ taken, (flush dest.booked r).1.sink.2 = r.sink.2 ++ [⟨maskBytes r.pending, taken⟩] ∧
      (flush dest.booked r).1.pending = (if taken then [] else r.pending) ∧
      ((flush dest.booked r).2 = .ok () → taken = true) := by
  refine ⟨(dest.booked.write r.sink (maskBytes r.pending)).2.isOk, ?_⟩
  rw [← snd_write_booked, flush, deliverPending_of_ne_nil hne]
  rcases dest.booked.write r.sink (maskBytes r.pending) with ⟨sink, e | _⟩
  · exact ⟨rfl, rfl, fun h => by cases h⟩
  · exact ⟨rfl, rfl, fun _ => rfl⟩

/-- **What a destination that fails loses.** Let any calls be made of a redactor in
front of any destination.

* What the destination is offered can be told from a book that changes nothing.
* What has been handed over is, in order and each once, what was delivered and the
  lines that were refused, and behind it what is pending. So nothing is lost if and
  only if no line was refused.
* What is pending is offered as one piece when the redactor is flushed. It stays
  pending if it is refused, and a flush that succeeds has delivered it. -/
theorem refused_lines_lost (dest : Destination σ ε) (sink : σ) (calls : List Call) :
    let r := after dest.booked (start (sink, [])) calls
    after dest (start sink) calls = r.unbooked ∧
    (∃ segments, Accounts (handedOver calls) segments r ∧
      (handedOver calls = delivered segments ++ r.pending ↔
        ∀ s ∈ segments, s.isLine = true → s.taken = true)) ∧
    (r.pending ≠ [] →
      ∃ taken, (flush dest.booked r).1.sink.2 = r.sink.2 ++ [⟨maskBytes r.pending, taken⟩] ∧
        (flush dest.booked r).1.pending = (if taken then [] else r.pending) ∧
        ((flush dest.booked r).2 = .ok () → taken = true)) := by
  intro r
  -- the accounts tell of every segment whether it was taken
  obtain ⟨segments, haccounts⟩ := accounts_after dest sink calls
  exact ⟨after_unbooked (start (sink, [])) calls, ⟨segments, haccounts, haccounts.lost_iff⟩,
    flush_pending dest⟩

/-- A line that is refused is neither taken nor pending, and the next flush, which
succeeds, offers nothing. -/
theorem refused_line_forgotten :
    let calls := [Call.write (Utf8.encode "a\n")]
    let r := after Destination.told.booked (start ([false], [])) calls
    handedOver calls = Utf8.encode "a\n" ∧ r.sink.2 = [⟨Utf8.encode "a\n", false⟩] ∧
      r.pending = [] ∧ (flush Destination.told.booked r).1.sink.2 = r.sink.2 ∧
      (flush Destination.told.booked r).2.isOk = true := by
  decide +kernel

end Redactor

end Flagpost
