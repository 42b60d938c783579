import Flagpost.Json.Reader

/-!
# Flagpost — what a reader makes of a text

`Reads reader text a` says that a reader takes exactly `text` off the front of
whatever follows and answers `a`. A reader that is put together from steps is
proved by putting together what its steps read: `Reads.bind` is the step, and
a reader that only looks at what comes next (`peek`, `peekToken`) leaves the
byte it has looked at to the steps after it.

The cursor also counts lines and columns. They matter only to failures, so
`Reads` says nothing about them; it keeps the bound, from which the readers
that loop take the number of their steps.
-/

namespace Flagpost

namespace Cursor

@[simp] theorem advance_rest {c : Cursor} {b : UInt8} {rest : Bytes} (h : c.rest = b :: rest) :
    c.advance.rest = rest := by
  unfold advance
  rw [h]
  dsimp only
  split <;> rfl

@[simp] theorem advance_bound (c : Cursor) : c.advance.bound = c.bound := by
  unfold advance
  split
  · rfl
  · split <;> rfl

/-- White space is skipped up to the first byte that is none. -/
theorem skip_append (bound : Nat) {space rest : Bytes} (hs : ∀ b ∈ space, isSpace b = true)
    (hr : ∀ b, rest.head? = some b → isSpace b = false) (line column : Nat) :
    (skip bound (space ++ rest) line column).rest = rest ∧
      (skip bound (space ++ rest) line column).bound = bound := by
  induction space generalizing line column with
  | nil =>
    cases rest with
    | nil => exact ⟨rfl, rfl⟩
    | cons b rest =>
      -- a byte that is not skipped is no newline either
      have hb := hr b rfl
      have hn : b ≠ newline := by
        rintro rfl
        exact absurd hb (by decide)
      simp [skip, hn, hb]
  | cons b space ih =>
    have ih := ih fun x hx => hs x (List.mem_cons_of_mem _ hx)
    have hb := hs b List.mem_cons_self
    rw [List.cons_append, skip]
    -- a newline counts a line, and another byte a column
    split
    · exact ih _ _
    · exact ih _ _

end Cursor

/-- A reader takes exactly this text off the front and answers `a`. -/
def Reads {α : Type} (reader : JsonReader α) (text : Bytes) (a : α) : Prop :=
  ∀ (c : Cursor) (rest : Bytes), c.rest = text ++ rest → c.rest.length ≤ c.bound →
    ∃ c' : Cursor, reader c = .ok (a, c') ∧ c'.rest = rest ∧ c'.bound = c.bound

/-- White space of a document. -/
def IsSpace (text : Bytes) : Prop := ∀ b ∈ text, Cursor.isSpace b = true

theorem IsSpace.nil : IsSpace [] := by simp [IsSpace]

namespace Reads

open JsonReader

variable {α β : Type} {reader : JsonReader α} {follow : α → JsonReader β} {a : α} {b : β}

-- ---------------------------------------------------------------------------
-- Putting readers together
-- ---------------------------------------------------------------------------

theorem pure (a : α) : Reads (Pure.pure a) [] a :=
  fun c _ hc _ => ⟨c, rfl, hc, rfl⟩

/-- A reader that answers leaves the rest to the next. -/
theorem bind_of_ok {c c' : Cursor} (h : reader c = .ok (a, c')) :
    (reader >>= follow) c = follow a c' := by
  show (reader c >>= fun p => follow p.1 p.2) = _
  rw [h]
  rfl

/-- One reader after another reads one text after the other. -/
theorem bind {text text' : Bytes} (h : Reads reader text a) (h' : Reads (follow a) text' b) :
    Reads (reader >>= follow) (text ++ text') b := by
  intro c rest hc hlen
  rw [List.append_assoc] at hc
  obtain ⟨c₁, hr, hc₁, hb₁⟩ := h c (text' ++ rest) hc hlen
  have hlen₁ : c₁.rest.length ≤ c₁.bound := by
    rw [hc, List.length_append] at hlen
    rw [hc₁, hb₁]
    omega
  obtain ⟨c₂, hr₂, hc₂, hb₂⟩ := h' c₁ rest hc₁ hlen₁
  refine ⟨c₂, ?_, hc₂, hb₂.trans hb₁⟩
  rw [bind_of_ok hr, hr₂]

/-- As `bind`, for a reader whose last step takes nothing. -/
theorem bind_pure {text : Bytes} (h : Reads reader text a) (h' : Reads (follow a) [] b) :
    Reads (reader >>= follow) text b :=
  List.append_nil text ▸ bind h h'

-- ---------------------------------------------------------------------------
-- Single bytes
-- ---------------------------------------------------------------------------

theorem pass (x : UInt8) : Reads JsonReader.pass [x] () :=
  fun c _ hc _ => ⟨c.advance, rfl, Cursor.advance_rest hc, Cursor.advance_bound c⟩

theorem pass_bind {follow : Unit → JsonReader β} {text : Bytes} (x : UInt8)
    (h : Reads (follow ()) text b) : Reads (JsonReader.pass >>= follow) (x :: text) b :=
  bind (pass x) h

theorem next (x : UInt8) : Reads JsonReader.next [x] (some x) := by
  intro c rest hc _
  refine ⟨c.advance, ?_, Cursor.advance_rest hc, Cursor.advance_bound c⟩
  show Except.ok (c.rest.head?, c.advance) = _
  rw [hc]
  rfl

theorem next_bind {follow : Option UInt8 → JsonReader β} {text : Bytes} (x : UInt8)
    (h : Reads (follow (some x)) text b) : Reads (JsonReader.next >>= follow) (x :: text) b :=
  bind (next x) h

/-- A reader that looks at the next byte reads what it reads once it has seen
that byte. -/
theorem peek {follow : Option UInt8 → JsonReader β} {x : UInt8} {text : Bytes}
    (h : Reads (follow (some x)) (x :: text) b) : Reads (JsonReader.peek >>= follow) (x :: text) b := by
  intro c rest hc hlen
  obtain ⟨c', hr, hc', hb'⟩ := h c rest hc hlen
  refine ⟨c', ?_, hc', hb'⟩
  show follow c.rest.head? c = _
  rw [hc]
  exact hr

/-- As `peek`, with white space before the byte. -/
theorem peekToken {follow : Option UInt8 → JsonReader β} {space text : Bytes} {x : UInt8}
    (hs : IsSpace space) (hx : Cursor.isSpace x = false)
    (h : Reads (follow (some x)) (x :: text) b) :
    Reads (JsonReader.peekToken >>= follow) (space ++ x :: text) b := by
  intro c rest hc hlen
  rw [List.append_assoc] at hc
  -- the white space is skipped up to the byte
  have hhead : ∀ y, (x :: text ++ rest).head? = some y → Cursor.isSpace y = false := by
    intro y hy
    rw [List.cons_append, List.head?_cons, Option.some.injEq] at hy
    exact hy ▸ hx
  have hskip := Cursor.skip_append c.bound hs hhead c.line c.column
  rw [← hc] at hskip
  -- skipping makes what is left shorter, so the bound still holds
  have hlen' : c.skipSpace.rest.length ≤ c.skipSpace.bound := by
    have hlong := hlen
    rw [hc, List.length_append] at hlong
    show (Cursor.skip _ _ _ _).rest.length ≤ (Cursor.skip _ _ _ _).bound
    rw [hskip.1, hskip.2]
    omega
  obtain ⟨c', hr, hc', hb'⟩ := h c.skipSpace rest hskip.1 hlen'
  refine ⟨c', ?_, hc', hb'.trans hskip.2⟩
  show follow c.skipSpace.rest.head? c.skipSpace = _
  rw [show c.skipSpace.rest = x :: text ++ rest from hskip.1]
  exact hr

theorem peekToken_nil {follow : Option UInt8 → JsonReader β} {text : Bytes} {x : UInt8}
    (hx : Cursor.isSpace x = false) (h : Reads (follow (some x)) (x :: text) b) :
    Reads (JsonReader.peekToken >>= follow) (x :: text) b :=
  peekToken IsSpace.nil hx h

/-- A loop gets more steps than there are bytes to read. -/
theorem steps {follow : Nat → JsonReader β} {text : Bytes}
    (h : ∀ fuel, text.length < fuel → Reads (follow fuel) text b) :
    Reads (JsonReader.steps >>= follow) text b := by
  intro c rest hc hlen
  have hlong := hlen
  rw [hc, List.length_append] at hlong
  exact h (c.bound + 1) (by omega) c rest hc hlen

/-- Looking at the bytes to come takes none of them. -/
theorem look {follow : α → JsonReader β} {text : Bytes} (view : Bytes → α)
    (h : ∀ rest, Reads (follow (view (text ++ rest))) text b) :
    Reads ((fun c => .ok (view c.rest, c) : JsonReader α) >>= follow) text b := by
  intro c rest hc hlen
  obtain ⟨c', hr, hc', hb'⟩ := h rest c rest hc hlen
  refine ⟨c', ?_, hc', hb'⟩
  show follow (view c.rest) c = _
  rw [hc]
  exact hr

theorem passMany (text : Bytes) : Reads (JsonReader.passMany text.length) text () := by
  induction text with
  | nil => exact pure ()
  | cons x text ih => exact pass_bind x ih

theorem passWord (word : Bytes) : Reads (JsonReader.passWord word) word () := by
  induction word with
  | nil => exact pure ()
  | cons x word ih =>
    refine next_bind x ?_
    simp only [if_true]
    exact ih

-- ---------------------------------------------------------------------------
-- Whole documents
-- ---------------------------------------------------------------------------

/-- A document is what a reader reads, with white space behind it. -/
theorem run_whole {text space : Bytes} (h : Reads reader text a) (hs : IsSpace space) :
    (whole reader).run (text ++ space) = .ok a := by
  obtain ⟨c, hr, hc, hb⟩ := h (Cursor.start (text ++ space)) space rfl (Nat.le_refl _)
  have hend : ∀ b, ([] : Bytes).head? = some b → Cursor.isSpace b = false := by simp
  have hskip := Cursor.skip_append c.bound hs hend c.line c.column
  rw [List.append_nil, ← hc] at hskip
  have hpeek : JsonReader.peekToken c = .ok (none, c.skipSpace) := by
    show Except.ok (c.skipSpace.rest.head?, c.skipSpace) = _
    rw [show c.skipSpace.rest = [] from hskip.1]
    rfl
  have hrun : whole reader (Cursor.start (text ++ space)) = .ok (a, c.skipSpace) := by
    rw [whole, bind_of_ok hr, bind_of_ok hpeek]
    rfl
  rw [JsonReader.run, hrun]

end Reads

end Flagpost
