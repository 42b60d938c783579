import Flagpost.Log.Redaction
import Flagpost.Text.Line

/-!
# Flagpost — the redacting writer

Log output reaches its destination through a **redactor**, which holds bytes
back until it has a whole line, masks the secrets of the line and hands it on
in one piece. A destination is anything with two actions on a state of its
own (`Destination`), so the same redactor serves the standard output, a log
file that is rotated, and a destination that fails on purpose.

Bytes leave the redactor in three ways:

* a complete line leaves as soon as its newline has arrived;
* when more than `Redactor.capacity` bytes are pending, all of them leave in
  one piece;
* `flush`, and the end of the redactor's life, let the pending bytes go.

A line that has been taken off the pending bytes is gone from them whether or
not the destination accepts it, while pending bytes that leave in one piece
stay pending until the destination has accepted them.
-/

namespace Flagpost

/-- Where masked output goes: what writing a piece, or flushing, does to a
state `σ`, and whether it succeeds. -/
structure Destination (σ ε : Type) where
  write : σ → Bytes → σ × Except ε Unit
  flush : σ → σ × Except ε Unit

/-- A redactor: the bytes it holds back and the state of its destination. -/
structure Redactor (σ : Type) where
  pending : Bytes
  sink : σ

namespace Redactor

variable {σ ε : Type}

/-- More pending bytes than these are let go at once. -/
def capacity : Nat := 8192

/-- The masked form of a byte sequence. -/
def maskBytes (bytes : Bytes) : Bytes :=
  Utf8.encode (String.ofList (Redaction.redact (Utf8.lossy bytes)))

/-- A redactor in front of a destination, with nothing pending. -/
def start (sink : σ) : Redactor σ := ⟨[], sink⟩

/-- Lets all pending bytes go in one piece. -/
def deliverPending (dest : Destination σ ε) (r : Redactor σ) : Redactor σ × Except ε Unit :=
  if r.pending.isEmpty then (r, .ok ())
  else
    match dest.write r.sink (maskBytes r.pending) with
    | (sink, .ok ()) => (⟨[], sink⟩, .ok ())
    | (sink, .error e) => (⟨r.pending, sink⟩, .error e)

/-- Lets every complete line go, one piece for each. -/
def deliverLines (dest : Destination σ ε) (pending : Bytes) (sink : σ) :
    Redactor σ × Except ε Unit :=
  match _h : Line.split? pending with
  | none => (⟨pending, sink⟩, .ok ())
  | some (line, rest) =>
    match dest.write sink (maskBytes line ++ [Line.ending]) with
    | (sink, .ok ()) => deliverLines dest rest sink
    | (sink, .error e) => (⟨rest, sink⟩, .error e)
termination_by pending.length
decreasing_by exact Line.split?_length _h

/-- Takes a chunk of output and answers how many of its bytes were taken. -/
def write (dest : Destination σ ε) (r : Redactor σ) (chunk : Bytes) :
    Redactor σ × Except ε Nat :=
  if chunk.isEmpty then (r, .ok 0)
  else
    let filled : Redactor σ := ⟨r.pending ++ chunk, r.sink⟩
    let relieved :=
      if capacity < filled.pending.length then deliverPending dest filled else (filled, .ok ())
    match relieved with
    | (r, .error e) => (r, .error e)
    | (r, .ok ()) =>
      match deliverLines dest r.pending r.sink with
      | (r, .ok ()) => (r, .ok chunk.length)
      | (r, .error e) => (r, .error e)

/-- Lets the pending bytes go and flushes the destination. -/
def flush (dest : Destination σ ε) (r : Redactor σ) : Redactor σ × Except ε Unit :=
  match deliverPending dest r with
  | (r, .error e) => (r, .error e)
  | (r, .ok ()) =>
    match dest.flush r.sink with
    | (sink, result) => (⟨r.pending, sink⟩, result)

/-- The end of a redactor: what is pending goes out if it can, the destination
is flushed either way, and failures are not reported. -/
def close (dest : Destination σ ε) (r : Redactor σ) : σ :=
  (dest.flush (deliverPending dest r).1.sink).1

end Redactor

end Flagpost
