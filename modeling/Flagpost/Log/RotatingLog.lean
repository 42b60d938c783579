import Flagpost.File.System
import Flagpost.Log.Redactor

/-!
# Flagpost — the rotated log file

A log file grows up to a limit. The write that would take it past the limit
rotates first: the file becomes the first backup, each backup moves up by
one, and the last one is given up. A file is never cut to fit, so one write
stays in one file, and a write larger than the limit has a file to itself.

The open file is known by its number, not by its name: until a rotation has
succeeded, writes go where they went before, even if somebody has renamed or
removed the file in the meantime.
-/

namespace Flagpost

/-- An open log file with its limits. A limit of zero bytes is no limit. -/
structure RotatingLog where
  path : String
  number : Nat
  size : Nat
  maxBytes : Nat
  maxBackups : Nat
deriving DecidableEq

namespace RotatingLog

/-- The path of a backup; the higher its index, the older it is. -/
def backup (path : String) (index : Nat) : String :=
  path ++ "." ++ String.ofList (Decimal.digits index)

/-- Opens the log file at a path, with the directories above it. -/
def openAt (fs : FileSystem) (path : String) (maxBytes maxBackups : Nat) :
    FileSystem × Except IoError RotatingLog :=
  match fs.makeAbove path with
  | (fs, .error e) => (fs, .error e)
  | (fs, .ok ()) =>
    match fs.openAppend path with
    | .error e => (fs, .error e)
    | .ok (fs, number) => (fs, .ok ⟨path, number, fs.size number, maxBytes, maxBackups⟩)

/-- Moves the backups up to `index` up by one, the oldest first. -/
def shift (fs : FileSystem) (path : String) : Nat → FileSystem × Except IoError Unit
  | 0 => (fs, .ok ())
  | index + 1 =>
    if fs.hasPath (backup path (index + 1)) then
      match fs.rename (backup path (index + 1)) (backup path (index + 2)) with
      | .ok fs => shift fs path index
      | .error e => (fs, .error e)
    else shift fs path index

/-- Makes room for a new file at the path: the old one becomes the first
backup, or goes if there are none. -/
def makeRoom (fs : FileSystem) (path : String) (maxBackups : Nat) :
    FileSystem × Except IoError Unit :=
  if maxBackups = 0 then
    match fs.remove path with
    | .ok fs => (fs, .ok ())
    | .error e => (fs, .error e)
  else
    let cleared :=
      if fs.hasPath (backup path maxBackups) then fs.remove (backup path maxBackups) else .ok fs
    match cleared with
    | .error e => (fs, .error e)
    | .ok fs =>
      match shift fs path (maxBackups - 1) with
      | (fs, .error e) => (fs, .error e)
      | (fs, .ok ()) =>
        match fs.rename path (backup path 1) with
        | .ok fs => (fs, .ok ())
        | .error e => (fs, .error e)

/-- Rotates. -/
def rotate (fs : FileSystem) (log : RotatingLog) :
    FileSystem × RotatingLog × Except IoError Unit :=
  match makeRoom fs log.path log.maxBackups with
  | (fs, .error e) => (fs, log, .error e)
  | (fs, .ok ()) =>
    match fs.openAppend log.path with
    | .error e => (fs, log, .error e)
    | .ok (fs, number) => (fs, { log with number := number, size := 0 }, .ok ())

/-- Would a write of so many bytes take the file past its limit? An empty
file is never rotated. -/
def isFull (log : RotatingLog) (count : Nat) : Bool :=
  0 < log.maxBytes && 0 < log.size && log.maxBytes < log.size + count

/-- Writes to the log, after a rotation if the file is full. -/
def write (fs : FileSystem) (log : RotatingLog) (bytes : Bytes) :
    FileSystem × RotatingLog × Except IoError Unit :=
  let rotated := if log.isFull bytes.length then rotate fs log else (fs, log, .ok ())
  match rotated with
  | (fs, log, .error e) => (fs, log, .error e)
  | (fs, log, .ok ()) =>
    (fs.append log.number bytes, { log with size := log.size + bytes.length }, .ok ())

/-- A rotated log file as a destination of a redactor. -/
def destination : Destination (FileSystem × RotatingLog) IoError where
  write s bytes :=
    match write s.1 s.2 bytes with
    | (fs, log, result) => ((fs, log), result)
  flush s := (s, .ok ())

end RotatingLog

end Flagpost
