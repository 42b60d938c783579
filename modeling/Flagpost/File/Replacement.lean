import Flagpost.File.System

/-!
# Flagpost — replacing a file as a whole

The hook store and the configuration are never written in place. The new
content goes to a sibling file, reaches the disk there, and is then renamed
over the old one: whoever reads the path finds the old content or the new,
and a step that fails leaves the old.

The steps of such a write can fail for reasons that the tree does not show (a
full disk, a lost mount). `Faults` says which steps do, so that what holds
after a failure can be said for a failure at any step.
-/

namespace Flagpost

/-- The steps that fail for a reason outside the tree, each with its cause. -/
structure Faults where
  makeDirectory : Option IoError := none
  create : Option IoError := none
  write : Option IoError := none
  sync : Option IoError := none
  rename : Option IoError := none
  remove : Option IoError := none

/-- Where the replacement of a file failed: making a directory above it, or
writing it. -/
inductive ReplacementError
  | directory (path : String) (cause : IoError)
  | file (cause : IoError)
deriving DecidableEq

namespace ReplacementError

/-- What went wrong. -/
def cause : ReplacementError → IoError
  | directory _ e => e
  | file e => e

end ReplacementError

namespace FileSystem

/-- The outcome of a step that may be struck by a fault. -/
def unlessFault {α : Type} (fault : Option IoError) (outcome : Except IoError α) :
    Except IoError α :=
  match fault with
  | some e => .error e
  | none => outcome

/-- Makes the directory a path is in, if it names one. -/
def makeParent (faults : Faults) (fs : FileSystem) (path : String) :
    FileSystem × Except ReplacementError Unit :=
  match Path.parent? path with
  | none => (fs, .ok ())
  | some parent =>
    if parent.isEmpty then (fs, .ok ())
    else
      match faults.makeDirectory with
      | some e => (fs, .error (.directory parent e))
      | none =>
        match fs.makeDirectories parent with
        | (fs, .ok ()) => (fs, .ok ())
        | (fs, .error e) => (fs, .error (.directory parent e))

/-- The sibling that the new content of a file is written to. -/
def sibling (path : String) : String := path ++ ".tmp"

/-- Writes the content to the sibling and renames it over the path. -/
def writeSibling (faults : Faults) (fs : FileSystem) (path : String) (content : Bytes) :
    FileSystem × Except IoError Unit :=
  match unlessFault faults.create (fs.create (sibling path)) with
  | .error e => (fs, .error e)
  | .ok (fs, number) =>
    match unlessFault faults.write (.ok (fs.append number content)) with
    | .error e => (fs, .error e)
    | .ok fs =>
      match unlessFault faults.sync (.ok ()) with
      | .error e => (fs, .error e)
      | .ok () =>
        match unlessFault faults.rename (fs.rename (sibling path) path) with
        | .error e => (fs, .error e)
        | .ok fs => (fs, .ok ())

/-- The tree without the sibling, or as it is if that cannot be removed. -/
def withoutSibling (faults : Faults) (fs : FileSystem) (path : String) : FileSystem :=
  match unlessFault faults.remove (fs.remove (sibling path)) with
  | .ok fs => fs
  | .error _ => fs

/-- Replaces the content of a file as a whole. -/
def replace (faults : Faults) (fs : FileSystem) (path : String) (content : Bytes) :
    FileSystem × Except ReplacementError Unit :=
  match fs.makeParent faults path with
  | (fs, .error e) => (fs, .error e)
  | (fs, .ok ()) =>
    match fs.writeSibling faults path content with
    | (fs, .ok ()) => (fs, .ok ())
    | (fs, .error e) => (fs.withoutSibling faults path, .error (.file e))

end FileSystem

end Flagpost
