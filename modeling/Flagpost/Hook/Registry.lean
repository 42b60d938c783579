import Flagpost.File.Replacement
import Flagpost.Hook.Codec
import Flagpost.Hook.Collection
import Flagpost.Hook.Error
import Flagpost.Log.Event
import Flagpost.Text.Blank

/-!
# Flagpost — the registry of hooks

The registry is the collection of hooks and the file it is kept in. The file
is read once, when the registry is opened; after that every change is made to
the collection first and then the whole collection is written to the file. A
change whose writing fails is taken back: the collection is what it was, and so
is the file.

A registry without a file keeps its hooks only as long as it lives.

What the world contributes to an operation, the clock, random bytes and the
failures of the medium, is an argument: a `Moment`.
-/

namespace Flagpost

/-- What the world contributes to an operation. -/
structure Moment where
  /-- The time of day. -/
  now : Timestamp
  /-- The same clock in nanoseconds since 1970, for tokens. -/
  nanos : Nat
  /-- Random bytes for a token, if they can be had. -/
  random : Option Bytes
  /-- The steps on the file system that fail. -/
  faults : Faults := {}

/-- The hooks and the file they are kept in. -/
structure Registry where
  hooks : Collection
  storage : Option String

namespace Registry

/-- A registry that is kept in no file. -/
def inMemory : Registry := ⟨Collection.empty, none⟩

/-- The failure to replace the store. -/
def storeError (path : String) : ReplacementError → HookError
  | .directory parent cause => .io ("failed to create directory " ++ parent) cause
  | .file cause => .io ("failed to write hook store " ++ path) cause

/-- Writes the whole collection to the store. -/
def persist (faults : Faults) (fs : FileSystem) (r : Registry) :
    FileSystem × Except HookError Unit :=
  match r.storage with
  | none => (fs, .ok ())
  | some path =>
    match fs.replace faults path (Utf8.encode (Hook.listText r.hooks.hooks)) with
    | (fs, .ok ()) => (fs, .ok ())
    | (fs, .error e) => (fs, .error (storeError path e))

-- ---------------------------------------------------------------------------
-- Opening
-- ---------------------------------------------------------------------------

/-- The hooks of a store's text: none if the text is blank. -/
def hooksOfText (text : String) : Except HookError (List Hook) :=
  if isBlankText text then .ok []
  else
    match Hook.listOfDocument (Utf8.encode text) with
    | .ok hooks => .ok hooks
    | .error e => .error (.unreadable e)

/-- The hooks of the store at a path. -/
def load (fs : FileSystem) (path : String) : Except HookError (List Hook) :=
  match fs.readText path with
  | .error e => .error (.io ("failed to read hook store " ++ path) e)
  | .ok text => hooksOfText text

/-- What is reported about a store that was read: each identifier it repeats,
and what was loaded. -/
def loadEvents (path : String) (hooks : List Hook) : List Event :=
  (Collection.repeated [] hooks).map (fun id =>
    ⟨.warn, .hooks, "duplicate hook id in store, keeping the later entry", [("id", .shown id)]⟩) ++
  [⟨.debug, .hooks, "loaded hook store",
    [("path", .shown path), ("count", .number (Collection.ofList hooks).size)]⟩]

/-- Opens the registry that is kept at a path: reads the store, or writes an
empty one if there is none. -/
def openAt (faults : Faults) (fs : FileSystem) (path : String) :
    FileSystem × List Event × Except HookError Registry :=
  match fs.makeParent faults path with
  | (fs, .error e) => (fs, [], .error (storeError path e))
  | (fs, .ok ()) =>
    if fs.hasPath path then
      match load fs path with
      | .error e => (fs, [], .error e)
      | .ok hooks => (fs, loadEvents path hooks, .ok ⟨Collection.ofList hooks, some path⟩)
    else
      let r : Registry := ⟨Collection.empty, some path⟩
      match r.persist faults fs with
      | (fs, .ok ()) => (fs, [], .ok r)
      | (fs, .error e) => (fs, [], .error e)

-- ---------------------------------------------------------------------------
-- Looking up and changing
-- ---------------------------------------------------------------------------

/-- The hook with an identifier. -/
def find (r : Registry) (id : String) : Except HookError Hook :=
  match r.hooks.find? id with
  | some hook => .ok hook
  | none => .error (.notFound id)

/-- What a change leaves: the file system, the registry, and its answer. -/
structure Change (α : Type) where
  files : FileSystem
  registry : Registry
  result : Except HookError α

/-- No change: the operation was refused. -/
def refuse {α : Type} (fs : FileSystem) (r : Registry) (e : HookError) : Change α :=
  ⟨fs, r, .error e⟩

/-- Writes a changed collection to the store. If it cannot be written, `undo`
takes the change back. -/
def commit {α : Type} (faults : Faults) (fs : FileSystem) (r : Registry) (hooks : Collection)
    (undo : Collection → Collection) (answer : α) : Change α :=
  match { r with hooks := hooks }.persist faults fs with
  | (fs, .ok ()) => ⟨fs, { r with hooks := hooks }, .ok answer⟩
  | (fs, .error e) => ⟨fs, { r with hooks := undo hooks }, .error e⟩

/-- Adds a hook under a new identifier, created now. -/
def create (m : Moment) (fs : FileSystem) (r : Registry) (hook : Hook) : Change Hook :=
  if r.hooks.contains hook.id then refuse fs r (.alreadyExists hook.id)
  else
    let hook := { hook with createdAt := m.now, updatedAt := m.now }
    r.commit m.faults fs (r.hooks.insert hook) (·.erase hook.id) hook

/-- The time of a change: now, or, if the clock has not moved on, the first
moment after the change before. -/
def nextChange? (now previous : Timestamp) : Option Timestamp :=
  if previous < now then some now else previous.next?

/-- Replaces the hook with the same identifier. The time of its creation
stays. -/
def update (m : Moment) (fs : FileSystem) (r : Registry) (hook : Hook) : Change Hook :=
  match r.hooks.find? hook.id with
  | none => refuse fs r (.notFound hook.id)
  | some previous =>
    match nextChange? m.now previous.updatedAt with
    | none => refuse fs r (.endOfTime hook.id)
    | some time =>
      let hook := { hook with createdAt := previous.createdAt, updatedAt := time }
      r.commit m.faults fs (r.hooks.insert hook) (·.insert previous) hook

/-- Removes the hook with an identifier. -/
def delete (m : Moment) (fs : FileSystem) (r : Registry) (id : String) : Change Unit :=
  match r.hooks.find? id with
  | none => refuse fs r (.notFound id)
  | some removed => r.commit m.faults fs (r.hooks.erase id) (·.insert removed) ()

end Registry

end Flagpost
