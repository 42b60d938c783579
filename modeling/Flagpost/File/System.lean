import Flagpost.File.IoError
import Flagpost.File.Path
import Flagpost.Text.Utf8

/-!
# Flagpost — the file system

A tree of directories and files, as a value. Every operation takes the tree
and a path as text, and answers with the tree it leaves or with the failure
the system reports. There are no links: one file has one name, and a file
carries a number by which an open file is found again after it has been
renamed. What is written to an open file whose name is gone is lost.

Names are resolved from the working directory, which is the top of the tree,
one segment after the other; everything but the last has to be a directory
that exists.
-/

namespace Flagpost

/-- The names that lead from the top of the tree to a node. -/
abbrev Location := List String

/-- A node of the tree. -/
inductive Node
  | directory
  | file (number : Nat) (content : Bytes)
deriving DecidableEq

/-- The number of a file. -/
def Node.number? : Node → Option Nat
  | .directory => none
  | .file number _ => some number

/-- The node after the content of the file with the given number has been
changed. -/
def Node.rewritten (number : Nat) (change : Bytes → Bytes) : Node → Node
  | .file n content => if n = number then .file n (change content) else .file n content
  | .directory => .directory

@[simp] theorem Node.number?_rewritten (number : Nat) (change : Bytes → Bytes) (node : Node) :
    (node.rewritten number change).number? = node.number? := by
  cases node with
  | directory => rfl
  | file n content => simp only [rewritten]; split <;> rfl

/-- The numbers of the files among some nodes. -/
def fileNumbers (nodes : List (Location × Node)) : List Nat := nodes.filterMap (·.2.number?)

/-- A tree of directories and files. No two files have the same number, and
`fresh` is larger than the number of every file there ever was. -/
structure FileSystem where
  nodes : List (Location × Node)
  fresh : Nat
  unshared : (fileNumbers nodes).Nodup
  older : ∀ n ∈ fileNumbers nodes, n < fresh
deriving DecidableEq

namespace FileSystem

/-- The empty tree. -/
def empty : FileSystem := ⟨[], 0, .nil, by simp [fileNumbers]⟩

-- ---------------------------------------------------------------------------
-- The tree as a map
-- ---------------------------------------------------------------------------

/-- The node at a location. The top is a directory. -/
def node? (fs : FileSystem) (location : Location) : Option Node :=
  if location = [] then some .directory else fs.nodes.lookup location

/-- The tree with only those nodes that satisfy `p`. -/
def restrict (fs : FileSystem) (p : Location × Node → Bool) : FileSystem where
  nodes := fs.nodes.filter p
  fresh := fs.fresh
  unshared := fs.unshared.sublist (List.filter_sublist.filterMap _)
  older n hn := fs.older n ((List.filter_sublist.filterMap _).subset hn)

/-- Puts a directory at a location. -/
def addDirectory (fs : FileSystem) (location : Location) : FileSystem :=
  let others := fs.restrict (·.1 != location)
  { others with nodes := (location, .directory) :: others.nodes }

/-- Puts a file with a number of its own at a location. -/
def addFile (fs : FileSystem) (location : Location) (content : Bytes) : FileSystem :=
  let others := fs.restrict (·.1 != location)
  { nodes := (location, .file fs.fresh content) :: others.nodes
    fresh := fs.fresh + 1
    unshared := List.nodup_cons.2 ⟨fun h => Nat.lt_irrefl _ (others.older _ h), others.unshared⟩
    older := fun n hn => by
      rcases List.mem_cons.1 hn with rfl | hn
      · exact Nat.lt_succ_self _
      · exact Nat.lt_succ_of_lt (others.older n hn) }

/-- Changes the content of the file with the given number. -/
def rewrite (fs : FileSystem) (number : Nat) (change : Bytes → Bytes) : FileSystem :=
  have same : fileNumbers (fs.nodes.map fun entry => (entry.1, entry.2.rewritten number change)) =
      fileNumbers fs.nodes := by
    simp only [fileNumbers, List.filterMap_map, Function.comp_def, Node.number?_rewritten]
  { nodes := fs.nodes.map fun entry => (entry.1, entry.2.rewritten number change)
    fresh := fs.fresh
    unshared := same ▸ fs.unshared
    older := same ▸ fs.older }

/-- Puts every node at another location. -/
def relocate (fs : FileSystem) (moved : Location → Location) : FileSystem :=
  have same : fileNumbers (fs.nodes.map fun entry => (moved entry.1, entry.2)) =
      fileNumbers fs.nodes := by
    simp only [fileNumbers, List.filterMap_map, Function.comp_def]
  { nodes := fs.nodes.map fun entry => (moved entry.1, entry.2)
    fresh := fs.fresh
    unshared := same ▸ fs.unshared
    older := same ▸ fs.older }

/-- Takes the node at a location away. -/
def drop (fs : FileSystem) (location : Location) : FileSystem := fs.restrict (·.1 != location)

/-- Does the directory at a location hold nothing? -/
def isEmptyAt (fs : FileSystem) (location : Location) : Bool :=
  !fs.nodes.any fun entry => entry.1.length != location.length && location.isPrefixOf entry.1

-- ---------------------------------------------------------------------------
-- Resolving paths
-- ---------------------------------------------------------------------------

/-- The longest name, in bytes. -/
def maxName : Nat := 255

/-- A path has fewer bytes than this. -/
def maxPath : Nat := 4096

/-- Where a path leads: to a directory it names by dots, or to a name in a
directory. `slash` records a slash behind the name, which asks for a
directory. -/
inductive Place
  | dots (location : Location)
  | name (directory : Location) (name : String) (slash : Bool)

/-- Where a path leads from a directory. -/
def descend (fs : FileSystem) (slash : Bool) : Location → List String → Except IoError Place
  | here, [] => .ok (.dots here)
  | here, segment :: rest =>
    if segment = "." then descend fs slash here rest
    else if segment = ".." then descend fs slash here.dropLast rest
    else if maxName < segment.utf8ByteSize then .error .nameTooLong
    else if rest.isEmpty then .ok (.name here segment slash)
    else
      match fs.node? (here ++ [segment]) with
      | some .directory => descend fs slash (here ++ [segment]) rest
      | some (.file _ _) => .error .notDirectory
      | none => .error .notFound

/-- Where a path leads. -/
def resolve (fs : FileSystem) (path : String) : Except IoError Place :=
  if path.toList.contains '\x00' then .error .nulInPath
  else if path.isEmpty then .error .notFound
  else if maxPath ≤ path.utf8ByteSize then .error .nameTooLong
  else
    let segments := (Path.segments path).filter (· != "")
    descend fs (path.toList.getLast? == some '/') [] segments

/-- What is at a path. -/
def find (fs : FileSystem) (path : String) : Except IoError (Location × Node) :=
  match fs.resolve path with
  | .error e => .error e
  | .ok (.dots location) => .ok (location, .directory)
  | .ok (.name directory name slash) =>
    match fs.node? (directory ++ [name]) with
    | none => .error .notFound
    | some .directory => .ok (directory ++ [name], .directory)
    | some (.file number content) =>
      if slash then .error .notDirectory else .ok (directory ++ [name], .file number content)

/-- Is there anything at a path? -/
def hasPath (fs : FileSystem) (path : String) : Bool :=
  match fs.find path with
  | .ok _ => true
  | .error _ => false

/-- Is there a directory at a path? -/
def isDirectory (fs : FileSystem) (path : String) : Bool :=
  match fs.find path with
  | .ok (_, .directory) => true
  | _ => false

-- ---------------------------------------------------------------------------
-- Reading
-- ---------------------------------------------------------------------------

/-- The content of the file at a path. -/
def read (fs : FileSystem) (path : String) : Except IoError Bytes :=
  match fs.find path with
  | .error e => .error e
  | .ok (_, .directory) => .error .isDirectory
  | .ok (_, .file _ content) => .ok content

/-- The content of the file at a path, as text. -/
def readText (fs : FileSystem) (path : String) : Except IoError String :=
  match fs.read path with
  | .error e => .error e
  | .ok content =>
    match Utf8.decode? content with
    | some text => .ok text
    | none => .error .notText

-- ---------------------------------------------------------------------------
-- Directories
-- ---------------------------------------------------------------------------

/-- Makes a directory. -/
def makeDirectory (fs : FileSystem) (path : String) : Except IoError FileSystem :=
  match fs.resolve path with
  | .error e => .error e
  | .ok (.dots _) => .error .alreadyExists
  | .ok (.name directory name _) =>
    match fs.node? (directory ++ [name]) with
    | some _ => .error .alreadyExists
    | none => .ok (fs.addDirectory (directory ++ [name]))

/-- Makes the first of these paths a directory, after those behind it if it
cannot be made without them. Directories that were made stay even when a
later one cannot be made. -/
def makeFirst (fs : FileSystem) : List String → FileSystem × Except IoError Unit
  | [] => (fs, .ok ())
  | path :: above =>
    match fs.makeDirectory path with
    | .ok fs => (fs, .ok ())
    | .error .notFound =>
      match fs.makeFirst above with
      | (fs, .error e) => (fs, .error e)
      | (fs, .ok ()) =>
        match fs.makeDirectory path with
        | .ok fs => (fs, .ok ())
        | .error e => if fs.isDirectory path then (fs, .ok ()) else (fs, .error e)
    | .error e => if fs.isDirectory path then (fs, .ok ()) else (fs, .error e)

/-- Makes a directory and those above it that are missing. -/
def makeDirectories (fs : FileSystem) (path : String) : FileSystem × Except IoError Unit :=
  fs.makeFirst (Path.ancestors path)

/-- Makes the directories above a path, if it names any. -/
def makeAbove (fs : FileSystem) (path : String) : FileSystem × Except IoError Unit :=
  match Path.parent? path with
  | none => (fs, .ok ())
  | some parent => if parent.isEmpty then (fs, .ok ()) else fs.makeDirectories parent

-- ---------------------------------------------------------------------------
-- Files
-- ---------------------------------------------------------------------------

/-- Opens the file at a path for writing and makes it if it is missing.
`keep` tells whether it keeps what it holds. The answer has the number of the
open file. -/
def openFile (fs : FileSystem) (keep : Bool) (path : String) :
    Except IoError (FileSystem × Nat) :=
  match fs.resolve path with
  | .error e => .error e
  | .ok (.dots _) => .error .isDirectory
  | .ok (.name directory name slash) =>
    if slash then .error .isDirectory
    else
      match fs.node? (directory ++ [name]) with
      | some .directory => .error .isDirectory
      | some (.file number _) =>
        if keep then .ok (fs, number) else .ok (fs.rewrite number fun _ => [], number)
      | none => .ok (fs.addFile (directory ++ [name]) [], fs.fresh)

/-- Opens a file and empties it. -/
def create (fs : FileSystem) (path : String) : Except IoError (FileSystem × Nat) :=
  fs.openFile false path

/-- Opens a file to write behind what it holds. -/
def openAppend (fs : FileSystem) (path : String) : Except IoError (FileSystem × Nat) :=
  fs.openFile true path

/-- Writes at the end of an open file. -/
def append (fs : FileSystem) (number : Nat) (bytes : Bytes) : FileSystem :=
  fs.rewrite number (· ++ bytes)

/-- The number of bytes in an open file. -/
def size (fs : FileSystem) (number : Nat) : Nat :=
  (fs.nodes.findSome? fun entry =>
    match entry.2 with
    | .file n content => if n = number then some content.length else none
    | .directory => none).getD 0

/-- Removes the file at a path. -/
def remove (fs : FileSystem) (path : String) : Except IoError FileSystem :=
  match fs.resolve path with
  | .error e => .error e
  | .ok (.dots _) => .error .isDirectory
  | .ok (.name directory name slash) =>
    match fs.node? (directory ++ [name]) with
    | none => .error .notFound
    | some .directory => .error .isDirectory
    | some (.file _ _) =>
      if slash then .error .notDirectory else .ok (fs.drop (directory ++ [name]))

/-- Moves the node at one location, and all below it, to another. -/
def move (fs : FileSystem) (source target : Location) : FileSystem :=
  (fs.drop target).relocate fun location =>
    if source.isPrefixOf location then target ++ location.drop source.length else location

/-- Gives what is at one path another name. A file takes the place of a file;
a directory takes the place of an empty directory. -/
def rename (fs : FileSystem) (source target : String) : Except IoError FileSystem :=
  match fs.resolve source with
  | .error e => .error e
  | .ok (.dots _) =>
    match fs.resolve target with
    | .error e => .error e
    | .ok _ => .error .busy
  | .ok (.name sourceDirectory sourceName sourceSlash) =>
    match fs.resolve target with
    | .error e => .error e
    | .ok (.dots _) => .error .busy
    | .ok (.name targetDirectory targetName targetSlash) =>
      let source := sourceDirectory ++ [sourceName]
      let target := targetDirectory ++ [targetName]
      match fs.node? source, fs.node? target with
      | none, _ => .error .notFound
      | some (.file _ _), found =>
        if sourceSlash ∨ targetSlash then .error .notDirectory
        else if target.isPrefixOf source ∧ source ≠ target then .error .notEmpty
        else if found = some .directory then .error .isDirectory
        else if source = target then .ok fs
        else .ok (fs.move source target)
      | some .directory, found =>
        if source = target then .ok fs
        else if source.isPrefixOf target then .error .invalidArgument
        else if target.isPrefixOf source then .error .notEmpty
        else
          match found with
          | some (.file _ _) => .error .notDirectory
          | some .directory =>
            if fs.isEmptyAt target then .ok (fs.move source target) else .error .notEmpty
          | none => .ok (fs.move source target)

/-- Removes whatever is at a path, and all below it. -/
def removeAll (fs : FileSystem) (path : String) : Except IoError FileSystem :=
  match fs.find path with
  | .error e => .error e
  | .ok (location, _) =>
    .ok (fs.restrict fun entry => !location.isPrefixOf entry.1)

end FileSystem

end Flagpost
