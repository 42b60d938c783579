import Flagpost.File.Replacement
import Flagpost.Proofs.Except
import Flagpost.Proofs.File.Resolution

/-!
# Flagpost — the outline of a tree

The **outline** of a tree is the tree with every file emptied. No operation but
reading looks at what is in a file, so whether an operation succeeds, how it fails
and what it leaves of the outline are told by the outline it begins with: one
lemma for each operation, and `replace_outline` for the replacement of a file by
whatever content.

Two trees that differ in the contents of their files alone have one outline, and
what is done to them has the same outcome.
-/

namespace Flagpost

/-- The node with nothing in it. -/
def Node.emptied : Node → Node
  | .directory => .directory
  | .file number _ => .file number []

@[simp] theorem Node.number?_emptied (node : Node) : node.emptied.number? = node.number? := by
  cases node <;> rfl

@[simp] theorem Node.emptied_rewritten (number : Nat) (change : Bytes → Bytes) (node : Node) :
    (node.rewritten number change).emptied = node.emptied := by
  cases node with
  | directory => rfl
  | file n content =>
    rw [rewritten]
    split <;> rfl

theorem Node.map_emptied_eq_directory {found : Option Node} :
    found.map Node.emptied = some .directory ↔ found = some .directory := by
  cases found with
  | none => simp
  | some node => cases node <;> simp [Node.emptied]

namespace FileSystem

variable {fs fs' : FileSystem} {faults : Faults} {path : String} {location : Location}

/-- The tree with every file emptied. -/
def outline (fs : FileSystem) : FileSystem :=
  have same : fileNumbers (fs.nodes.map fun entry => (entry.1, entry.2.emptied)) =
      fileNumbers fs.nodes := by
    simp only [fileNumbers, List.filterMap_map, Function.comp_def, Node.number?_emptied]
  { nodes := fs.nodes.map fun entry => (entry.1, entry.2.emptied)
    fresh := fs.fresh
    unshared := same ▸ fs.unshared
    older := same ▸ fs.older }

theorem eq_of_nodes (hnodes : fs.nodes = fs'.nodes) (hfresh : fs.fresh = fs'.fresh) : fs = fs' := by
  cases fs
  cases fs'
  cases hnodes
  cases hfresh
  rfl

-- ---------------------------------------------------------------------------
-- Looking
-- ---------------------------------------------------------------------------

theorem node?_outline (fs : FileSystem) (location : Location) :
    fs.outline.node? location = (fs.node? location).map Node.emptied := by
  by_cases hnil : location = []
  · subst hnil
    rfl
  · rw [node?_of_ne_nil hnil, node?_of_ne_nil hnil]
    exact lookup_map_node _ fs.nodes location

theorem descend_outline (fs : FileSystem) (slash : Bool) (here : Location)
    (segments : List String) :
    fs.outline.descend slash here segments = fs.descend slash here segments := by
  induction segments generalizing here with
  | nil => rfl
  | cons segment rest ih =>
    rw [descend, descend, node?_outline, ih, ih, ih]
    cases fs.node? (here ++ [segment]) with
    | none => rfl
    | some node => cases node <;> rfl

theorem resolve_outline (fs : FileSystem) (path : String) :
    fs.outline.resolve path = fs.resolve path := by
  rw [resolve, resolve]
  dsimp only
  rw [descend_outline]

theorem find_outline (fs : FileSystem) (path : String) :
    fs.outline.find path = (fs.find path).map fun found => (found.1, found.2.emptied) := by
  rw [find, find, resolve_outline]
  cases fs.resolve path with
  | error e => rfl
  | ok place =>
    cases place with
    | dots location => rfl
    | name directory name slash =>
      dsimp only
      rw [node?_outline]
      cases fs.node? (directory ++ [name]) with
      | none => rfl
      | some node =>
        cases node with
        | directory => rfl
        -- a path to a file may not end in a slash, whatever the file holds
        | file number content => cases slash <;> rfl

theorem hasPath_outline (fs : FileSystem) (path : String) :
    fs.outline.hasPath path = fs.hasPath path := by
  rw [hasPath, hasPath, find_outline]
  cases fs.find path <;> rfl

theorem isDirectory_outline (fs : FileSystem) (path : String) :
    fs.outline.isDirectory path = fs.isDirectory path := by
  rw [isDirectory, isDirectory, find_outline]
  cases fs.find path with
  | error e => rfl
  | ok found =>
    obtain ⟨location, node⟩ := found
    cases node <;> rfl

-- ---------------------------------------------------------------------------
-- Single changes
-- ---------------------------------------------------------------------------

theorem restrict_outline (fs : FileSystem) (p : Location → Bool) :
    fs.outline.restrict (fun entry => p entry.1) = (fs.restrict fun entry => p entry.1).outline :=
  eq_of_nodes List.filter_map rfl

theorem addDirectory_outline (fs : FileSystem) (location : Location) :
    fs.outline.addDirectory location = (fs.addDirectory location).outline := by
  have hothers := congrArg nodes (restrict_outline fs (· != location))
  exact eq_of_nodes (congrArg (List.cons (location, Node.directory)) hothers) rfl

theorem addFile_outline (fs : FileSystem) (location : Location) (content : Bytes) :
    fs.outline.addFile location [] = (fs.addFile location content).outline := by
  have hothers := congrArg nodes (restrict_outline fs (· != location))
  exact eq_of_nodes (congrArg (List.cons (location, Node.file fs.fresh [])) hothers) rfl

theorem outline_rewrite (fs : FileSystem) (number : Nat) (change : Bytes → Bytes) :
    (fs.rewrite number change).outline = fs.outline := by
  refine eq_of_nodes ?_ rfl
  show (fs.nodes.map _).map _ = fs.nodes.map _
  rw [List.map_map]
  refine List.map_congr_left fun entry _ => ?_
  exact congrArg (Prod.mk entry.1) (Node.emptied_rewritten number change entry.2)

theorem outline_append (fs : FileSystem) (number : Nat) (bytes : Bytes) :
    (fs.append number bytes).outline = fs.outline := outline_rewrite fs number _

/-- A change that leaves an empty file empty leaves an outline as it is. -/
theorem rewrite_outline (fs : FileSystem) (number : Nat) (change : Bytes → Bytes)
    (hchange : change [] = []) : fs.outline.rewrite number change = fs.outline := by
  refine eq_of_nodes ?_ rfl
  show (fs.nodes.map _).map _ = fs.nodes.map _
  rw [List.map_map]
  refine List.map_congr_left fun entry _ => ?_
  obtain ⟨location, node⟩ := entry
  refine congrArg (Prod.mk location) ?_
  cases node with
  | directory => rfl
  | file n content =>
    show Node.rewritten number change (.file n []) = .file n []
    rw [Node.rewritten, hchange]
    split <;> rfl

theorem append_outline (fs : FileSystem) (number : Nat) (bytes : Bytes) :
    fs.outline.append number [] = (fs.append number bytes).outline := by
  have hempty : ([] : Bytes) ++ [] = [] := rfl
  rw [outline_append, append, rewrite_outline fs number (· ++ []) hempty]

theorem drop_outline (fs : FileSystem) (location : Location) :
    fs.outline.drop location = (fs.drop location).outline :=
  restrict_outline fs (· != location)

theorem move_outline (fs : FileSystem) (source target : Location) :
    fs.outline.move source target = (fs.move source target).outline := by
  rw [move, move, drop_outline]
  refine eq_of_nodes ?_ rfl
  show ((fs.drop target).nodes.map _).map _ = ((fs.drop target).nodes.map _).map _
  rw [List.map_map, List.map_map]
  rfl

theorem isEmptyAt_outline (fs : FileSystem) (location : Location) :
    fs.outline.isEmptyAt location = fs.isEmptyAt location := by
  rw [isEmptyAt, isEmptyAt]
  show (!(fs.nodes.map _).any _) = _
  rw [List.any_map]
  rfl

-- ---------------------------------------------------------------------------
-- Directories
-- ---------------------------------------------------------------------------

theorem makeDirectory_outline (fs : FileSystem) (path : String) :
    fs.outline.makeDirectory path = (fs.makeDirectory path).map outline := by
  rw [makeDirectory, makeDirectory, resolve_outline]
  cases fs.resolve path with
  | error e => rfl
  | ok place =>
    cases place with
    | dots location => rfl
    | name directory name slash =>
      dsimp only
      rw [node?_outline]
      cases fs.node? (directory ++ [name]) with
      | none => exact congrArg Except.ok (addDirectory_outline fs _)
      | some node => rfl

theorem makeFirst_outline (fs : FileSystem) (paths : List String) :
    fs.outline.makeFirst paths = ((fs.makeFirst paths).1.outline, (fs.makeFirst paths).2) := by
  induction paths generalizing fs with
  | nil => rfl
  | cons path above ih =>
    rw [makeFirst, makeFirst, makeDirectory_outline, isDirectory_outline, ih]
    cases fs.makeDirectory path with
    | ok made => rfl
    | error e =>
      by_cases he : e = .notFound
      · subst he
        -- the directories above were made or not, and then this one is tried again
        cases fs.makeFirst above with
        | mk made result =>
          cases result with
          | error e => rfl
          | ok _ =>
            dsimp only [Except.map]
            rw [makeDirectory_outline, isDirectory_outline]
            cases made.makeDirectory path with
            | ok again => rfl
            | error e =>
              dsimp only [Except.map]
              split <;> rfl
      · cases e <;> first | exact absurd rfl he | (dsimp only [Except.map]; split <;> rfl)

theorem makeDirectories_outline (fs : FileSystem) (path : String) :
    fs.outline.makeDirectories path =
      ((fs.makeDirectories path).1.outline, (fs.makeDirectories path).2) :=
  makeFirst_outline fs (Path.ancestors path)

-- ---------------------------------------------------------------------------
-- Files
-- ---------------------------------------------------------------------------

theorem openFile_outline (fs : FileSystem) (keep : Bool) (path : String) :
    fs.outline.openFile keep path =
      (fs.openFile keep path).map fun opened => (opened.1.outline, opened.2) := by
  rw [openFile, openFile, resolve_outline]
  cases fs.resolve path with
  | error e => rfl
  | ok place =>
    cases place with
    | dots location => rfl
    | name directory name slash =>
      cases slash with
      | true => rfl
      | false =>
        simp only [Bool.false_eq_true, if_false, node?_outline]
        cases fs.node? (directory ++ [name]) with
        -- a new file is empty in the outline, and so outside it
        | none => exact congrArg (fun t => Except.ok (t, fs.fresh)) (addFile_outline fs _ [])
        | some node =>
          cases node with
          | directory => rfl
          | file number content =>
            cases keep with
            | true => rfl
            | false =>
              -- the bytes the file had are not in the outline, so emptying it changes nothing there
              refine congrArg (fun t => Except.ok (t, number)) ?_
              rw [rewrite_outline fs number _ rfl, outline_rewrite]

theorem remove_outline (fs : FileSystem) (path : String) :
    fs.outline.remove path = (fs.remove path).map outline := by
  rw [remove, remove, resolve_outline]
  cases fs.resolve path with
  | error e => rfl
  | ok place =>
    cases place with
    | dots location => rfl
    | name directory name slash =>
      dsimp only
      rw [node?_outline]
      cases fs.node? (directory ++ [name]) with
      | none => rfl
      | some node =>
        cases node with
        | directory => rfl
        | file number content =>
          cases slash with
          | true => rfl
          | false => exact congrArg Except.ok (drop_outline fs _)

theorem map_outline_ok (fs : FileSystem) :
    (Except.ok fs : Except IoError FileSystem).map outline = .ok fs.outline := rfl

theorem map_outline_error (e : IoError) :
    (Except.error e : Except IoError FileSystem).map outline = .error e := rfl

theorem rename_outline (fs : FileSystem) (source target : String) :
    fs.outline.rename source target = (fs.rename source target).map outline := by
  rw [rename, rename, resolve_outline, resolve_outline]
  cases fs.resolve source with
  | error e => rfl
  | ok place =>
    cases place with
    | dots location => cases fs.resolve target <;> rfl
    | name sourceDirectory sourceName sourceSlash =>
      cases fs.resolve target with
      | error e => rfl
      | ok place =>
        cases place with
        | dots location => rfl
        | name targetDirectory targetName targetSlash =>
          dsimp only
          -- whether something is moved turns on what is at the two places, which the outline shows
          rw [node?_outline, node?_outline, move_outline, isEmptyAt_outline]
          cases fs.node? (sourceDirectory ++ [sourceName]) with
          | none => rfl
          | some node =>
            cases node with
            | file number content =>
              simp only [Option.map_some, Node.emptied, Node.map_emptied_eq_directory,
                apply_ite (Except.map outline), map_outline_ok, map_outline_error]
            | directory =>
              cases fs.node? (targetDirectory ++ [targetName]) with
              | none =>
                simp only [Option.map_some, Option.map_none, Node.emptied,
                  apply_ite (Except.map outline), map_outline_ok, map_outline_error]
              | some found =>
                cases found <;>
                  simp only [Option.map_some, Node.emptied, apply_ite (Except.map outline),
                    map_outline_ok, map_outline_error]

-- ---------------------------------------------------------------------------
-- Replacing a file
-- ---------------------------------------------------------------------------

theorem unlessFault_map {α β : Type} (fault : Option IoError) (x : Except IoError α) (f : α → β) :
    unlessFault fault (x.map f) = (unlessFault fault x).map f := by
  cases fault <;> rfl

theorem makeParent_outline (faults : Faults) (fs : FileSystem) (path : String) :
    fs.outline.makeParent faults path =
      ((fs.makeParent faults path).1.outline, (fs.makeParent faults path).2) := by
  rw [makeParent, makeParent]
  cases Path.parent? path with
  | none => rfl
  | some parent =>
    dsimp only
    rw [makeDirectories_outline]
    split
    · rfl
    · cases faults.makeDirectory with
      | some e => rfl
      | none =>
        cases fs.makeDirectories parent with
        | mk made result => cases result <;> rfl

theorem writeSibling_outline (faults : Faults) (fs : FileSystem) (path : String)
    (content : Bytes) :
    fs.outline.writeSibling faults path [] =
      ((fs.writeSibling faults path content).1.outline,
        (fs.writeSibling faults path content).2) := by
  rw [writeSibling, writeSibling, create, create, openFile_outline, unlessFault_map]
  cases unlessFault faults.create (fs.openFile false (sibling path)) with
  | error e => rfl
  | ok opened =>
    obtain ⟨opened, number⟩ := opened
    dsimp only [Except.map]
    cases faults.write with
    | some e => rfl
    | none =>
      -- bytes that are written go to a file that is empty in the outline
      dsimp only [unlessFault]
      rw [append_outline opened number content]
      cases faults.sync with
      | some e => rfl
      | none =>
        dsimp only
        rw [rename_outline]
        cases faults.rename with
        | some e => rfl
        | none => cases (opened.append number content).rename (sibling path) path <;> rfl

theorem withoutSibling_outline (faults : Faults) (fs : FileSystem) (path : String) :
    fs.outline.withoutSibling faults path = (fs.withoutSibling faults path).outline := by
  rw [withoutSibling, withoutSibling, remove_outline, unlessFault_map]
  cases unlessFault faults.remove (fs.remove (sibling path)) <;> rfl

/-- Replacing a file leaves of the outline what replacing it by nothing would
leave. -/
theorem replace_outline (faults : Faults) (fs : FileSystem) (path : String) (content : Bytes) :
    fs.outline.replace faults path [] =
      ((fs.replace faults path content).1.outline, (fs.replace faults path content).2) := by
  rw [replace, replace, makeParent_outline]
  cases fs.makeParent faults path with
  | mk made result =>
    cases result with
    | error e => rfl
    | ok _ =>
      dsimp only
      rw [writeSibling_outline faults made path content]
      cases made.writeSibling faults path content with
      | mk written result =>
        cases result with
        | error e => exact congrArg (fun t => (t, _)) (withoutSibling_outline faults written path)
        | ok _ => rfl

end FileSystem

end Flagpost
