import Flagpost.Command.Program
import Std.Time.DateTime.Timestamp

/-!
# Flagpost — the executable

The outer layer: it takes down the world as a value, runs the program on it,
and does to the world what the run did to the value. All paths are taken from
the working directory, whose tree is read before the run; after it, only what
the run has changed is written, and files are replaced as a whole.

This executable has no sockets, so nobody can listen with it.
-/

namespace Flagpost.Outside

/-- Adds what is in a directory to a tree. Links are passed over. -/
partial def readBelow (location : Location) (entries : Array IO.FS.DirEntry) (tree : FileSystem) :
    IO FileSystem := do
  let mut tree := tree
  for entry in entries do
    let here := location ++ [entry.fileName]
    match (← entry.path.symlinkMetadata).type with
    | .dir => tree ← readBelow here (← entry.path.readDir) (tree.addDirectory here)
    | .file =>
      let content ← IO.FS.readBinFile entry.path
      tree := tree.addFile here content.data.toList
    | _ => pure ()
  return tree

/-- The text of a location below the working directory. -/
def pathOf (location : Location) : String := String.intercalate "/" location

/-- Writes one node of a tree. -/
def writeNode (location : Location) (node : Node) : IO Unit := do
  let path := pathOf location
  match node with
  | .directory => IO.FS.createDirAll path
  | .file _ content =>
    IO.FS.writeBinFile (path ++ ".new") ⟨content.toArray⟩
    IO.FS.rename (path ++ ".new") path

/-- Does to the working directory what a run did to its tree. -/
def writeChanges (before after : FileSystem) : IO Unit := do
  for (location, node) in before.nodes.mergeSort (fun a b => b.1.length ≤ a.1.length) do
    if (after.node? location).isNone then
      match node with
      | .directory => IO.FS.removeDir (pathOf location)
      | .file _ _ => IO.FS.removeFile (pathOf location)
  for (location, node) in after.nodes.mergeSort (fun a b => a.1.length ≤ b.1.length) do
    if before.node? location != some node then writeNode location node

/-- The values of variables that are set. -/
def readVariables (names : List String) : IO Environment := do
  let mut found := []
  for name in names do
    if let some value ← IO.getEnv name then found := found ++ [(name, Utf8.encode value)]
  return found

/-- The variables a run may look at: those with fixed names, and those that
the configuration file refers to. -/
def readEnvironment (tree : FileSystem) (words : List String) : IO Environment := do
  let fixed ← readVariables [Config.pathVariable, Config.olderPathVariable,
    Config.adminTokenVariable, Filter.ownVariable, Filter.generalVariable, Journal.noStyleVariable]
  let given :=
    match CommandLine.ofWords words with
    | .ok call => call.config
    | .error _ => none
  let text := (tree.readText (Config.resolvePath fixed given)).toOption.getD ""
  return fixed ++ (← readVariables (Environment.namesIn text.toList))

/-- The present moment. -/
def readMoment : IO Moment := do
  let time ← Std.Time.Timestamp.now
  let nanos := time.toNanosecondsSinceUnixEpoch.val.toNat
  let random ← IO.getRandomBytes (USize.ofNat Token.randomBytes)
  return ⟨(Timestamp.ofNanos? nanos).getD Timestamp.epoch, nanos, some random.data.toList, {}⟩

end Flagpost.Outside

open Flagpost in
/-- Runs the program. -/
def main (words : List String) : IO UInt32 := do
  let tree ← Outside.readBelow [] (← (← IO.currentDir).readDir) FileSystem.empty
  let environment ← Outside.readEnvironment tree words
  let surroundings : Surroundings :=
    { files := tree
      environment := environment
      moment := ← Outside.readMoment
      input := []
      platform := "linux (x86_64)"
      listen := fun _ => some .notSupported }
  let opening := Program.opening surroundings words
  let out ← IO.getStdout
  out.putStr opening
  out.flush
  let input ← if opening.isEmpty then pure "" else (← IO.getStdin).getLine
  let run := Program.run { surroundings with input := Utf8.encode input } words
  Outside.writeChanges tree run.files
  out.write ⟨(run.output.drop (Utf8.encode opening).length).toArray⟩
  (← IO.getStderr).putStr run.errors
  return UInt32.ofNat run.code
