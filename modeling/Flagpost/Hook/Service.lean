import Flagpost.Access.Token
import Flagpost.Hook.Action
import Flagpost.Hook.Validation

/-!
# Flagpost — the hook service

The rules above the registry: hooks are checked before they are saved, a
trigger is authorised by the hook's token, and an authorised trigger writes
the hook's flag file below the flags directory.

A trigger is refused for the first of these reasons that applies: there is no
such hook, the hook is disabled, the token is not the hook's.
-/

namespace Flagpost

/-- What a trigger wrote. -/
structure FlagWrite where
  path : String
  triggeredAt : Timestamp

namespace Service

/-- A fresh token. -/
def generateToken : Action String := fun m site =>
  ⟨site, Token.generationEvents m.random, .ok (Token.generate m.nanos m.random)⟩

/-- The event of an operation that failed on a hook. A hook whose last
timestamp is used up stops the operation before it can report. -/
def failure (message : String) (id : String) (e : HookError) : Option Event :=
  match e with
  | .endOfTime _ => none
  | e => some ⟨.error, .hooks, message, [("id", .shown id), ("error", .shown e.message)]⟩

/-- Checks a hook before it is saved. -/
def check (hook : Hook) : Action Unit :=
  Action.reportFailure (failure "failed to validate hook" hook.id) <|
    match hook.fault? with
    | some fault => Action.fail (.invalid fault)
    | none => Action.answer ()

/-- The hook with an identifier, or the event `message`. -/
def find (message : String) (id : String) : Action Hook :=
  Action.reportFailure (failure message id) fun m site =>
    Action.ofExcept (site.registry.find id) m site

/-- The hook with an identifier. -/
def getHook (id : String) : Action Hook := find "failed to get hook" id

/-- All hooks. -/
def allHooks : Action (List Hook) := fun _ site => ⟨site, [], .ok site.registry.hooks.hooks⟩

/-- Adds a hook. -/
def createHook (hook : Hook) : Action Hook := do
  check hook
  let created ← Action.reportFailure (failure "failed to create hook" hook.id) <|
    Action.ofChange fun m files registry => registry.create m files hook
  Action.report ⟨.info, .hooks, "hook created", [("id", .shown created.id)]⟩
  pure created

/-- Replaces a hook. -/
def updateHook (hook : Hook) : Action Hook := do
  check hook
  let updated ← Action.reportFailure (failure "failed to update hook" hook.id) <|
    Action.ofChange fun m files registry => registry.update m files hook
  Action.report ⟨.info, .hooks, "hook updated",
    [("id", .shown updated.id), ("enabled", .truth updated.enabled)]⟩
  pure updated

/-- Removes a hook. -/
def deleteHook (id : String) : Action Unit := do
  Action.reportFailure (failure "failed to delete hook" id) <|
    Action.ofChange fun m files registry => registry.delete m files id
  Action.report ⟨.info, .hooks, "hook deleted", [("id", .shown id)]⟩

/-- Checks that a token authorises the triggering of a hook, and answers with
the hook. -/
def authorise (id token : String) : Action Hook := do
  let hook ← find "failed to get hook for token validation" id
  if !hook.enabled then
    Action.report ⟨.warn, .hooks, "hook is disabled", [("id", .shown id)]⟩
    Action.fail (.disabled id)
  else if !Token.authorises token hook.token then
    Action.report ⟨.warn, .auth, "invalid hook token", [("id", .shown id)]⟩
    Action.fail (.invalidToken id)
  else pure hook

/-- The line a trigger leaves in the flag file. -/
def flagLine (time : Timestamp) : String := "Hook triggered at " ++ time.textToSecond ++ "\n"

/-- Makes the directory a flag file is in. -/
def makeFlagDirectory (m : Moment) (fs : FileSystem) (path : String) :
    FileSystem × Except HookError Unit :=
  match Path.parent? path with
  | none => (fs, .ok ())
  | some parent =>
    match m.faults.makeDirectory with
    | some e => (fs, .error (HookError.io ("failed to create directory " ++ parent) e))
    | none =>
      match fs.makeDirectories parent with
      | (fs, .ok ()) => (fs, .ok ())
      | (fs, .error e) => (fs, .error (.io ("failed to create directory " ++ parent) e))

/-- Makes the flag line all that is in a file. -/
def writeFlagFile (m : Moment) (fs : FileSystem) (path : String) :
    FileSystem × Except HookError FlagWrite :=
  match FileSystem.unlessFault m.faults.create (fs.create path) with
  | .error e => (fs, .error (.io ("failed to create flag file " ++ path) e))
  | .ok (fs, number) =>
    match m.faults.write with
    | some e => (fs, .error (.io ("failed to write flag file " ++ path) e))
    | none => (fs.append number (Utf8.encode (flagLine m.now)), .ok ⟨path, m.now⟩)

/-- Writes the flag line to a path, with the directories above it. -/
def writeFlag (m : Moment) (fs : FileSystem) (path : String) :
    FileSystem × Except HookError FlagWrite :=
  match makeFlagDirectory m fs path with
  | (fs, .error e) => (fs, .error e)
  | (fs, .ok ()) => writeFlagFile m fs path

/-- Writes the flag file of a hook, unless its path has a fault. -/
def raiseFlag (hook : Hook) : Action FlagWrite := fun m site =>
  match FlagFile.fault? hook.flagFile with
  | some fault => ⟨site, [], .error (.invalid fault)⟩
  | none =>
    match writeFlag m site.files (Path.join site.flagsDir hook.flagFile) with
    | (files, result) => ⟨{ site with files := files }, [], result⟩

/-- Triggers a hook. -/
def trigger (id token : String) : Action FlagWrite := do
  let hook ← authorise id token
  let written ← Action.reportFailure (fun e => some ⟨.error, .hooks, "failed to create flag file",
      [("id", .shown id), ("flag_file", .shown hook.flagFile), ("error", .shown e.message)]⟩)
    (raiseFlag hook)
  Action.report ⟨.info, .hooks, "hook triggered",
    [("id", .shown id), ("flag_file", .shown hook.flagFile)]⟩
  pure written

end Service

end Flagpost
