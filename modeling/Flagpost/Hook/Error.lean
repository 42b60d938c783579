import Flagpost.File.IoError
import Flagpost.Json.Cursor

/-!
# Flagpost — failures of the hook service

Everything that keeps an operation on hooks from succeeding, by cause. A
failure is either the caller's to mend, and then its message is for the
caller, or it lies with the storage, and then the caller only learns that
something went wrong.
-/

namespace Flagpost

/-- Why a hook is refused. -/
inductive HookFault
  | idMissing
  | idTooLong
  | idCharacters
  | nameMissing
  | flagFileMissing
  | flagFileControl (path : String)
  | flagFileAbsolute (path : String)
  | flagFileTraversal (path : String)
  | flagFileOutside (path : String)
  | flagFileUnnamed (path : String)
deriving DecidableEq

/-- The wording of a fault. -/
def HookFault.message : HookFault → String
  | .idMissing => "hook ID is required"
  | .idTooLong => "hook ID must not exceed 128 characters"
  | .idCharacters => "hook ID may only contain letters, digits, '-' and '_'"
  | .nameMissing => "hook name is required"
  | .flagFileMissing => "hook flag file is required"
  | .flagFileControl path =>
    "flag file path must not contain control characters: " ++ Quoted.quote path
  | .flagFileAbsolute path => "flag file path must be relative: " ++ path
  | .flagFileTraversal path => "flag file path must not contain '..': " ++ path
  | .flagFileOutside path => "flag file path must stay inside the flags directory: " ++ path
  | .flagFileUnnamed path => "flag file path must name a file: " ++ path

/-- Why an operation on hooks failed. -/
inductive HookError
  | notFound (id : String)
  | alreadyExists (id : String)
  | invalidToken (id : String)
  | disabled (id : String)
  | invalid (fault : HookFault)
  | io (context : String) (cause : IoError)
  | unreadable (error : JsonError)
  /-- The record was last changed at the last timestamp there is. -/
  | endOfTime (id : String)

namespace HookError

/-- The wording of a failure. -/
def message : HookError → String
  | notFound id => "hook not found: " ++ id
  | alreadyExists id => "hook already exists: " ++ id
  | invalidToken id => "invalid token for hook " ++ id
  | disabled id => "hook is disabled: " ++ id
  | invalid fault => "invalid hook configuration: " ++ fault.message
  | io context cause => context ++ ": " ++ cause.message
  | unreadable error => "hook store serialization failed: " ++ error.message
  | endOfTime id => "no later timestamp for hook " ++ id

/-- A failure that concerns one hook or fault, as a diagnosis. -/
def diagnosisOf (kind text : String) : String := kind ++ "(" ++ Quoted.quote text ++ ")"

/-- The failure as a diagnosis, with its parts named. -/
def diagnosis : HookError → String
  | notFound id => diagnosisOf "NotFound" id
  | alreadyExists id => diagnosisOf "AlreadyExists" id
  | invalidToken id => diagnosisOf "InvalidToken" id
  | disabled id => diagnosisOf "Disabled" id
  | invalid fault => diagnosisOf "Validation" fault.message
  | io context cause =>
    "Io \x7b context: " ++ Quoted.quote context ++ ", source: " ++ cause.diagnosis ++ " \x7d"
  | unreadable error => "Serialization(" ++ error.diagnosis ++ ")"
  | endOfTime id => diagnosisOf "EndOfTime" id

/-- The code a client can tell failures apart by. -/
def code : HookError → String
  | notFound _ => "not_found"
  | alreadyExists _ => "already_exists"
  | invalidToken _ => "invalid_token"
  | disabled _ => "hook_disabled"
  | invalid _ => "validation_failed"
  | io _ _ => "io_error"
  | unreadable _ => "io_error"
  | endOfTime _ => "io_error"

/-- Can the caller mend the request and try again? -/
def isCallers : HookError → Bool
  | io _ _ => false
  | unreadable _ => false
  | endOfTime _ => false
  | _ => true

end HookError

end Flagpost
