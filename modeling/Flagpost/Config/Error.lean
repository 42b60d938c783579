import Flagpost.File.IoError
import Flagpost.Json.Shape
import Flagpost.Json5.Meaning

/-!
# Flagpost — failures of configuration files

Why a configuration file cannot be read, understood or written.
-/

namespace Flagpost

/-- Why the content of a configuration file is not understood. -/
inductive DocumentFault
  | json5 (error : Json5Error)
  | shape (error : ShapeError)

/-- The wording of a fault. -/
def DocumentFault.message : DocumentFault → String
  | .json5 error => error.message
  | .shape error => error.message

/-- Why a configuration file cannot be used. -/
inductive ConfigError
  | document (path : String) (fault : DocumentFault)
  | read (path : String) (cause : IoError)
  | write (path : String) (cause : IoError)
  | missingVariable (name : String)
  | rootNotObject
  | serverNotObject

namespace ConfigError

/-- The wording of the failures that are not the file system's. -/
def invalidText : ConfigError → String
  | rootNotObject => "config root must be an object"
  | serverNotObject => "`server` must be an object"
  | _ => ""

/-- The wording of a failure. -/
def message : ConfigError → String
  | document path fault => "Failed to parse JSON5 at " ++ path ++ ": " ++ fault.message
  | read path cause => "Failed to read config file " ++ path ++ ": " ++ cause.message
  | write path cause => "Failed to write config file " ++ path ++ ": " ++ cause.message
  | missingVariable name => "Missing environment variable: " ++ name
  | e => "Invalid configuration: " ++ e.invalidText

/-- A failure that concerns a file, as a diagnosis. -/
def fileDiagnosis (kind path message : String) : String :=
  kind ++ " \x7b path: " ++ Quoted.quote path ++ ", message: " ++ Quoted.quote message ++ " \x7d"

/-- The failure as a diagnosis, with its parts named. -/
def diagnosis : ConfigError → String
  | document path fault => fileDiagnosis "ParseError" path fault.message
  | read path cause => fileDiagnosis "ReadError" path cause.message
  | write path cause => fileDiagnosis "WriteError" path cause.message
  | missingVariable name => "MissingEnvVar \x7b var: " ++ Quoted.quote name ++ " \x7d"
  | e => "Invalid(" ++ Quoted.quote e.invalidText ++ ")"

end ConfigError

end Flagpost
