import Flagpost.Access.Token
import Flagpost.Config.File
import Flagpost.Hook.Registry
import Flagpost.Text.Line

/-!
# Flagpost — the token dialogue

The command `admin-token` makes a new token for the administrator, shows it
beside the one that is configured, and saves it if the administrator says so:
beforehand with `--yes`, or with `y` or `yes` at the prompt. Anything else,
the end of the input included, leaves the configuration as it is.

A configuration that cannot be read is no hindrance to a fresh token, but the
token is saved only into a document that is understood.
-/

namespace Flagpost

/-- What came of the dialogue. -/
structure TokenOutcome where
  token : String
  saved : Bool
deriving DecidableEq

/-- Why the dialogue broke off. -/
inductive DialogueError
  | config (error : ConfigError)
  | input (cause : IoError)

/-- The wording of a failure. -/
def DialogueError.message : DialogueError → String
  | .config error => error.message
  | .input cause => cause.message

/-- The failure as a diagnosis. -/
def DialogueError.diagnosis : DialogueError → String
  | .config error => error.diagnosis
  | .input cause => cause.diagnosis

/-- What the dialogue leaves: the file system, what was written, the input
that was not read, what was reported, and what came of it. -/
structure Dialogue where
  files : FileSystem
  output : String
  unread : Bytes
  events : List Event
  result : Except DialogueError TokenOutcome

namespace TokenDialogue

/-- The first line of an input, with its newline left out, and the rest. -/
def firstLine (input : Bytes) : Bytes × Bytes := (Line.split? input).getD (input, [])

/-- Is an answer at the prompt a yes? -/
def isYes (answer : String) : Bool :=
  let answer := lowercased (trimmed answer)
  answer == "y" || answer == "yes"

/-- The question at the prompt. -/
def question : String := "Do you want to save this new token to the configuration? (y/N): "

/-- What is said about the token that is configured. -/
def currentText (env : Environment) (fs : FileSystem) (path : String) : String :=
  let none := "No admin token is currently configured.\n"
  if !fs.hasPath path then none
  else
    match Config.load env fs path with
    | .error e => "Warning: could not read current configuration: " ++ e.message ++ "\n" ++ none
    | .ok config =>
      if config.server.adminToken.isEmpty then none
      else "Current admin token: " ++ config.server.adminToken ++ "\n"

/-- What is said after the token has been saved. -/
def savedText (env : Environment) (path : String) : String :=
  "Admin token saved to " ++ path ++ "\n" ++
    if (env.filled? Config.adminTokenVariable).isSome then
      "Note: " ++ Config.adminTokenVariable ++
        " is set and overrides the saved token at startup.\n"
    else ""

/-- The answer at the prompt and the input behind it. With `yes` nobody is
asked. -/
def decision (yes : Bool) (input : Bytes) : Except IoError Bool × Bytes :=
  if yes then (.ok true, input)
  else
    let (line, rest) := firstLine input
    match Utf8.decode? line with
    | none => (.error .notText, rest)
    | some answer => (.ok (isYes answer), rest)

/-- What is said before the input is read. -/
def opening (token : String) (env : Environment) (fs : FileSystem) (path : String) (yes : Bool) :
    String :=
  "Generated new admin token: " ++ token ++ "\n" ++ currentText env fs path ++
    (if yes then "" else question)

/-- Leads the dialogue. -/
def run (m : Moment) (env : Environment) (fs : FileSystem) (path : String) (yes : Bool)
    (input : Bytes) : Dialogue :=
  let token := Token.generate m.nanos m.random
  let generated := Token.generationEvents m.random
  let opening := opening token env fs path yes
  match decision yes input with
  | (.error cause, rest) => ⟨fs, opening, rest, generated, .error (.input cause)⟩
  | (.ok false, rest) =>
    ⟨fs, opening ++ "Token not saved. The configuration is unchanged.\n", rest, generated,
      .ok ⟨token, false⟩⟩
  | (.ok true, rest) =>
    match Config.setAdminToken m.faults fs path token with
    | (fs, events, .error e) => ⟨fs, opening, rest, generated ++ events, .error (.config e)⟩
    | (fs, events, .ok ()) =>
      ⟨fs, opening ++ savedText env path, rest, generated ++ events, .ok ⟨token, true⟩⟩

end TokenDialogue

end Flagpost
