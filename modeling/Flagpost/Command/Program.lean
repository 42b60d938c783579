import Flagpost.Command.Line
import Flagpost.Command.TokenDialogue
import Flagpost.Log.Journal
import Flagpost.Server.Setup

/-!
# Flagpost — the program

A run of the program from the words it is called with to its end. `start`
goes through these steps, and the first that fails ends the run: the
configuration is read, or written if there is none; the environment overrides
it; the journal is opened; the configuration is checked; the server is set up;
the server listens. Reports before the journal is open are lost.

What the world contributes is one argument, `Surroundings`, so a run is a
function of it.
-/

namespace Flagpost

/-- What the world contributes to a run. -/
structure Surroundings where
  files : FileSystem
  environment : Environment
  moment : Moment
  /-- The standard input. -/
  input : Bytes
  /-- The name of the system the program runs on. -/
  platform : String
  /-- Why listening at an endpoint fails, if it does. -/
  listen : Endpoint → Option IoError

/-- What a run leaves: the file system, the standard output, the standard
error, and the exit code. -/
structure Run where
  files : FileSystem
  output : Bytes
  errors : String
  code : Nat

namespace Program

/-- The name of the program. -/
def name : String := "webhook-forge"

/-- A run that succeeded. -/
def success (files : FileSystem) (output : Bytes) : Run := ⟨files, output, "", 0⟩

/-- A run that failed, with a diagnosis. -/
def failure (files : FileSystem) (output : Bytes) (diagnosis : String) : Run :=
  ⟨files, output, "Error: " ++ diagnosis ++ "\n", 1⟩

-- ---------------------------------------------------------------------------
-- Showing things
-- ---------------------------------------------------------------------------

/-- The version and the platform. -/
def showVersion (s : Surroundings) : Run :=
  success s.files <| Utf8.encode <|
    name ++ " " ++ Gateway.version ++ "\n  Platform: " ++ s.platform ++ "\n"

/-- The configuration in force, as it may be shown. -/
def showConfig (s : Surroundings) (path : String) : Run :=
  let loaded := if s.files.hasPath path then Config.load s.environment s.files path else .ok {}
  match loaded with
  | .error e => failure s.files [] e.diagnosis
  | .ok config =>
    let shown := (config.overridden s.environment).redacted
    success s.files (Utf8.encode (shown.toJson.prettyText ++ "\n"))

/-- Where the configuration file is. -/
def showPath (s : Surroundings) (path : String) : Run :=
  success s.files (Utf8.encode (path ++ "\n"))

/-- What a call says before it reads its input, if it reads any. -/
def opening (s : Surroundings) (words : List String) : String :=
  match CommandLine.ofWords words with
  | .ok ⟨some (.adminToken false), config⟩ =>
    TokenDialogue.opening (Token.generate s.moment.nanos s.moment.random) s.environment s.files
      (Config.resolvePath s.environment config) false
  | _ => ""

/-- Leads the token dialogue. -/
def adminToken (s : Surroundings) (path : String) (yes : Bool) : Run :=
  let d := TokenDialogue.run s.moment s.environment s.files path yes s.input
  match d.result with
  | .error e => failure d.files (Utf8.encode d.output) e.diagnosis
  | .ok _ => success d.files (Utf8.encode d.output)

-- ---------------------------------------------------------------------------
-- Starting
-- ---------------------------------------------------------------------------

/-- What is reported about an issue of the configuration. -/
def issueEvent (issue : ConfigIssue) : Event :=
  ⟨.error, .config, "config error: " ++ issue.message, [("path", .shown issue.path)]⟩

/-- What the program says about a configuration with issues. -/
def issuesText (count : Nat) : String :=
  "configuration contains " ++ String.ofList (Decimal.digits count) ++
    " error(s), aborting startup"

/-- What is reported about a server that is about to listen. -/
def startingEvent (server : Server) : Event :=
  ⟨.info, .server, "starting webhook-forge",
    [("version", .quoted Gateway.version), ("addr", .shown server.endpoint.text),
      ("flags_dir", .shown server.site.flagsDir)]⟩

/-- What is reported about a server that listens. -/
def listeningEvent (server : Server) : Event :=
  ⟨.info, .server, "server listening",
    [("addr", .shown server.endpoint.text), ("base_path", .shown server.gateway.basePath)]⟩

/-- Lets a server listen. -/
def listen (s : Surroundings) (journal : Journal) (c : Channel) (server : Server) : Run :=
  let now := s.moment.now
  let c := journal.writeEvents now [startingEvent server] c
  match Gateway.open? server.gateway now with
  | none =>
    ⟨c.files, c.output, "the base path " ++ server.gateway.basePath ++ " has no routes\n", 101⟩
  | some _ =>
    match s.listen server.endpoint with
    | some cause => failure c.files c.output cause.diagnosis
    | none =>
      let c := journal.writeEvents now [listeningEvent server] c
      success c.files c.output

/-- Checks a configuration and sets up its server. -/
def serve (s : Surroundings) (journal : Journal) (c : Channel) (config : Config) : Run :=
  let now := s.moment.now
  match config.issues with
  | issue :: issues =>
    let c := journal.writeEvents now ((issue :: issues).map issueEvent) c
    failure c.files c.output (Quoted.quote (issuesText (issues.length + 1)))
  | [] =>
    let setup := Server.setUp s.moment.faults c.files config
    let c := journal.writeEvents now setup.events { c with files := setup.files }
    match setup.result with
    | .error e =>
      let c := journal.writeEvents now [⟨.error, .server, "failed to initialize hook storage",
        [("error", .shown e.message)]⟩] c
      failure c.files c.output e.diagnosis
    | .ok server => listen s journal c server

/-- Starts the service. -/
def start (s : Surroundings) (path : String) : Run :=
  match Config.loadOrCreate s.moment.faults s.environment s.files path with
  | (fs, _, .error e) => failure fs [] e.diagnosis
  | (fs, _, .ok config) =>
    let config := config.overridden s.environment
    match Journal.openFor s.environment fs (LogPlan.ofSettings config.log) with
    | (fs, .error e) => failure fs [] e.diagnosis
    | (fs, .ok journal) =>
      let c := journal.writeEvents s.moment.now
        [⟨.info, .config, "configuration loaded", [("path", .shown path)]⟩]
        ⟨fs, [], journal.file⟩
      serve s journal c config

-- ---------------------------------------------------------------------------
-- Whole runs
-- ---------------------------------------------------------------------------

/-- A run that a call took off its way. -/
def detoured (s : Surroundings) (d : Detour) : Run :=
  if d.isAskedFor then success s.files (Utf8.encode (d.message ++ "\n"))
  else ⟨s.files, [], "error: " ++ d.message ++ "\n", 2⟩

/-- Runs the program with the words it is called with. -/
def run (s : Surroundings) (words : List String) : Run :=
  match CommandLine.ofWords words with
  | .error d => detoured s d
  | .ok call =>
    let path := Config.resolvePath s.environment call.config
    match call.command with
    | none => start s path
    | some .start => start s path
    | some (.adminToken yes) => adminToken s path yes
    | some .showConfig => showConfig s path
    | some .showPath => showPath s path
    | some .version => showVersion s

end Program

end Flagpost
