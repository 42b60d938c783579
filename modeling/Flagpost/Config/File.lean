import Flagpost.Config.Decoding
import Flagpost.Config.Environment
import Flagpost.File.Replacement
import Flagpost.Log.Event

/-!
# Flagpost — the configuration file

The file is read through the environment (`Config.load`) and written without
it. `Config.save` writes a whole configuration. `Config.setAdminToken`
changes one value of the document as it stands and keeps every other one,
references to the environment included.

Both write the file as a whole or not at all.
-/

namespace Flagpost

namespace Config

/-- The document in the file at a path. -/
def readDocument (fs : FileSystem) (path : String) : Except ConfigError Json :=
  match fs.readText path with
  | .error e => .error (.read path e)
  | .ok text =>
    match Json.ofJson5 text with
    | .error e => .error (.document path (.json5 e))
    | .ok document => .ok document

/-- The configuration in the file at a path, with references to the
environment replaced. -/
def load (env : Environment) (fs : FileSystem) (path : String) : Except ConfigError Config := do
  let document ← readDocument fs path
  let document ← env.expand document
  match ofJson document with
  | .ok config => .ok config
  | .error e => .error (.document path (.shape e))

/-- Writes a document to the file at a path. -/
def writeDocument (faults : Faults) (fs : FileSystem) (path : String) (document : Json) :
    FileSystem × Except ConfigError Unit :=
  match fs.replace faults path (Utf8.encode (String.ofList (document.pretty ++ ['\n']))) with
  | (fs, .ok ()) => (fs, .ok ())
  | (fs, .error e) => (fs, .error (.write path e.cause))

/-- Writes a configuration to the file at a path. -/
def save (faults : Faults) (fs : FileSystem) (path : String) (config : Config) :
    FileSystem × Except ConfigError Unit :=
  writeDocument faults fs path config.toJson

/-- The configuration in the file at a path; if there is no file, the default
one, which is written there. -/
def loadOrCreate (faults : Faults) (env : Environment) (fs : FileSystem) (path : String) :
    FileSystem × List Event × Except ConfigError Config :=
  if fs.hasPath path then (fs, [], load env fs path)
  else
    match save faults fs path {} with
    | (fs, .error e) => (fs, [], .error e)
    | (fs, .ok ()) =>
      (fs, [⟨.info, .config, "created default configuration file", [("path", .shown path)]⟩],
        .ok {})

-- ---------------------------------------------------------------------------
-- Changing the token
-- ---------------------------------------------------------------------------

/-- The document of the default configuration, sorted as a document that has
been read. -/
def defaultDocument : Json :=
  match (toJson {}) with
  | .object groups =>
    .object <| Json.sorted <| groups.map fun (name, group) =>
      match group with
      | .object members => (name, .object (Json.sorted members))
      | other => (name, other)
  | other => other

/-- The document with another token for the administrator. -/
def withAdminToken (token : String) : Json → Except ConfigError Json
  | .object members =>
    match (Json.member? members "server").getD (.object []) with
    | .object server =>
      .ok (.object (Json.putMember "server"
        (.object (Json.putMember "admin_token" (.string token) server)) members))
    | _ => .error .serverNotObject
  | _ => .error .rootNotObject

/-- Sets the administrator's token in the file at a path. -/
def setAdminToken (faults : Faults) (fs : FileSystem) (path token : String) :
    FileSystem × List Event × Except ConfigError Unit :=
  let document := if fs.hasPath path then readDocument fs path else .ok defaultDocument
  match document.bind (withAdminToken token) with
  | .error e => (fs, [], .error e)
  | .ok document =>
    match writeDocument faults fs path document with
    | (fs, .error e) => (fs, [], .error e)
    | (fs, .ok ()) =>
      (fs, [⟨.info, .config, "admin token updated", [("path", .shown path)]⟩], .ok ())

end Config

end Flagpost
