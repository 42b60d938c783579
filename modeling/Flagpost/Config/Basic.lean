import Flagpost.Json.Printer
import Flagpost.Log.Level

/-!
# Flagpost — the configuration

What an administrator decides: where the service listens and how its routes
are protected, where hooks and flag files are kept, and what is logged where.
Every setting has a default, so the empty configuration is one too.

`Config.issues` lists what the service cannot be run with; `Config.redacted`
is the configuration as it may be shown.
-/

namespace Flagpost

/-- Where the service listens and how its routes are protected. -/
structure ServerSettings where
  host : String := "127.0.0.1"
  port : Nat := 8080
  basePath : String := ""
  adminToken : String := ""
  maxBodyBytes : Nat := 262144
deriving DecidableEq

/-- Where hooks and flag files are kept. -/
structure HooksSettings where
  storagePath : String := "data/hooks.json"
  flagsDir : String := "data/flags"
deriving DecidableEq

/-- What is logged where. An empty path is the standard output; the size is
in megabytes. -/
structure LogSettings where
  level : String := "info"
  format : String := "json"
  filePath : String := ""
  maxSize : Nat := 100
  maxBackups : Nat := 5
deriving DecidableEq

/-- A configuration. -/
structure Config where
  server : ServerSettings := {}
  hooks : HooksSettings := {}
  log : LogSettings := {}
deriving DecidableEq

/-- A setting the service cannot be run with. -/
structure ConfigIssue where
  path : String
  message : String
deriving DecidableEq

/-- The issue with the setting it is about. -/
def ConfigIssue.text (issue : ConfigIssue) : String := issue.path ++ ": " ++ issue.message

namespace Config

/-- The environment variable that overrides the administrator's token. -/
def adminTokenVariable : String := "WEBHOOK_FORGE_ADMIN_TOKEN"

-- ---------------------------------------------------------------------------
-- As a document
-- ---------------------------------------------------------------------------

/-- The server settings as a document. -/
def serverJson (s : ServerSettings) : Json :=
  .object [
    ("host", .string s.host),
    ("port", .whole s.port),
    ("base_path", .string s.basePath),
    ("admin_token", .string s.adminToken),
    ("max_body_bytes", .whole s.maxBodyBytes)]

/-- The settings for hooks as a document. -/
def hooksJson (s : HooksSettings) : Json :=
  .object [("storage_path", .string s.storagePath), ("flags_dir", .string s.flagsDir)]

/-- The log settings as a document. -/
def logJson (s : LogSettings) : Json :=
  .object [
    ("level", .string s.level),
    ("format", .string s.format),
    ("file_path", .string s.filePath),
    ("max_size", .whole s.maxSize),
    ("max_backups", .whole s.maxBackups)]

/-- The configuration as a document. -/
def toJson (c : Config) : Json :=
  .object [("server", serverJson c.server), ("hooks", hooksJson c.hooks), ("log", logJson c.log)]

-- ---------------------------------------------------------------------------
-- Checks
-- ---------------------------------------------------------------------------

/-- The names of the log levels a configuration may ask for. -/
def levelNames : List String := ["trace", "debug", "info", "warn", "error", "fatal"]

/-- The names of the log formats. -/
def formatNames : List String := ["json", "text"]

/-- The issue, if there is one. -/
def issueIf (wrong : Bool) (path message : String) : List ConfigIssue :=
  if wrong then [⟨path, message⟩] else []

/-- Everything that keeps the service from running with a configuration. -/
def issues (c : Config) : List ConfigIssue :=
  issueIf (isBlankText c.server.adminToken) "server.admin_token"
    ("admin token is required (run `webhook-forge admin-token` or set " ++ adminTokenVariable ++
      ")") ++
  issueIf (c.server.port == 0) "server.port" "port must be between 1 and 65535" ++
  issueIf (isBlankText c.server.host) "server.host" "host must not be empty" ++
  issueIf c.hooks.storagePath.isEmpty "hooks.storage_path" "storage path must not be empty" ++
  issueIf c.hooks.flagsDir.isEmpty "hooks.flags_dir" "flags directory must not be empty" ++
  issueIf (!levelNames.contains (lowercased c.log.level)) "log.level"
    ("unknown log level '" ++ c.log.level ++ "' (expected one of " ++
      String.intercalate ", " levelNames ++ ")") ++
  issueIf (!formatNames.contains (lowercased c.log.format)) "log.format"
    ("unknown log format '" ++ c.log.format ++ "' (expected json or text)")

/-- The configuration as it may be shown: a token is masked. -/
def redacted (c : Config) : Config :=
  if c.server.adminToken.isEmpty then c
  else { c with server := { c.server with adminToken := "[REDACTED]" } }

end Config

end Flagpost
