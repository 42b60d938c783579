import Flagpost.Config.Basic
import Flagpost.Web.Gateway
import Flagpost.Web.IpAddress

/-!
# Flagpost — setting up a server

From a configuration to a server that is ready to listen: the directories are
made, the hook store is opened, and the host is turned into an address. The
steps come in this order, so a server whose host is unknown has its store all
the same.
-/

namespace Flagpost

/-- A server that is ready to listen. -/
structure Server where
  gateway : GatewaySettings
  site : Site
  endpoint : Endpoint

/-- Why a server cannot be set up. -/
inductive SetupError
  | hooks (error : HookError)
  | host (cause : IoError)

/-- The wording of a failure. -/
def SetupError.message : SetupError → String
  | .hooks error => error.message
  | .host cause => cause.message

/-- The failure as a diagnosis. -/
def SetupError.diagnosis : SetupError → String
  | .hooks error => error.diagnosis
  | .host cause => cause.diagnosis

/-- What setting up a server leaves. -/
structure Setup where
  files : FileSystem
  events : List Event
  result : Except SetupError Server

/-- The endpoint for a host and a port. Addresses are hosts, and `localhost`
is the loopback address; other names are not known. -/
def Endpoint.ofHost (host : String) (port : Nat) : Except IoError Endpoint :=
  match IpAddress.ofText? host with
  | some address => .ok ⟨address, port⟩
  | none =>
    if host.toList.contains '\x00' then .error .nulInPath
    else if lowercased host = "localhost" then .ok ⟨.v4 127 0 0 1, port⟩
    else .error .unknownHost

namespace Server

/-- Makes the directory the store is in and the one for flag files. -/
def makeDirectories (faults : Faults) (fs : FileSystem) (s : HooksSettings) :
    FileSystem × Except HookError Unit :=
  match fs.makeParent faults s.storagePath with
  | (fs, .error e) => (fs, .error (Registry.storeError s.storagePath e))
  | (fs, .ok ()) =>
    if s.flagsDir.isEmpty then (fs, .ok ())
    else
      match faults.makeDirectory with
      | some e => (fs, .error (.io ("failed to create directory " ++ s.flagsDir) e))
      | none =>
        match fs.makeDirectories s.flagsDir with
        | (fs, .ok ()) => (fs, .ok ())
        | (fs, .error e) => (fs, .error (.io ("failed to create directory " ++ s.flagsDir) e))

/-- What is reported about a registry that has been opened. -/
def loadedEvent (path : String) (registry : Registry) : Event :=
  ⟨.info, .server, "hook store loaded",
    [("path", .shown path), ("hooks", .number registry.hooks.size)]⟩

/-- Sets up the server a configuration describes. -/
def setUp (faults : Faults) (fs : FileSystem) (c : Config) : Setup :=
  match makeDirectories faults fs c.hooks with
  | (fs, .error e) => ⟨fs, [], .error (.hooks e)⟩
  | (fs, .ok ()) =>
    match Registry.openAt faults fs c.hooks.storagePath with
    | (fs, events, .error e) => ⟨fs, events, .error (.hooks e)⟩
    | (fs, events, .ok registry) =>
      let events := events ++ [loadedEvent c.hooks.storagePath registry]
      match Endpoint.ofHost c.server.host c.server.port with
      | .error cause => ⟨fs, events, .error (.host cause)⟩
      | .ok endpoint =>
        ⟨fs, events,
          .ok ⟨GatewaySettings.ofServer c.server, ⟨fs, registry, c.hooks.flagsDir⟩, endpoint⟩⟩

end Server

end Flagpost
