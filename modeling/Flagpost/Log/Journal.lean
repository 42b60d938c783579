import Flagpost.Log.Filter
import Flagpost.Log.Line
import Flagpost.Log.RotatingLog

/-!
# Flagpost — the journal

Where the events of a running service end up: those that the filter admits
are written as lines, each through a redactor of its own, to the standard
output or to a log file that is rotated.

A line that cannot be written is lost; the service goes on.
-/

namespace Flagpost

/-- An open journal. Without a file it is written to the standard output. -/
structure Journal where
  filter : Filter
  style : LineStyle
  file : Option RotatingLog

/-- Why a journal cannot be opened. -/
inductive JournalError
  | filter (error : FilterError)
  | file (cause : IoError)

/-- The failure as a diagnosis. -/
def JournalError.diagnosis : JournalError → String
  | .filter error => "FilterParse(" ++ error.diagnosis ++ ")"
  | .file cause => "FileCreation(" ++ cause.diagnosis ++ ")"

/-- Where lines go: the file system, what was written to the standard output,
and the open log file. -/
structure Channel where
  files : FileSystem
  output : Bytes
  file : Option RotatingLog

/-- A channel as the destination of a redactor. -/
def Channel.destination : Destination Channel IoError where
  write c bytes :=
    match c.file with
    | none => ({ c with output := c.output ++ bytes }, .ok ())
    | some log =>
      match RotatingLog.write c.files log bytes with
      | (files, log, result) => ({ c with files := files, file := some log }, result)
  flush c := (c, .ok ())

namespace Journal

/-- The environment variable that turns styles off. -/
def noStyleVariable : String := "NO_COLOR"

/-- How lines are written in a format. -/
def styleOf (env : Environment) : LogFormat → LineStyle
  | .json => .json
  | .plain => .plain (((env.text? noStyleVariable).getD "").isEmpty)

/-- Opens a journal. -/
def openFor (env : Environment) (fs : FileSystem) (plan : LogPlan) :
    FileSystem × Except JournalError Journal :=
  match Filter.ofEnvironment env plan.level with
  | .error e => (fs, .error (.filter e))
  | .ok filter =>
    match plan.output with
    | .standardOutput => (fs, .ok ⟨filter, styleOf env plan.format, none⟩)
    | .file path maxBytes maxBackups =>
      match RotatingLog.openAt fs path maxBytes maxBackups with
      | (fs, .error e) => (fs, .error (.file e))
      | (fs, .ok log) => (fs, .ok ⟨filter, styleOf env plan.format, some log⟩)

/-- Writes one line through a redactor of its own. -/
def writeLine (c : Channel) (line : String) : Channel :=
  Redactor.close Channel.destination
    (Redactor.write Channel.destination (Redactor.start c) (Utf8.encode line)).1

/-- Writes the events that the filter admits. -/
def writeEvents (j : Journal) (time : Timestamp) (events : List Event) (c : Channel) : Channel :=
  (events.filter j.filter.admits).foldl (fun c e => writeLine c (e.line j.style time)) c

end Journal

end Flagpost
