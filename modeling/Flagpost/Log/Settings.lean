import Flagpost.Config.Basic

/-!
# Flagpost — what is logged where

The log settings of a configuration, understood. A format or a level that
means nothing falls back to the default; a file path of white space means the
standard output.
-/

namespace Flagpost

/-- How a log line is written: as a document, or for reading. -/
inductive LogFormat
  | json
  | plain
deriving DecidableEq

/-- Where log lines go. -/
inductive LogOutput
  | standardOutput
  | file (path : String) (maxBytes maxBackups : Nat)
deriving DecidableEq

/-- The log settings, understood. -/
structure LogPlan where
  format : LogFormat
  output : LogOutput
  level : Level
deriving DecidableEq

namespace LogPlan

/-- The bytes of a megabyte. -/
def megabyte : Nat := 1024 * 1024

/-- A limit is a number of sixty-four bits; a larger one is the largest. -/
def maxLimit : Nat := 18446744073709551615

/-- What the settings ask for. -/
def ofSettings (s : LogSettings) : LogPlan where
  format := if lowercased s.format = "text" then .plain else .json
  output :=
    if isBlankText s.filePath then .standardOutput
    else .file s.filePath (min (s.maxSize * megabyte) maxLimit) s.maxBackups
  level := (Level.ofName? s.level).getD .info

end LogPlan

end Flagpost
