import Flagpost.Text.Blank

/-!
# Flagpost — log levels

The weight of a log event. The names in a configuration may be written in
any case, `warning` is another word for `warn`, and `fatal` counts as an
error.
-/

namespace Flagpost

/-- The weight of a log event. -/
inductive Level
  | trace
  | debug
  | info
  | warn
  | error
deriving DecidableEq

namespace Level

/-- The level with a configured name. -/
def ofName? (name : String) : Option Level :=
  let name := lowercased name
  if name = "trace" then some trace
  else if name = "debug" then some debug
  else if name = "info" then some info
  else if name = "warn" ∨ name = "warning" then some warn
  else if name = "error" ∨ name = "fatal" then some error
  else none

/-- The name of a level in a log line. -/
def label : Level → String
  | trace => "TRACE"
  | debug => "DEBUG"
  | info => "INFO"
  | warn => "WARN"
  | error => "ERROR"

/-- How much a level weighs: the more, the more serious. -/
def weight : Level → Nat
  | trace => 0
  | debug => 1
  | info => 2
  | warn => 3
  | error => 4

end Level

end Flagpost
