import Flagpost.Log.Level

/-!
# Flagpost — log events

What the service reports about its work: a level, the part of the service it
comes from, a message, and named fields. Events are values; which of them are
written, and how, is decided elsewhere.
-/

namespace Flagpost

/-- The part of the service an event comes from. -/
inductive Origin
  | server
  | http
  | hooks
  | auth
  | config
deriving DecidableEq

/-- The name of a part of the service. -/
def Origin.name : Origin → String
  | .server => "server"
  | .http => "http"
  | .hooks => "hooks"
  | .auth => "auth"
  | .config => "config"

/-- The value of a field. `quoted` is a text that a plain log line shows in
quotation marks. -/
inductive FieldValue
  | shown (text : String)
  | quoted (text : String)
  | number (n : Int)
  | truth (b : Bool)
deriving DecidableEq

/-- What a field holds whose words are not the service's own: what the random source
says when it fails, and what the runtime says of an operation that broke off. Their
words are theirs to choose, so this text stands for them; none of them knows of a
request or of a hook. -/
def FieldValue.ofPlatform : FieldValue := .shown "(in the words of the platform)"

/-- An event. -/
structure Event where
  level : Level
  origin : Origin
  message : String
  fields : List (String × FieldValue)
deriving DecidableEq

/-- The names of all fields of an event; its message is one of them. -/
def Event.fieldNames (event : Event) : List String := "message" :: event.fields.map (·.1)

end Flagpost
