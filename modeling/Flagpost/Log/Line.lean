import Flagpost.Json.Printer
import Flagpost.Log.Event
import Flagpost.Log.Settings
import Flagpost.Text.Quoted
import Flagpost.Time.Timestamp

/-!
# Flagpost — log lines

An event as one line, in either format. A JSON line is a document; a plain
line is for reading, and tells its parts apart by the styles of a terminal if
it may.

The message of a plain line may hold text from outside. Characters that a
terminal acts on are written out there.
-/

namespace Flagpost

/-- A style of a terminal. -/
inductive Style
  | dim
  | slanted
  | red
  | yellow
  | green
  | blue
  | purple
deriving DecidableEq

namespace Style

/-- The number of a style. -/
def code : Style → String
  | dim => "2"
  | slanted => "3"
  | red => "31"
  | yellow => "33"
  | green => "32"
  | blue => "34"
  | purple => "35"

/-- The text in a style, if styles are to be used. -/
def paint (styled : Bool) (style : Style) (text : String) : String :=
  if styled then "\x1b[" ++ style.code ++ "m" ++ text ++ "\x1b[0m" else text

/-- The style of a level. -/
def ofLevel : Level → Style
  | .trace => purple
  | .debug => blue
  | .info => green
  | .warn => yellow
  | .error => red

end Style

/-- How lines are written. -/
inductive LineStyle
  | json
  | plain (styled : Bool)
deriving DecidableEq

namespace FieldValue

/-- The value in a document. -/
def toJson : FieldValue → Json
  | shown text => .string text
  | quoted text => .string text
  | number n => .whole n
  | truth b => .bool b

/-- The value in a plain line. -/
def plain : FieldValue → String
  | shown text => text
  | quoted text => Quoted.quote text
  | number n => String.ofList (Decimal.ofInt n)
  | truth b => if b then "true" else "false"

end FieldValue

namespace Event

/-- The event as a document. -/
def toJson (time : Timestamp) (e : Event) : Json :=
  .object [
    ("timestamp", .string time.text),
    ("level", .string e.level.label),
    ("fields", .object
      (("message", .string e.message) :: e.fields.map fun (name, value) => (name, value.toJson))),
    ("target", .string e.origin.name)]

/-- A character of a message, written out if a terminal would act on it. -/
def escapeChar (c : Char) : List Char :=
  if c = '\x1b' then "\\x1b".toList
  else if c = '\x07' then "\\x07".toList
  else if c = '\x08' then "\\x08".toList
  else if c = '\x0c' then "\\x0c".toList
  else if c = '\x7f' then "\\x7f".toList
  else if 0x80 ≤ c.toNat ∧ c.toNat ≤ 0x9F then
    "\\u\x7b".toList ++ Nat.toDigits 16 c.toNat ++ ['\x7d']
  else [c]

/-- The label of a level, five characters wide. -/
def wideLabel (level : Level) : String :=
  match level with
  | .info => " INFO"
  | .warn => " WARN"
  | level => level.label

/-- The fields of a plain line, each with a space before it. -/
def plainFields (styled : Bool) (fields : List (String × FieldValue)) : String :=
  String.join (fields.map fun (name, value) =>
    " " ++ Style.slanted.paint styled name ++ Style.dim.paint styled "=" ++ value.plain)

/-- The event as a plain line. -/
def plainText (styled : Bool) (time : Timestamp) (e : Event) : String :=
  Style.dim.paint styled time.text ++ " " ++
    (Style.ofLevel e.level).paint styled (wideLabel e.level) ++ " " ++
    Style.dim.paint styled e.origin.name ++ Style.dim.paint styled ":" ++ " " ++
    String.ofList (e.message.toList.flatMap escapeChar) ++ plainFields styled e.fields

/-- The line of an event, with its newline. -/
def line (style : LineStyle) (time : Timestamp) (e : Event) : String :=
  match style with
  | .json => (e.toJson time).compactText ++ "\n"
  | .plain styled => e.plainText styled time ++ "\n"

end Event

end Flagpost
