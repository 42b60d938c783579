import Flagpost.Json.Value
import Flagpost.Text.Quoted
import Flagpost.Time.Reader

/-!
# Flagpost — documents of the wrong shape

A document can be well-formed and still not be what was asked for. A
`ShapeError` says what was found and what was expected, in the same words
whether the document was read from a file or came with a request.
-/

namespace Flagpost

/-- What was found where something else was expected. -/
inductive Found
  | null
  | bool (b : Bool)
  | whole (n : Int)
  | real (x : Binary64)
  | string (s : String)
  | array
  | object

/-- What was found, in words. -/
def Found.text : Found → String
  | .null => "null"
  | .bool b => if b then "boolean `true`" else "boolean `false`"
  | .whole n => "integer `" ++ String.ofList (Decimal.ofInt n) ++ "`"
  | .real x => "floating point `" ++ String.ofList (Shortest.text x) ++ "`"
  | .string s => "string " ++ Quoted.quote s
  | .array => "sequence"
  | .object => "map"

/-- What a value is found as. -/
def Found.ofJson : Json → Found
  | .null => .null
  | .bool b => .bool b
  | .number (.whole n) => .whole n
  | .number (.real x) => .real x
  | .string s => .string s
  | .array _ => .array
  | .object _ => .object

/-- Why a document is not what was asked for. -/
inductive ShapeError
  | type (found : Found) (expected : String)
  | value (found : Found) (expected : String)
  | length (count : Nat) (expected : String)
  | missing (field : String)
  | repeated (field : String)
  | timestamp (error : TimestampError)

/-- The wording of a shape error. -/
def ShapeError.message : ShapeError → String
  | .type found expected => "invalid type: " ++ found.text ++ ", expected " ++ expected
  | .value found expected => "invalid value: " ++ found.text ++ ", expected " ++ expected
  | .length count expected =>
    "invalid length " ++ String.ofList (Decimal.digits count) ++ ", expected " ++ expected
  | .missing field => "missing field `" ++ field ++ "`"
  | .repeated field => "duplicate field `" ++ field ++ "`"
  | .timestamp error => error.message

end Flagpost
