import Flagpost.Number.Shortest

/-!
# Flagpost — document values

The values of a JSON document. A number without fraction and exponent is kept
as a whole number, any other in binary floating point. The members of an
object are a list of pairs, in the order they are written; a reader whose
documents have no order of their own sorts them by name (`Json.sorted`).
-/

namespace Flagpost

/-- A number of a document. -/
inductive Number
  | whole (n : Int)
  | real (x : Binary64)
deriving DecidableEq

/-- A value of a document. -/
inductive Json
  | null
  | bool (b : Bool)
  | number (n : Number)
  | string (s : String)
  | array (items : List Json)
  | object (members : List (String × Json))

namespace Json

/-- A whole number as a value. -/
def whole (n : Int) : Json := .number (.whole n)

/-- The value under a name. -/
def member? (members : List (String × Json)) (name : String) : Option Json :=
  members.lookup name

/-- Puts a value under a name: in the place of the value that was there, or
before the first greater name. -/
def putMember (name : String) (value : Json) : List (String × Json) → List (String × Json)
  | [] => [(name, value)]
  | (n, v) :: rest =>
    if name = n then (name, value) :: rest
    else if name < n then (name, value) :: (n, v) :: rest
    else (n, v) :: putMember name value rest

/-- The members sorted by name, the later of two with one name kept. -/
def sorted (members : List (String × Json)) : List (String × Json) :=
  members.foldl (fun done m => putMember m.1 m.2 done) []

end Json

end Flagpost
