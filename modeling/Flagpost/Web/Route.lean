import Flagpost.Text.Decimal
import Flagpost.Web.BasePath
import Flagpost.Web.Percent

/-!
# Flagpost — routes

Which resource a path leads to. The paths of the resources are **patterns**
below the base path. A pattern is a path whose segments may end in a hole,
written as a colon and a name; the hole takes what is left of the segment. The
base path may have holes of its own, and a base path that makes no pattern has
no routes.

Paths are compared as they were sent; only what a hole takes is decoded. Some
names of holes are reserved: such a hole takes its text like any other, but
the text is not handed on.
-/

namespace Flagpost

/-- A segment of a pattern: text, and the name of the hole it ends in. -/
structure Segment where
  lead : List Char
  hole : Option (List Char)
deriving DecidableEq

/-- A pattern for paths. -/
abbrev Pattern := List Segment

/-- The names of holes and what they took, in order. -/
abbrev Filling := List (List Char × List Char)

/-- Reads a segment. A star would take the rest of a path, which no pattern
can have before its end; a hole needs a name, and a segment has one at most. -/
def Segment.ofChars? (text : List Char) : Option Segment :=
  let lead := text.takeWhile (· != ':')
  if text.contains '*' then none
  else
    match text.drop lead.length with
    | [] => some ⟨lead, none⟩
    | _ :: name => if name.isEmpty || name.contains ':' then none else some ⟨lead, some name⟩

namespace Pattern

/-- The most holes a pattern may have. -/
def maxHoles : Nat := 25

/-- The pattern a text is, if it is one. -/
def ofChars? (text : List Char) : Option Pattern :=
  ((text.splitOn '/').mapM Segment.ofChars?).filter fun pattern =>
    pattern.countP (·.hole.isSome) ≤ maxHoles

/-- What the holes of a pattern take of a path, given by its segments, if the
pattern fits it. The hole at the end of a pattern takes something. -/
def match? : Pattern → List (List Char) → Option Filling
  | [], [] => some []
  | segment :: rest, part :: parts =>
    match segment.hole with
    | none => if part = segment.lead then match? rest parts else none
    | some name =>
      let taken := part.drop segment.lead.length
      if segment.lead.isPrefixOf part && !(rest.isEmpty && taken.isEmpty) then
        (match? rest parts).map ((name, taken) :: ·)
      else none
  | _, _ => none

end Pattern

/-- What a path can lead to. -/
inductive Resource
  /-- Whether the service is up. -/
  | health
  /-- The trigger of one hook. -/
  | trigger
  /-- All hooks. -/
  | hooks
  /-- One hook. -/
  | hook
deriving DecidableEq

namespace Resource

/-- Where a resource is below the base path. -/
def location : Resource → String
  | health => "/health"
  | trigger => "/webhook/:id"
  | hooks => "/api/hooks"
  | hook => "/api/hooks/:id"

/-- All resources. -/
def all : List Resource := [health, trigger, hooks, hook]

end Resource

/-- The routes: a pattern for each resource. -/
abbrev Routes := List (Pattern × Resource)

namespace Routes

/-- The pattern of a resource below a base path. -/
def pattern? (base : String) (resource : Resource) : Option Pattern :=
  Pattern.ofChars? (base.toList ++ resource.location.toList)

/-- The routes below a base path, if it makes patterns. -/
def ofBase? (base : String) : Option Routes :=
  Resource.all.mapM fun resource =>
    (pattern? (BasePath.normalize base) resource).map fun pattern => (pattern, resource)

/-- The resource a path leads to, and what the holes took. -/
def find? (routes : Routes) (path : String) : Option (Resource × Filling) :=
  routes.findSome? fun (pattern, resource) =>
    (Pattern.match? pattern (path.toList.splitOn '/')).map fun filling => (resource, filling)

end Routes

/-- Why the identifier of a hook cannot be taken from a path. -/
inductive PathFault
  | notText (name : List Char)
  | count (holes : Nat)
deriving DecidableEq

namespace PathFault

/-- The wording of a fault. -/
def message : PathFault → String
  | notText name => "Invalid URL: Invalid UTF-8 in `" ++ String.ofList name ++ "`"
  | count holes =>
    "Wrong number of path arguments for `Path`. Expected 1 but got " ++
      String.ofList (Decimal.digits holes) ++
      ". Note that multiple parameters must be extracted with a tuple `Path<(_, _)>` or a " ++
      "struct `Path<YourParams>`"

end PathFault

namespace Filling

/-- What the reserved names of holes begin with. -/
def reservedNames : List String := ["__private__axum_nest_tail_param", "__private__axum_fallback"]

/-- Is the name of a hole reserved? -/
def isReserved (name : List Char) : Bool :=
  reservedNames.any fun reserved => reserved.toList.isPrefixOf name

/-- What a hole took, decoded. -/
def decode (entry : List Char × List Char) : Except PathFault String :=
  match Utf8.decode? (Percent.decode (Utf8.encode (String.ofList entry.2))) with
  | some text => .ok text
  | none => .error (.notText entry.1)

/-- The identifier in a path with exactly one hole whose name is not reserved. -/
def identifier (filling : Filling) : Except PathFault String := do
  match ← (filling.filter fun entry => !isReserved entry.1).mapM decode with
  | [id] => .ok id
  | values => .error (.count values.length)

end Filling

end Flagpost
