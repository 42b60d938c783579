/-!
# Flagpost — paths

A path is a text whose segments are parted by slashes. Two readings of it are
kept apart:

* its **segments**, with the empty ones of doubled or trailing slashes;
* its **components**: the names in it, with `..`, a leading `.` and the root;
  empty segments and other dots do not count.

`Path.parent?` cuts the last component off the text and leaves the text
before it as it was written.
-/

namespace Flagpost

namespace Path

/-- The segments between slashes; the empty path has none. -/
def segments (path : String) : List String :=
  if path.isEmpty then [] else (path.toList.splitOn '/').map String.ofList

/-- The path with these segments. A lone empty segment is the root. -/
def ofSegments (segments : List String) : String :=
  if segments = [""] then "/" else String.intercalate "/" segments

/-- A step of a path. -/
inductive Component
  | root
  | current
  | parent
  | name (text : String)
deriving DecidableEq

/-- The component a segment stands for past the beginning of a path. -/
def inner? (segment : String) : Option Component :=
  if segment = "" ∨ segment = "." then none
  else if segment = ".." then some .parent
  else some (.name segment)

/-- The components of a path. -/
def components (path : String) : List Component :=
  match segments path with
  | [] => []
  | first :: rest =>
    let start :=
      if first = "" then [.root]
      else if first = "." then [.current]
      else (inner? first).toList
    start ++ rest.filterMap inner?

/-- Segments from the last to the first, without those at the end of the path
that are no component. -/
def dropIdle : List String → List String
  | s :: t :: rest => if s = "" ∨ s = "." then dropIdle (t :: rest) else s :: t :: rest
  | short => short

theorem dropIdle_length (reversed : List String) :
    (dropIdle reversed).length ≤ reversed.length := by
  induction reversed with
  | nil => simp [dropIdle]
  | cons s rest ih =>
    cases rest with
    | nil => simp [dropIdle]
    | cons t rest =>
      rw [dropIdle]
      split
      · simp only [List.length_cons] at ih ⊢; omega
      · simp

/-- The segments, last first, of the path above. -/
def above? (reversed : List String) : Option (List String) :=
  match dropIdle reversed with
  | [] => none
  | [""] => none
  | _ :: rest => some (dropIdle rest)

theorem above?_length {reversed above : List String} (h : above? reversed = some above) :
    above.length < reversed.length := by
  have hd := dropIdle_length reversed
  unfold above? at h
  split at h
  · simp at h
  · simp at h
  · rename_i s rest _ heq
    rw [heq] at hd
    have hr := dropIdle_length rest
    simp only [Option.some.injEq] at h
    subst h
    simp only [List.length_cons] at hd
    omega

/-- The path of the directory something is in; the root and the empty path
have none. -/
def parent? (path : String) : Option String :=
  (above? (segments path).reverse).map fun above => ofSegments above.reverse

/-- A path and those above it, nearest first, given by its segments, last
first. The empty path does not count. -/
def upwards (reversed : List String) : List String :=
  if reversed = [] then []
  else
    ofSegments reversed.reverse ::
      match _h : above? reversed with
      | some above => upwards above
      | none => []
termination_by reversed.length
decreasing_by exact above?_length _h

/-- A path and those above it, nearest first. -/
def ancestors (path : String) : List String := upwards (segments path).reverse

/-- The path of `file` inside `directory`. An absolute path stands for
itself. -/
def join (directory file : String) : String :=
  if file.toList.head? = some '/' ∨ directory = "" then file
  else if directory.toList.getLast? = some '/' then directory ++ file
  else directory ++ "/" ++ file

end Path

end Flagpost
