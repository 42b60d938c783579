import Flagpost.File.Path
import Flagpost.Hook.Basic
import Flagpost.Hook.Error
import Flagpost.Text.Blank

/-!
# Flagpost — which hooks are accepted

A hook is checked before it is saved, and its flag file once more when it is
triggered, since the store may have been edited by hand in between. The flag
file has to stay below the flags directory: it is a relative path without
`..`, taken apart at slashes and at backslashes alike, and it names a file.
Its components are looked at as well, since they are what decides where the
file is.

The first fault in the order of the checks is the one reported. That a hook
has a token is not asked here: a hook without one can be kept but not
triggered.
-/

namespace Flagpost

namespace FlagFile

/-- A slash or a backslash. -/
def isSeparator (c : Char) : Bool := c == '/' || c == '\\'

/-- The pieces between separators. -/
def pieces : List Char → List (List Char)
  | [] => [[]]
  | c :: rest =>
    if isSeparator c then [] :: pieces rest
    else
      match pieces rest with
      | [] => [[c]]
      | piece :: more => (c :: piece) :: more

/-- Does the path have a component that could lead out of a directory? -/
def leadsOut (path : String) : Bool :=
  (Path.components path).any fun component => component == .root || component == .parent

/-- Does the path have a component that is a name? -/
def namesSomething (path : String) : Bool :=
  (Path.components path).any fun component =>
    match component with
    | .name _ => true
    | _ => false

/-- The fault of a flag file, if it has one. -/
def fault? (path : String) : Option HookFault :=
  let chars := path.toList
  if chars.isEmpty then some .flagFileMissing
  else if chars.any isControl then some (.flagFileControl path)
  else if chars.head?.any isSeparator then some (.flagFileAbsolute path)
  else if (pieces chars).contains ['.', '.'] then some (.flagFileTraversal path)
  else if leadsOut path then some (.flagFileOutside path)
  else if !namesSomething path || chars.getLast?.any isSeparator then some (.flagFileUnnamed path)
  else none

end FlagFile

namespace Hook

/-- The most bytes an identifier may have. -/
def maxIdLength : Nat := 128

/-- A character of an identifier. -/
def isIdChar (c : Char) : Bool := c.isAlphanum || c == '-' || c == '_'

/-- The fault of a hook, if it has one. -/
def fault? (hook : Hook) : Option HookFault :=
  if hook.id.isEmpty then some .idMissing
  else if maxIdLength < hook.id.utf8ByteSize then some .idTooLong
  else if !hook.id.toList.all isIdChar then some .idCharacters
  else if isBlankText hook.name then some .nameMissing
  else FlagFile.fault? hook.flagFile

end Hook

end Flagpost
