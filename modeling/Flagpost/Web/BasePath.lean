import Flagpost.Text.Blank

/-!
# Flagpost — the base path

All routes can be put below one path. However it is configured, it is used
in one form: nothing at all for the root, and otherwise a leading slash and
no slash at the end.
-/

namespace Flagpost.BasePath

/-- The configured path without white space around it and slashes at its
end. -/
def core (path : List Char) : List Char := Blank.dropEndWhile (· == '/') (Blank.trim path)

/-- The form in which a configured base path is used. -/
def normalize (path : String) : String :=
  let core := core path.toList
  if core.isEmpty then ""
  else if core.head? = some '/' then String.ofList core
  else String.ofList ('/' :: core)

end Flagpost.BasePath
