import Flagpost.Time.Timestamp

/-!
# Flagpost — hooks

A **hook** is a named trigger: whoever shows its token makes the service
write its flag file. A hook that is disabled refuses every trigger, and so
does one whose token is empty.
-/

namespace Flagpost

/-- A trigger, the token that guards it and the file it writes. -/
structure Hook where
  id : String
  name : String
  description : String
  token : String
  flagFile : String
  enabled : Bool
  createdAt : Timestamp
  updatedAt : Timestamp
deriving DecidableEq

end Flagpost
