import Flagpost.Config.Basic
import Flagpost.Config.Error
import Flagpost.Text.Utf8

/-!
# Flagpost — the environment of a configuration

A text in a configuration file may refer to an environment variable: `${NAME}`
stands for its value, and `$${NAME}` stands for the characters `${NAME}`. The
text is gone through once from the left; a value that is put in is not looked
at again. A reference to a variable that is not set, or whose value is not
text, is an error, and the leftmost such reference is the one reported.

The environment also overrides the administrator's token and says where the
configuration file is.
-/

namespace Flagpost

/-- The variables that are set. -/
abbrev Environment := List (String × Bytes)

namespace Environment

/-- The value of a variable, if it is set and is text. -/
def text? (env : Environment) (name : String) : Option String :=
  (env.lookup name).bind Utf8.decode?

/-- The value of a variable, if it is set to more than white space. -/
def filled? (env : Environment) (name : String) : Option String :=
  (env.text? name).filter fun value => !isBlankText value

-- ---------------------------------------------------------------------------
-- References
-- ---------------------------------------------------------------------------

/-- A character the name of a variable may begin with. -/
def isNameStart (c : Char) : Bool := c.isUpper || c == '_'

/-- A character the name of a variable may go on with. -/
def isNamePart (c : Char) : Bool := isNameStart c || c.isDigit

/-- The name in braces at the start of a text, and what follows them. -/
def braced? : List Char → Option (List Char × List Char)
  | '\x7b' :: c :: rest =>
    if isNameStart c then
      match rest.dropWhile isNamePart with
      | '\x7d' :: behind => some (c :: rest.takeWhile isNamePart, behind)
      | _ => none
    else none
  | _ => none

/-- A reference at the start of a text: whether it is doubled, its name, and
what follows it. -/
def reference? : List Char → Option (Bool × List Char × List Char)
  | '$' :: '$' :: rest => (braced? rest).map fun (name, behind) => (true, name, behind)
  | '$' :: rest => (braced? rest).map fun (name, behind) => (false, name, behind)
  | _ => none

theorem braced?_length {text name behind : List Char} (h : braced? text = some (name, behind)) :
    behind.length < text.length := by
  unfold braced? at h
  split at h
  · rename_i c rest
    split at h
    · split at h
      · rename_i tail heq
        have := (rest.dropWhile_suffix isNamePart).length_le
        rw [heq] at this
        simp only [Option.some.injEq, Prod.mk.injEq] at h
        simp only [List.length_cons] at this ⊢
        rw [← h.2]
        omega
      · simp at h
    · simp at h
  · simp at h

theorem reference?_length {text name behind : List Char} {doubled : Bool}
    (h : reference? text = some (doubled, name, behind)) : behind.length < text.length := by
  unfold reference? at h
  split at h
  · obtain ⟨⟨n, b⟩, hb, he⟩ := Option.map_eq_some_iff.1 h
    have := braced?_length hb
    simp only [Prod.mk.injEq] at he
    simp only [List.length_cons]
    rw [← he.2.2]
    omega
  · obtain ⟨⟨n, b⟩, hb, he⟩ := Option.map_eq_some_iff.1 h
    have := braced?_length hb
    simp only [Prod.mk.injEq] at he
    simp only [List.length_cons]
    rw [← he.2.2]
    omega
  · simp at h

/-- The text with its references replaced. -/
def expandChars (env : Environment) (text : List Char) : Except ConfigError (List Char) :=
  match _h : reference? text with
  | some (true, name, behind) =>
    (expandChars env behind).map fun rest => "$\x7b".toList ++ name ++ '\x7d' :: rest
  | some (false, name, behind) =>
    match env.text? (String.ofList name) with
    | none => .error (.missingVariable (String.ofList name))
    | some value => (expandChars env behind).map fun rest => value.toList ++ rest
  | none =>
    match text with
    | [] => .ok []
    | c :: rest => (expandChars env rest).map (c :: ·)
termination_by text.length
decreasing_by
  · exact reference?_length _h
  · exact reference?_length _h
  · simp

/-- The text with its references replaced. -/
def expandText (env : Environment) (text : String) : Except ConfigError String :=
  (expandChars env text.toList).map String.ofList

/-- The names of the variables that a text refers to. -/
def namesIn (text : List Char) : List String :=
  match _h : reference? text with
  | some (_, name, behind) => String.ofList name :: namesIn behind
  | none =>
    match text with
    | [] => []
    | _ :: rest => namesIn rest
termination_by text.length
decreasing_by
  · exact reference?_length _h
  · simp

mutual

/-- The document with the references in its texts replaced. Names of members
are left as they are. -/
def expand (env : Environment) : Json → Except ConfigError Json
  | .string s => (expandText env s).map .string
  | .array items => (expandItems env items).map .array
  | .object members => (expandMembers env members).map .object
  | other => .ok other

/-- Some items with the references in their texts replaced. -/
def expandItems (env : Environment) : List Json → Except ConfigError (List Json)
  | [] => .ok []
  | item :: rest => do
    let item ← expand env item
    let rest ← expandItems env rest
    pure (item :: rest)

/-- Some members with the references in their texts replaced. -/
def expandMembers (env : Environment) :
    List (String × Json) → Except ConfigError (List (String × Json))
  | [] => .ok []
  | (name, value) :: rest => do
    let value ← expand env value
    let rest ← expandMembers env rest
    pure ((name, value) :: rest)

end

end Environment

namespace Config

/-- The configuration with what the environment overrides. -/
def overridden (env : Environment) (c : Config) : Config :=
  match env.filled? adminTokenVariable with
  | some token => { c with server := { c.server with adminToken := trimmed token } }
  | none => c

/-- The environment variable that says where the configuration file is. -/
def pathVariable : String := "WEBHOOK_FORGE_CONFIG_PATH"

/-- An older name of that variable. -/
def olderPathVariable : String := "CONFIG_PATH"

/-- Where the configuration file is if nobody says otherwise. -/
def defaultPath : String := "config/config.json"

/-- Where the configuration file is: where the environment says, else where
the command line says, else where the older variable says. -/
def resolvePath (env : Environment) (given : Option String) : String :=
  (((env.filled? pathVariable).or given).or (env.filled? olderPathVariable)).getD defaultPath

end Config

end Flagpost
