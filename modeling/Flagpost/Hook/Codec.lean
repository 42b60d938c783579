import Flagpost.Hook.Basic
import Flagpost.Json.Printer
import Flagpost.Json.Reader

/-!
# Flagpost — hooks as documents

A stored hook is a record of eight fields. Identifier, name and flag file
have to be there; a description and a token that are not are empty, a hook
that does not say so is disabled, and times that were never set are the start
of 1970. A hook is always written with all its fields.

What a client sends is a record of the six fields a client decides, none of
which has to be there.
-/

namespace Flagpost

/-- The fields of a hook that have been read. -/
structure HookFields where
  id : Option String := none
  name : Option String := none
  description : Option String := none
  token : Option String := none
  flagFile : Option String := none
  enabled : Option Bool := none
  createdAt : Option Timestamp := none
  updatedAt : Option Timestamp := none

namespace HookFields

open JsonReader

/-- Reads a text for a field. -/
def text : JsonReader String := readText "a string"

/-- The slot of the identifier. -/
def idSlot (required : Bool) : Slot HookFields :=
  ⟨"id", required, (·.id.isSome), fun h => do pure { h with id := some (← text) }⟩

/-- The slot of the name. -/
def nameSlot (required : Bool) : Slot HookFields :=
  ⟨"name", required, (·.name.isSome), fun h => do pure { h with name := some (← text) }⟩

/-- The slot of the description. -/
def descriptionSlot : Slot HookFields :=
  ⟨"description", false, (·.description.isSome),
    fun h => do pure { h with description := some (← text) }⟩

/-- The slot of the token. -/
def tokenSlot : Slot HookFields :=
  ⟨"token", false, (·.token.isSome), fun h => do pure { h with token := some (← text) }⟩

/-- The slot of the flag file. -/
def flagFileSlot (required : Bool) : Slot HookFields :=
  ⟨"flag_file", required, (·.flagFile.isSome),
    fun h => do pure { h with flagFile := some (← text) }⟩

/-- The slot of the switch. -/
def enabledSlot : Slot HookFields :=
  ⟨"enabled", false, (·.enabled.isSome), fun h => do pure { h with enabled := some (← readBool) }⟩

/-- The slot of the time of creation. -/
def createdAtSlot : Slot HookFields :=
  ⟨"created_at", false, (·.createdAt.isSome),
    fun h => do pure { h with createdAt := some (← readTimestamp) }⟩

/-- The slot of the time of the last change. -/
def updatedAtSlot : Slot HookFields :=
  ⟨"updated_at", false, (·.updatedAt.isSome),
    fun h => do pure { h with updatedAt := some (← readTimestamp) }⟩

/-- The fields of a stored hook, in order. -/
def storedSlots : List (Slot HookFields) :=
  [idSlot true, nameSlot true, descriptionSlot, tokenSlot, flagFileSlot true, enabledSlot,
    createdAtSlot, updatedAtSlot]

/-- The fields a client decides, in order. -/
def sentSlots : List (Slot HookFields) :=
  [idSlot false, nameSlot false, descriptionSlot, tokenSlot, flagFileSlot false, enabledSlot]

/-- The hook with these fields; what is not there has its default. -/
def toHook (h : HookFields) : Hook where
  id := h.id.getD ""
  name := h.name.getD ""
  description := h.description.getD ""
  token := h.token.getD ""
  flagFile := h.flagFile.getD ""
  enabled := h.enabled.getD false
  createdAt := h.createdAt.getD Timestamp.epoch
  updatedAt := h.updatedAt.getD Timestamp.epoch

end HookFields

namespace Hook

/-- The hook as a document. -/
def toJson (hook : Hook) : Json :=
  .object [
    ("id", .string hook.id),
    ("name", .string hook.name),
    ("description", .string hook.description),
    ("token", .string hook.token),
    ("flag_file", .string hook.flagFile),
    ("enabled", .bool hook.enabled),
    ("created_at", .string hook.createdAt.text),
    ("updated_at", .string hook.updatedAt.text)]

/-- Reads a stored hook. -/
def reader : JsonReader Hook := do
  let fields ← JsonReader.readRecord "struct Hook" HookFields.storedSlots {}
  pure fields.toHook

/-- Reads a document that is one stored hook. -/
def ofDocument (document : Bytes) : Except JsonError Hook :=
  (JsonReader.whole reader).run document

/-- Reads a document that is a list of stored hooks. -/
def listOfDocument (document : Bytes) : Except JsonError (List Hook) :=
  (JsonReader.whole (JsonReader.readList reader)).run document

/-- Reads what a client sent as a hook whose times are not set yet. -/
def ofRequest (document : Bytes) : Except JsonError Hook :=
  (JsonReader.whole do
    let fields ← JsonReader.readRecord "struct HookPayload" HookFields.sentSlots {}
    pure fields.toHook).run document

/-- Hooks as the text of a store: a list laid out, and a newline. -/
def listText (hooks : List Hook) : String :=
  String.ofList ((Json.array (hooks.map toJson)).pretty ++ ['\n'])

end Hook

end Flagpost
