import Flagpost.Config.Basic
import Flagpost.Json.Shape

/-!
# Flagpost — a configuration from its document

The document of a configuration is an object whose members are read in the
order of their names; what is missing has its default, and what is unknown is
passed over. A group of settings may also be written as an array of its
values in the order in which they are saved.
-/

namespace Flagpost

namespace Config

/-- How one setting is stored in its group. -/
structure Setting (σ : Type) where
  name : String
  store : Json → σ → Except ShapeError σ

/-- A text. -/
def asText (expected : String) : Json → Except ShapeError String
  | .string s => .ok s
  | other => .error (.type (Found.ofJson other) expected)

/-- A whole number from zero to a bound. -/
def asNat (bound : Nat) (expected : String) : Json → Except ShapeError Nat
  | .number (.whole n) =>
    if 0 ≤ n ∧ n ≤ bound then .ok n.toNat else .error (.value (.whole n) expected)
  | other => .error (.type (Found.ofJson other) expected)

/-- The greatest sixteen-bit number. -/
def max16 : Nat := 65535

/-- The greatest sixty-four-bit number. -/
def max64 : Nat := 18446744073709551615

/-- Stores the members that are settings, in order. -/
def storeMembers {σ : Type} (settings : List (Setting σ)) :
    List (String × Json) → σ → Except ShapeError σ
  | [], group => .ok group
  | (name, value) :: rest, group =>
    match settings.find? (·.name == name) with
    | none => storeMembers settings rest group
    | some setting => do
      let group ← setting.store value group
      storeMembers settings rest group

/-- Stores items in the settings, one after the other, and answers with those
that are left over. -/
def storeItems {σ : Type} :
    List (Setting σ) → List Json → σ → Except ShapeError (σ × List Json)
  | [], items, group => .ok (group, items)
  | _ :: _, [], group => .ok (group, [])
  | setting :: settings, item :: items, group => do
    let group ← setting.store item group
    storeItems settings items group

/-- Reads a group of settings, called `what`, over its defaults. -/
def readGroup {σ : Type} (what : String) (settings : List (Setting σ)) (defaults : σ) :
    Json → Except ShapeError σ
  | .object members => storeMembers settings members defaults
  | .array items =>
    match storeItems settings items defaults with
    | .error e => .error e
    | .ok (group, []) => .ok group
    | .ok (_, _ :: _) => .error (.length items.length "fewer elements in array")
  | other => .error (.type (Found.ofJson other) what)

/-- The settings of the server. -/
def serverGroup : List (Setting ServerSettings) := [
  ⟨"host", fun v s => (asText "a string" v).map fun x => { s with host := x }⟩,
  ⟨"port", fun v s => (asNat max16 "u16" v).map fun x => { s with port := x }⟩,
  ⟨"base_path", fun v s => (asText "a string" v).map fun x => { s with basePath := x }⟩,
  ⟨"admin_token", fun v s => (asText "a string" v).map fun x => { s with adminToken := x }⟩,
  ⟨"max_body_bytes", fun v s => (asNat max64 "usize" v).map fun x => { s with maxBodyBytes := x }⟩]

/-- The settings for hooks. -/
def hooksGroup : List (Setting HooksSettings) := [
  ⟨"storage_path", fun v s => (asText "path string" v).map fun x => { s with storagePath := x }⟩,
  ⟨"flags_dir", fun v s => (asText "path string" v).map fun x => { s with flagsDir := x }⟩]

/-- The log settings. -/
def logGroup : List (Setting LogSettings) := [
  ⟨"level", fun v s => (asText "a string" v).map fun x => { s with level := x }⟩,
  ⟨"format", fun v s => (asText "a string" v).map fun x => { s with format := x }⟩,
  ⟨"file_path", fun v s => (asText "a string" v).map fun x => { s with filePath := x }⟩,
  ⟨"max_size", fun v s => (asNat max64 "u64" v).map fun x => { s with maxSize := x }⟩,
  ⟨"max_backups", fun v s => (asNat max64 "usize" v).map fun x => { s with maxBackups := x }⟩]

/-- The groups of a configuration. -/
def groups : List (Setting Config) := [
  ⟨"server", fun v c =>
    (readGroup "struct ServerSettings" serverGroup {} v).map fun x => { c with server := x }⟩,
  ⟨"hooks", fun v c =>
    (readGroup "struct HooksSettings" hooksGroup {} v).map fun x => { c with hooks := x }⟩,
  ⟨"log", fun v c =>
    (readGroup "struct LogSettings" logGroup {} v).map fun x => { c with log := x }⟩]

/-- The configuration a document describes. -/
def ofJson (document : Json) : Except ShapeError Config :=
  readGroup "struct Config" groups {} document

end Config

end Flagpost
