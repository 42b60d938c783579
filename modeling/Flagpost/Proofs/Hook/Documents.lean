import Flagpost.Hook.Registry
import Flagpost.Proofs.Json.Layout

/-!
# Flagpost — hooks read back from documents

What was written for a hook is read as the hook, whatever its fields hold. More
documents than those are read as a hook: the members may stand in any order, a
time may be written in any way that is read as the time, and a member may be left
out where the hook has the default (`Hook.Describes`). The work is done by the
layout of lists and records; here it only remains to say that the members of such
a document fill the slots of a stored hook, each its own (`Hook.Tells.fill`).

* `Hook.reads_described`          — the members are read as the hook they describe;
* `Hook.ofDocument_described`     — and so is a document of them, in either layout;
* `Hook.listOfDocument_listText`  — the text of any hooks is read as the hooks;
* `Hook.stored_reads_back`        — what is read is read again once it is written.
-/

namespace Flagpost

-- ---------------------------------------------------------------------------
-- Descriptions
-- ---------------------------------------------------------------------------

namespace Hook

open Reads

variable {hook : Hook} {member : String × Json} {told : List (String × Json)}
  {names : List String}

/-- A member of a document tells a field of the hook. -/
inductive Tells (hook : Hook) : String × Json → Prop
  | id : Tells hook ("id", .string hook.id)
  | name : Tells hook ("name", .string hook.name)
  | description : Tells hook ("description", .string hook.description)
  | token : Tells hook ("token", .string hook.token)
  | flagFile : Tells hook ("flag_file", .string hook.flagFile)
  | enabled : Tells hook ("enabled", .bool hook.enabled)
  | createdAt {text : String} (h : Timestamp.read text = .ok hook.createdAt) :
      Tells hook ("created_at", .string text)
  | updatedAt {text : String} (h : Timestamp.read text = .ok hook.updatedAt) :
      Tells hook ("updated_at", .string text)

/-- The members of a document describe the hook. Each of them tells a field that no
other one tells, and where a field is not told the hook has its default. -/
structure Describes (told : List (String × Json)) (hook : Hook) : Prop where
  tells : ∀ member ∈ told, hook.Tells member
  once : (told.map Prod.fst).Nodup
  needed : ∀ name ∈ ["id", "name", "flag_file"], name ∈ told.map Prod.fst
  description : "description" ∉ told.map Prod.fst → hook.description = ""
  token : "token" ∉ told.map Prod.fst → hook.token = ""
  enabled : "enabled" ∉ told.map Prod.fst → hook.enabled = false
  createdAt : "created_at" ∉ told.map Prod.fst → hook.createdAt = Timestamp.epoch
  updatedAt : "updated_at" ∉ told.map Prod.fst → hook.updatedAt = Timestamp.epoch

/-- The members of a hook's document. -/
def members (hook : Hook) : List (String × Json) :=
  [("id", .string hook.id), ("name", .string hook.name), ("description", .string hook.description),
    ("token", .string hook.token), ("flag_file", .string hook.flagFile),
    ("enabled", .bool hook.enabled), ("created_at", .string hook.createdAt.text),
    ("updated_at", .string hook.updatedAt.text)]

/-- A hook is described by the document it is written as. -/
theorem describes_members (hook : Hook) : Describes hook.members hook where
  tells := by
    simp only [members, List.forall_mem_cons, List.not_mem_nil, false_implies, implies_true,
      and_true]
    exact ⟨.id, .name, .description, .token, .flagFile, .enabled,
      .createdAt (Timestamp.read_text _), .updatedAt (Timestamp.read_text _)⟩
  once := by simp [members]
  needed := by simp [members]
  description := by simp [members]
  token := by simp [members]
  enabled := by simp [members]
  createdAt := by simp [members]
  updatedAt := by simp [members]

-- ---------------------------------------------------------------------------
-- Members fill slots
-- ---------------------------------------------------------------------------

/-- A hook of which the fields with these names have been read. -/
def fieldsRead (hook : Hook) (names : List String) : HookFields where
  id := if "id" ∈ names then some hook.id else none
  name := if "name" ∈ names then some hook.name else none
  description := if "description" ∈ names then some hook.description else none
  token := if "token" ∈ names then some hook.token else none
  flagFile := if "flag_file" ∈ names then some hook.flagFile else none
  enabled := if "enabled" ∈ names then some hook.enabled else none
  createdAt := if "created_at" ∈ names then some hook.createdAt else none
  updatedAt := if "updated_at" ∈ names then some hook.updatedAt else none

/-- A member stands in a document with its value behind white space. -/
def Placed (place : String × Json → Member) (member : String × Json) : Prop :=
  (place member).name = member.1 ∧
    ∃ space, IsSpace space ∧ (place member).value = space ++ Utf8.ofChars member.2.compact

theorem placed_bare (member : String × Json) : Placed Member.bare member :=
  ⟨rfl, [], IsSpace.nil, rfl⟩

/-- The value of a field is written in one way in both layouts. -/
theorem Tells.placed_onLine (h : hook.Tells member) (level : Nat) :
    Placed (Member.onLine level) member := by
  have hspace : IsSpace [0x20] := by
    intro b hb
    rw [List.mem_singleton.1 hb]
    rfl
  refine ⟨rfl, [0x20], hspace, ?_⟩
  cases h <;> rfl

/-- A slot that takes a text is filled with the text of a member. -/
theorem reads_text {σ : Type} {space : Bytes} (hs : IsSpace space) (s : String)
    (keep : String → σ) :
    Reads (HookFields.text >>= fun t => pure (keep t))
      (space ++ Utf8.ofChars (Json.compact (.string s))) (keep s) :=
  bind_pure (readText _ s hs) (Reads.pure _)

/-- A slot that takes a time is filled with the text of a member, if that is read as
a time. -/
theorem reads_time {σ : Type} {space : Bytes} (hs : IsSpace space) {text : String}
    {t : Timestamp} (h : Timestamp.read text = .ok t) (keep : Timestamp → σ) :
    Reads (JsonReader.readTimestamp >>= fun t => pure (keep t))
      (space ++ Utf8.ofChars (Json.compact (.string text))) (keep t) :=
  bind_pure (readTimestamp h hs) (Reads.pure _)

/-- A field that has not been read is free. -/
theorem isSome_free {α : Type} {name : String} (h : name ∉ names) (a : α) :
    (if name ∈ names then some a else none).isSome = false := by
  rw [if_neg h]
  rfl

/-- A field that is read joins those that have been read. -/
theorem reads_field {slot : JsonReader.Slot HookFields} {text : Bytes} {name : String}
    {read : HookFields} (h : Reads (slot.fill (hook.fieldsRead names)) text read)
    (hread : hook.fieldsRead (name :: names) = read) :
    Reads (slot.fill (hook.fieldsRead names)) text (hook.fieldsRead (name :: names)) :=
  hread ▸ h

/-- A member fills the slot of its field. -/
theorem Tells.fill (h : hook.Tells member) (hfree : member.1 ∉ names) {space : Bytes}
    (hs : IsSpace space) :
    ∃ slot, HookFields.storedSlots.find? (·.name == member.1) = some slot ∧
      slot.isFilled (hook.fieldsRead names) = false ∧
      Reads (slot.fill (hook.fieldsRead names)) (space ++ Utf8.ofChars member.2.compact)
        (hook.fieldsRead (member.1 :: names)) := by
  -- each field is still free; texts, the truth value and times each have their reader
  cases h with
  | id =>
    refine ⟨_, rfl, isSome_free hfree _, reads_field (reads_text hs hook.id _) ?_⟩
    simp [fieldsRead]
  | name =>
    refine ⟨_, rfl, isSome_free hfree _, reads_field (reads_text hs hook.name _) ?_⟩
    simp [fieldsRead]
  | description =>
    refine ⟨_, rfl, isSome_free hfree _, reads_field (reads_text hs hook.description _) ?_⟩
    simp [fieldsRead]
  | token =>
    refine ⟨_, rfl, isSome_free hfree _, reads_field (reads_text hs hook.token _) ?_⟩
    simp [fieldsRead]
  | flagFile =>
    refine ⟨_, rfl, isSome_free hfree _, reads_field (reads_text hs hook.flagFile _) ?_⟩
    simp [fieldsRead]
  | enabled =>
    have hread := readBool hook.enabled hs
    refine ⟨_, rfl, isSome_free hfree _, reads_field (bind_pure hread (Reads.pure _)) ?_⟩
    simp [fieldsRead]
  | createdAt htime =>
    refine ⟨_, rfl, isSome_free hfree _, reads_field (reads_time hs htime _) ?_⟩
    simp [fieldsRead]
  | updatedAt htime =>
    refine ⟨_, rfl, isSome_free hfree _, reads_field (reads_time hs htime _) ?_⟩
    simp [fieldsRead]

/-- Members that tell different fields fill the slots of these fields. -/
theorem fills_told {place : String × Json → Member} (htells : ∀ member ∈ told, hook.Tells member)
    (hplace : ∀ member ∈ told, Placed place member) (honce : (told.map Prod.fst).Nodup)
    (hfree : ∀ name ∈ told.map Prod.fst, name ∉ names) :
    Fills HookFields.storedSlots (hook.fieldsRead names) (told.map place)
      (hook.fieldsRead ((told.map Prod.fst).reverse ++ names)) := by
  induction told generalizing names with
  | nil => exact .nil _
  | cons member told ih =>
    rw [List.forall_mem_cons] at htells hplace
    rw [List.map_cons, List.nodup_cons] at honce
    rw [List.map_cons, List.forall_mem_cons] at hfree
    obtain ⟨hname, space, hspace, hvalue⟩ := hplace.1
    obtain ⟨slot, hslot, hunfilled, hread⟩ := htells.1.fill hfree.1 hspace
    -- no later member has the name of this one
    have hlater : ∀ name ∈ told.map Prod.fst, name ∉ member.1 :: names := by
      intro name hmem hnames
      rcases List.mem_cons.1 hnames with rfl | hnames
      · exact honce.1 hmem
      · exact hfree.2 name hmem hnames
    have hrest := ih htells.2 hplace.2 honce.2 hlater
    rw [List.map_cons, List.map_cons, List.reverse_cons, List.append_assoc]
    exact .cons (by rw [hname]; exact hslot) hunfilled (by rw [hvalue]; exact hread) hrest

theorem fieldsRead_reverse (hook : Hook) (names : List String) :
    hook.fieldsRead (names.reverse ++ []) = hook.fieldsRead names := by
  simp [fieldsRead]

/-- None of the fields that are needed is missing. -/
theorem Describes.missing? (h : Describes told hook) :
    JsonReader.missing? HookFields.storedSlots (hook.fieldsRead (told.map Prod.fst)) = none := by
  have hneeded := h.needed
  simp only [List.forall_mem_cons, List.not_mem_nil, false_implies, implies_true,
    and_true] at hneeded
  simp [JsonReader.missing?, HookFields.storedSlots, HookFields.idSlot, HookFields.nameSlot,
    HookFields.descriptionSlot, HookFields.tokenSlot, HookFields.flagFileSlot,
    HookFields.enabledSlot, HookFields.createdAtSlot, HookFields.updatedAtSlot, fieldsRead, hneeded]

/-- A field that has not been read has its default. -/
theorem getD_read {α : Type} {name : String} {a default : α} (h : name ∉ names → a = default) :
    (if name ∈ names then some a else none).getD default = a := by
  split
  · rfl
  · rename_i hfree
    exact (h hfree).symm

/-- With the defaults of the fields that are not told, the hook is complete. -/
theorem Describes.toHook (h : Describes told hook) :
    (hook.fieldsRead (told.map Prod.fst)).toHook = hook := by
  have hid : "id" ∈ told.map Prod.fst := h.needed "id" (by simp)
  have hname : "name" ∈ told.map Prod.fst := h.needed "name" (by simp)
  have hflagFile : "flag_file" ∈ told.map Prod.fst := h.needed "flag_file" (by simp)
  rw [HookFields.toHook]
  simp only [fieldsRead, hid, hname, hflagFile, if_true, Option.getD_some,
    getD_read h.description, getD_read h.token, getD_read h.enabled, getD_read h.createdAt,
    getD_read h.updatedAt]

/-- The members of a document are read as the hook they describe. -/
theorem reads_described {place : String × Json → Member} (h : Describes told hook)
    (hplace : ∀ member ∈ told, Placed place member) {space : Bytes} (hs : IsSpace space) :
    Reads reader (0x7B :: (Member.textOf (told.map place) ++ (space ++ [0x7D]))) hook := by
  have hfills : Fills HookFields.storedSlots (hook.fieldsRead []) (told.map place)
      (hook.fieldsRead ((told.map Prod.fst).reverse ++ [])) :=
    fills_told h.tells hplace h.once fun _ _ => List.not_mem_nil
  rw [fieldsRead_reverse] at hfills
  refine bind_pure (readRecord hfills h.missing? hs) ?_
  rw [h.toHook]
  exact Reads.pure hook

theorem Describes.ne_nil (h : Describes told hook) : told ≠ [] := by
  rintro rfl
  cases h.needed "id" (by simp)

-- ---------------------------------------------------------------------------
-- Documents
-- ---------------------------------------------------------------------------

/-- The two ways to write a document. -/
def layouts : List (Json → String) := [Json.compactText, Json.prettyText]

/-- A document is read as the hook it describes, in either layout. -/
theorem ofDocument_described (h : Describes told hook) {layout : Json → String}
    (hlayout : layout ∈ layouts) :
    ofDocument (Utf8.encode (layout (.object told))) = .ok hook := by
  obtain ⟨member, others, rfl⟩ := List.exists_cons_of_ne_nil h.ne_nil
  rw [layouts, List.mem_cons, List.mem_singleton] at hlayout
  rcases hlayout with rfl | rfl
  · -- one line: members follow the comma at once
    have hbare := reads_described h (fun member _ => placed_bare member) IsSpace.nil
    have hrun := run_whole hbare IsSpace.nil
    rw [List.append_nil, ← Json.ofChars_compact] at hrun
    rw [Json.compactText, Utf8.encode_ofList]
    exact hrun
  · -- a line each: members follow a break and two blanks
    have hlines := reads_described h (fun member hmem => (h.tells member hmem).placed_onLine 1)
      (Json.isSpace_indent 0)
    have hrun := run_whole hlines IsSpace.nil
    rw [List.append_nil, ← Json.ofChars_pretty] at hrun
    rw [Json.prettyText, Json.pretty, Utf8.encode_ofList]
    exact hrun

theorem ofDocument_toJson (hook : Hook) {layout : Json → String} (hlayout : layout ∈ layouts) :
    ofDocument (Utf8.encode (layout hook.toJson)) = .ok hook :=
  ofDocument_described hook.describes_members hlayout

/-- A hook is read from the document it was written as. -/
theorem readsItem (hook : Hook) (level : Nat) : ReadsItem reader level hook.toJson hook := by
  have hlayout := Json.ofChars_pretty level ("id", .string hook.id) hook.members.tail
  have hlines := reads_described hook.describes_members
    (fun member hmem => (hook.describes_members.tells member hmem).placed_onLine (level + 1))
    (Json.isSpace_indent level)
  exact ⟨hlayout ▸ hlines, 0x7B, _, hlayout, by decide, by decide⟩

/-- **Hooks read back.** The text of any hooks is read as the hooks. -/
theorem listOfDocument_listText (hooks : List Hook) :
    listOfDocument (Utf8.encode (listText hooks)) = .ok hooks := by
  have hread : ∀ v ∈ hooks.map fun hook => (hook.toJson, hook), ReadsItem reader (0 + 1) v.1 v.2 := by
    intro v hv
    obtain ⟨hook, _, rfl⟩ := List.mem_map.1 hv
    exact readsItem hook 1
  have hitems := readList hread
  have hvalues : (hooks.map fun hook => (hook.toJson, hook)).map Prod.fst = hooks.map toJson := by
    simp
  have hhooks : (hooks.map fun hook => (hook.toJson, hook)).map Prod.snd = hooks := by
    rw [List.map_map]
    exact List.map_id hooks
  rw [hvalues, hhooks] at hitems
  rw [listText, Utf8.encode_ofList, Utf8.ofChars_append]
  exact run_whole hitems Json.isSpace_newline

/-- **Stored hooks read back.**

* Every hook, whatever its texts and times, is read from what it is written as, in
  either layout, and every list of hooks from the text of a store.
* So whatever has been read as a hook, or as a list of hooks, is read as the same
  once it has been written again.
* This is not said of nothing: a document is read as a hook when it describes the
  hook, its members in any order and those left out that have their defaults; and a
  time may be what a clock shows that is ahead of UTC or behind it. -/
theorem stored_reads_back :
    (∀ hook : Hook, ∀ layout ∈ layouts,
      ofDocument (Utf8.encode (layout hook.toJson)) = .ok hook) ∧
    (∀ hooks : List Hook, listOfDocument (Utf8.encode (listText hooks)) = .ok hooks) ∧
    (∀ (document : Bytes) (hook : Hook), ofDocument document = .ok hook → ∀ layout ∈ layouts,
      ofDocument (Utf8.encode (layout hook.toJson)) = ofDocument document) ∧
    (∀ (document : Bytes) (hooks : List Hook), listOfDocument document = .ok hooks →
      listOfDocument (Utf8.encode (listText hooks)) = listOfDocument document) ∧
    (∀ (told : List (String × Json)) (hook : Hook), Describes told hook → ∀ layout ∈ layouts,
      ofDocument (Utf8.encode (layout (.object told))) = .ok hook) ∧
    (∀ (shown t : Timestamp) (behind : Bool) (hours minutes : Nat), hours < 24 → minutes < 60 →
      shown.atOffset? (Timestamp.zoneOffset behind hours minutes) = some t →
      Timestamp.read (shown.textAt behind hours minutes) = .ok t) := by
  refine ⟨fun hook layout hlayout => ofDocument_toJson hook hlayout, listOfDocument_listText,
    ?_, ?_, ?_, ?_⟩
  · intro document hook hread layout hlayout
    rw [ofDocument_toJson hook hlayout, hread]
  · intro document hooks hread
    rw [listOfDocument_listText, hread]
  · intro told hook hdescribes layout hlayout
    exact ofDocument_described hdescribes hlayout
  · intro shown t behind hours minutes hhours hminutes hshown
    exact Timestamp.read_textAt hhours hminutes hshown

/-- The members are told in no particular order, the description, the token and the time
of creation are left out, and the other time is in a leap second of a year past 9999, on
a clock ahead of UTC. -/
theorem stored_reads_back_by_hand :
    let shown : Timestamp :=
      ⟨⟨12345, 7, 1, by decide⟩, 17999, 1000000001, by decide, by decide, by decide⟩
    let time : Timestamp :=
      ⟨⟨12345, 6, 30, by decide⟩, 84599, 1000000001, by decide, by decide, by decide⟩
    let hook : Hook := ⟨"ci", "a\u0000\"\\", "", "", "ci.flag", true, Timestamp.epoch, time⟩
    let told : List (String × Json) :=
      [("updated_at", .string "+12345-07-01T04:59:60.000000001+05:30"), ("enabled", .bool true),
        ("flag_file", .string "ci.flag"), ("name", .string "a\u0000\"\\"), ("id", .string "ci")]
    let document := Utf8.encode (Json.object told).compactText
    shown.atOffset? (Timestamp.zoneOffset false 5 30) = some time ∧ Describes told hook ∧
      ofDocument document = .ok hook ∧ time.text = "+12345-06-30T23:29:60.000000001Z" ∧
      ofDocument (Utf8.encode hook.toJson.prettyText) = ofDocument document := by
  intro shown time hook told document
  obtain ⟨-, -, hagain, -, hdescribed, hclock⟩ := stored_reads_back
  have hoffset : shown.atOffset? (Timestamp.zoneOffset false 5 30) = some time := by decide +kernel
  have hshown : shown.textAt false 5 30 = "+12345-07-01T04:59:60.000000001+05:30" := by
    decide +kernel
  have htime := hclock shown time false 5 30 (by decide) (by decide) hoffset
  rw [hshown] at htime
  have hdescribes : Describes told hook := {
    tells := by
      simp only [told, List.forall_mem_cons, List.not_mem_nil, false_implies, implies_true,
        and_true]
      exact ⟨.updatedAt htime, .enabled, .flagFile, .name, .id⟩
    once := by simp [told]
    needed := by simp [told]
    description := fun _ => rfl
    token := fun _ => rfl
    enabled := by simp [told]
    createdAt := fun _ => rfl
    updatedAt := by simp [told] }
  have hread := hdescribed told hook hdescribes Json.compactText (by simp [layouts])
  exact ⟨hoffset, hdescribes, hread, by decide +kernel,
    hagain document hook hread Json.prettyText (by simp [layouts])⟩

end Hook

-- ---------------------------------------------------------------------------
-- Stores
-- ---------------------------------------------------------------------------

namespace Registry

/-- A store that was written is read as the hooks that were written. -/
theorem hooksOfText_listText (hooks : List Hook) : hooksOfText (Hook.listText hooks) = .ok hooks := by
  have hblank : isBlankText (Hook.listText hooks) = false := by
    rw [isBlankText, Hook.listText, String.toList_ofList, Json.pretty]
    cases hooks with
    | nil => rfl
    | cons hook hooks => rfl
  rw [hooksOfText, hblank, if_neg (by decide), Hook.listOfDocument_listText]

end Registry

end Flagpost
