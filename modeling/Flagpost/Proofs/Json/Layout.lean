import Flagpost.Json.Reader
import Flagpost.Proofs.Json.Strings
import Flagpost.Proofs.Time.RoundTrip

/-!
# Flagpost — documents that were laid out read back

The readers of lists and records, on documents as the printer lays them out.
Both loops stop at a bracket they have looked at and not taken, so what they
read is stated together with the reader that takes the bracket: `follow` in
the lemmas below.

* `Reads.readRecord` — a record whose members fill its slots.
* `Reads.readList`   — a list of items that are read back one by one.

The two layouts of an object differ in the white space before its members and
its values only. A `Member` is a name and the text of a value with the white
space that stands there, so both layouts are the text of some members
(`Json.ofChars_pretty`, `Json.ofChars_compact`), and what is said of records is
said of members. `Fills` says what it means for members to fill slots: each is
looked up by its name, has not been filled before, and is read into what comes
before the next.
-/

namespace Flagpost

-- ---------------------------------------------------------------------------
-- The layout
-- ---------------------------------------------------------------------------

namespace Json

/-- Items behind others: a comma and the items, or nothing. -/
def itemsBehind (level : Nat) (items : List Json) : List Char :=
  if items.isEmpty then [] else ',' :: prettyItems level items

/-- Members behind others: a comma and the members, or nothing. -/
def membersBehind (level : Nat) (members : List (String × Json)) : List Char :=
  if members.isEmpty then [] else ',' :: prettyMembers level members

theorem prettyItems_cons (level : Nat) (item : Json) (rest : List Json) :
    prettyItems level (item :: rest) =
      indent level ++ (prettyAt level item ++ itemsBehind level rest) := by
  cases rest with
  | nil => simp [prettyItems, itemsBehind]
  | cons next rest => simp [prettyItems, itemsBehind]

theorem prettyMembers_cons (level : Nat) (name : String) (value : Json)
    (rest : List (String × Json)) :
    prettyMembers level ((name, value) :: rest) =
      indent level ++ (quoted name ++ ':' :: ' ' :: (prettyAt level value ++
        membersBehind level rest)) := by
  cases rest with
  | nil => simp [prettyMembers, membersBehind]
  | cons next rest => simp [prettyMembers, membersBehind]

/-- A layout that grows with every entry is no shorter than the list. -/
theorem length_le_of_grows {β γ : Type} {layout : List β → List γ} (hone : ∀ x, layout [x] ≠ [])
    (hmore : ∀ x y rest, (layout (y :: rest)).length < (layout (x :: y :: rest)).length)
    (entries : List β) : entries.length ≤ (layout entries).length := by
  induction entries with
  | nil => exact Nat.zero_le _
  | cons x rest ih =>
    cases rest with
    | nil => exact List.length_pos_iff.2 (hone x)
    | cons y rest => exact Nat.lt_of_le_of_lt ih (hmore x y rest)

theorem length_le_prettyItems (level : Nat) (items : List Json) :
    items.length ≤ (prettyItems level items).length := by
  refine length_le_of_grows (fun item => ?_) (fun item next rest => ?_) items
  · simp [prettyItems, indent]
  · rw [prettyItems_cons level item, itemsBehind, List.isEmpty_cons, if_neg (by decide)]
    simp only [List.length_append, List.length_cons]
    omega

theorem isSpace_indent (level : Nat) : IsSpace (Utf8.ofChars (indent level)) := by
  have hspaces : ∀ n, Utf8.ofChars (List.replicate n ' ') = List.replicate n 0x20 := by
    intro n
    induction n with
    | zero => rfl
    | succ n ih =>
      rw [List.replicate_succ, Utf8.ofChars_cons, ih, List.replicate_succ]
      rfl
  intro b hb
  rw [indent, Utf8.ofChars_cons, hspaces, List.mem_append] at hb
  rcases hb with hb | hb
  · rw [show String.utf8EncodeChar '\n' = [0x0A] by decide, List.mem_singleton] at hb
    exact hb ▸ rfl
  · exact List.eq_of_mem_replicate hb ▸ rfl

theorem isSpace_newline : IsSpace (Utf8.ofChars ['\n']) := by
  intro b hb
  rw [show Utf8.ofChars ['\n'] = [0x0A] by decide, List.mem_singleton] at hb
  exact hb ▸ rfl

/-- A string begins with its quotation mark. -/
theorem ofChars_quoted (s : String) :
    ∃ text, Utf8.ofChars (quoted s) = JsonReader.quote :: text := by
  rw [quoted, List.cons_append, Utf8.ofChars_cons, show String.utf8EncodeChar '"' = [0x22] by decide]
  exact ⟨_, rfl⟩

end Json

-- ---------------------------------------------------------------------------
-- Members
-- ---------------------------------------------------------------------------

/-- A member of an object as it stands in a document: white space, a name, and
what follows the colon. -/
structure Member where
  before : Bytes
  name : String
  value : Bytes
  isSpace_before : IsSpace before

namespace Member

/-- The member. -/
def text (member : Member) : Bytes :=
  member.before ++ (Utf8.ofChars (Json.quoted member.name) ++ 0x3A :: member.value)

/-- Members with commas between them. -/
def textOf : List Member → Bytes
  | [] => []
  | [member] => member.text
  | member :: rest => member.text ++ 0x2C :: textOf rest

/-- Members behind others: a comma and the members, or nothing. -/
def textBehind (members : List Member) : Bytes :=
  if members.isEmpty then [] else 0x2C :: textOf members

theorem textOf_cons (member : Member) (rest : List Member) :
    textOf (member :: rest) = member.text ++ textBehind rest := by
  cases rest with
  | nil => exact (List.append_nil _).symm
  | cons next rest => rfl

theorem length_le_textOf (members : List Member) : members.length ≤ (textOf members).length := by
  refine Json.length_le_of_grows (fun member => ?_) (fun member next rest => ?_) members
  · simp [textOf, text]
  · rw [textOf_cons member, textBehind, List.isEmpty_cons, if_neg (by decide), List.length_append,
      List.length_cons]
    omega

/-- A member on a line of its own at a level. -/
def onLine (level : Nat) (member : String × Json) : Member where
  before := Utf8.ofChars (Json.indent level)
  name := member.1
  value := 0x20 :: Utf8.ofChars (Json.prettyAt level member.2)
  isSpace_before := Json.isSpace_indent level

/-- A member without white space. -/
def bare (member : String × Json) : Member where
  before := []
  name := member.1
  value := Utf8.ofChars member.2.compact
  isSpace_before := IsSpace.nil

theorem ofChars_prettyMembers (level : Nat) (members : List (String × Json)) :
    Utf8.ofChars (Json.prettyMembers level members) = textOf (members.map (onLine level)) := by
  have hcolon : String.utf8EncodeChar ':' = [0x3A] := by decide
  have hblank : String.utf8EncodeChar ' ' = [0x20] := by decide
  have hcomma : String.utf8EncodeChar ',' = [0x2C] := by decide
  induction members with
  | nil => rfl
  | cons member rest ih =>
    obtain ⟨name, value⟩ := member
    rw [List.map_cons, textOf_cons, Json.prettyMembers_cons, text, onLine]
    -- the last member has no comma behind it
    cases rest with
    | nil => simp [Json.membersBehind, textBehind, hcolon, hblank]
    | cons next rest =>
      rw [Json.membersBehind, textBehind, List.isEmpty_cons, if_neg (by decide), List.map_cons,
        List.isEmpty_cons, if_neg (by decide), ← List.map_cons, ← ih]
      simp [hcolon, hblank, hcomma]

theorem ofChars_compactMembers (members : List (String × Json)) :
    Utf8.ofChars (Json.compactMembers members) = textOf (members.map bare) := by
  have hcolon : String.utf8EncodeChar ':' = [0x3A] := by decide
  have hcomma : String.utf8EncodeChar ',' = [0x2C] := by decide
  induction members with
  | nil => rfl
  | cons member rest ih =>
    obtain ⟨name, value⟩ := member
    cases rest with
    | nil => simp [Json.compactMembers, textOf, text, bare, hcolon]
    | cons next rest =>
      rw [Json.compactMembers, List.map_cons, textOf_cons, textBehind, List.map_cons,
        List.isEmpty_cons, if_neg (by decide), ← List.map_cons, ← ih, text, bare]
      · simp [hcolon, hcomma]
      · exact List.cons_ne_nil next rest

end Member

namespace Json

/-- An object that is laid out is its members on lines of their own. -/
theorem ofChars_pretty (level : Nat) (member : String × Json) (members : List (String × Json)) :
    Utf8.ofChars (prettyAt level (.object (member :: members))) =
      0x7B :: (Member.textOf ((member :: members).map (Member.onLine (level + 1))) ++
        (Utf8.ofChars (indent level) ++ [0x7D])) := by
  have hopen : String.utf8EncodeChar '\x7b' = [0x7B] := by decide
  have hclose : String.utf8EncodeChar '\x7d' = [0x7D] := by decide
  rw [← Member.ofChars_prettyMembers]
  simp [prettyAt, hopen, hclose]

/-- An object without white space is its members without white space. -/
theorem ofChars_compact (members : List (String × Json)) :
    Utf8.ofChars (compact (.object members)) =
      0x7B :: (Member.textOf (members.map Member.bare) ++ ([] ++ [0x7D])) := by
  have hopen : String.utf8EncodeChar '\x7b' = [0x7B] := by decide
  have hclose : String.utf8EncodeChar '\x7d' = [0x7D] := by decide
  rw [← Member.ofChars_compactMembers]
  simp [compact, hopen, hclose]

end Json

namespace Reads

open JsonReader

variable {α β σ : Type} {b : β} {space text : Bytes}

-- ---------------------------------------------------------------------------
-- Single values
-- ---------------------------------------------------------------------------

theorem readText (expected : String) (s : String) (hs : IsSpace space) :
    Reads (JsonReader.readText expected) (space ++ Utf8.ofChars (Json.quoted s)) s := by
  obtain ⟨text, ht⟩ := Json.ofChars_quoted s
  have hread := Json.reads_quoted s
  rw [ht] at hread ⊢
  exact peekToken hs (by decide) hread

theorem readBool (x : Bool) (hs : IsSpace space) :
    Reads JsonReader.readBool (space ++ Utf8.ofChars (Json.boolText x)) x := by
  cases x with
  | false =>
    rw [show Utf8.ofChars (Json.boolText false) = 0x66 :: alse by decide]
    exact peekToken hs (by decide) (pass_bind _ (bind_pure (passWord alse) (pure _)))
  | true =>
    rw [show Utf8.ofChars (Json.boolText true) = 0x74 :: rue by decide]
    exact peekToken hs (by decide) (pass_bind _ (bind_pure (passWord rue) (pure _)))

/-- A string is read as a time if its text is. -/
theorem readTimestamp {s : String} {t : Timestamp} (h : Timestamp.read s = .ok t)
    (hs : IsSpace space) :
    Reads JsonReader.readTimestamp (space ++ Utf8.ofChars (Json.quoted s)) t := by
  refine bind_pure (readText _ s hs) ?_
  rw [h]
  exact pure t

theorem passColon : Reads JsonReader.passColon [0x3A] () :=
  peekToken_nil (by decide) (pass _)

-- ---------------------------------------------------------------------------
-- Records
-- ---------------------------------------------------------------------------

/-- What stands before the next member or item. -/
def lead (first : Bool) : Bytes := if first then [] else [0x2C]

theorem nextName_end {first : Bool} {follow : Option String → JsonReader β} (hs : IsSpace space)
    (h : Reads (follow none) (0x7D :: text) b) :
    Reads (nextName? first >>= follow) (space ++ 0x7D :: text) b := by
  rw [nextName?, bind_assoc]
  exact peekToken hs (by decide) h

theorem nextName_some {first : Bool} {follow : Option String → JsonReader β} {name : String}
    (hs : IsSpace space) (h : Reads (follow (some name)) text b) :
    Reads (nextName? first >>= follow)
      (lead first ++ (space ++ (Utf8.ofChars (Json.quoted name) ++ text))) b := by
  obtain ⟨tail, ht⟩ := Json.ofChars_quoted name
  have hread : Reads (readString >>= fun s => follow (some s))
      (Utf8.ofChars (Json.quoted name) ++ text) b := bind (Json.reads_quoted name) h
  rw [nextName?, bind_assoc]
  rw [ht, List.cons_append] at hread ⊢
  cases first with
  -- the first name comes at once, and each later one behind a comma
  | true =>
    refine peekToken hs (by decide) ?_
    simp only [show quote ≠ 0x7D by decide, if_false, if_true, bind_assoc, pure_bind]
    exact hread
  | false =>
    refine peekToken_nil (by decide) ?_
    simp only [show (0x2C : UInt8) ≠ 0x7D by decide, show comma = 0x2C from rfl, if_false, if_true,
      Bool.false_eq_true, bind_assoc]
    refine pass_bind _ (peekToken hs (by decide) ?_)
    simp only [show quote = 0x22 from rfl, bind_assoc, pure_bind]
    exact hread

/-- Members fill the slots of a record, from what has been read before them to
what has been read after them. -/
inductive Fills (slots : List (Slot σ)) : σ → List Member → σ → Prop
  | nil (read : σ) : Fills slots read [] read
  | cons {read next last : σ} {member : Member} {rest : List Member} {slot : Slot σ}
      (hslot : slots.find? (·.name == member.name) = some slot)
      (hfree : slot.isFilled read = false)
      (hread : Reads (slot.fill read) member.value next)
      (hrest : Fills slots next rest last) :
      Fills slots read (member :: rest) last

/-- Members that fill slots are read into them, up to the closing brace. -/
theorem readMembers {slots : List (Slot σ)} {fuel : Nat} {read last : σ}
    {members : List Member} (first : Bool) (follow : Except ShapeError σ → JsonReader β)
    (hm : Fills slots read members last) (hf : members.length < fuel) (hs : IsSpace space)
    (h : Reads (follow (.ok last)) (0x7D :: text) b) :
    Reads (JsonReader.readMembers slots fuel first read >>= follow)
      ((if first then Member.textOf members else Member.textBehind members) ++
        (space ++ 0x7D :: text)) b := by
  induction hm generalizing fuel first with
  | nil read =>
    obtain ⟨fuel, rfl⟩ : ∃ n, fuel = n + 1 := ⟨fuel - 1, by omega⟩
    have hnone : (if first then Member.textOf [] else Member.textBehind []) = [] := by
      cases first <;> rfl
    rw [hnone, List.nil_append, JsonReader.readMembers, bind_assoc]
    exact nextName_end hs (by rw [pure_bind]; exact h)
  | @cons read next last member rest slot hslot hfree hread hrest ih =>
    obtain ⟨fuel, rfl⟩ : ∃ n, fuel = n + 1 := ⟨fuel - 1, by omega⟩
    rw [List.length_cons] at hf
    -- the text, cut where the steps of the reader end
    have htext : (if first then Member.textOf (member :: rest)
          else Member.textBehind (member :: rest)) ++ (space ++ 0x7D :: text) =
        lead first ++ (member.before ++ (Utf8.ofChars (Json.quoted member.name) ++
          ([0x3A] ++ (member.value ++ (Member.textBehind rest ++ (space ++ 0x7D :: text)))))) := by
      cases first with
      | true => simp [lead, Member.textOf_cons, Member.text]
      | false =>
        rw [if_neg (by decide), Member.textBehind, List.isEmpty_cons, if_neg (by decide),
          Member.textOf_cons]
        simp [lead, Member.text]
    rw [htext, JsonReader.readMembers, bind_assoc]
    refine nextName_some member.isSpace_before ?_
    simp only [hslot, hfree, Bool.false_eq_true, if_false, bind_assoc]
    refine bind passColon (bind hread ?_)
    have hbehind := ih false (Nat.lt_of_succ_lt_succ hf) h
    rwa [if_neg (by decide)] at hbehind

/-- A record is read when its members fill its slots and none is missing. -/
theorem readRecord {slots : List (Slot σ)} {what : String} {empty last : σ}
    {members : List Member} (hm : Fills slots empty members last)
    (hmissing : missing? slots last = none) (hs : IsSpace space) :
    Reads (JsonReader.readRecord what slots empty)
      (0x7B :: (Member.textOf members ++ (space ++ [0x7D]))) last := by
  rw [JsonReader.readRecord]
  refine peekToken_nil (by decide) (pass_bind _ (steps fun fuel hf => ?_))
  have hlong : members.length < fuel := by
    have hmembers := Member.length_le_textOf members
    rw [List.length_append] at hf
    omega
  refine readMembers true _ hm hlong hs ?_
  simp only [hmissing, finish]
  exact bind_pure (peekToken_nil (by decide) (pass 0x7D)) (pure last)

-- ---------------------------------------------------------------------------
-- Lists
-- ---------------------------------------------------------------------------

theorem nextItem_end {first : Bool} {follow : Bool → JsonReader β} (hs : IsSpace space)
    (h : Reads (follow false) (0x5D :: text) b) :
    Reads (nextItem first >>= follow) (space ++ 0x5D :: text) b := by
  rw [nextItem, bind_assoc]
  exact peekToken hs (by decide) h

theorem nextItem_some {first : Bool} {follow : Bool → JsonReader β} {x : UInt8}
    (hs : IsSpace space) (hx : Cursor.isSpace x = false) (hx' : x ≠ 0x5D)
    (h : Reads (follow true) (x :: text) b) :
    Reads (nextItem first >>= follow) (lead first ++ (space ++ x :: text)) b := by
  rw [nextItem, bind_assoc]
  cases first with
  | true =>
    -- the first item comes at once, and each later one behind a comma
    refine peekToken hs hx ?_
    simp only [hx', if_false, if_true, pure_bind]
    exact h
  | false =>
    refine peekToken_nil (by decide) ?_
    simp only [show (0x2C : UInt8) ≠ 0x5D by decide, show comma = 0x2C from rfl, if_false, if_true,
      Bool.false_eq_true, bind_assoc]
    refine pass_bind _ (peekToken hs hx ?_)
    split
    · rename_i heq
      exact absurd (Option.some.inj heq) hx'
    · rw [pure_bind]
      exact h
    · rename_i heq
      exact absurd heq (by simp)

/-- An item that is read back, and that the reader of a list does not take for
the end of the list. -/
structure ReadsItem {α : Type} (reader : JsonReader α) (level : Nat) (item : Json) (a : α) :
    Prop where
  reads : Reads reader (Utf8.ofChars (Json.prettyAt level item)) a
  head : ∃ x text, Utf8.ofChars (Json.prettyAt level item) = x :: text ∧
    Cursor.isSpace x = false ∧ x ≠ 0x5D

/-- Items that are read back one by one are read as a list, up to the closing
bracket. -/
theorem readItems {reader : JsonReader α} {level fuel : Nat} {values : List (Json × α)}
    (done : List α) (follow : List α → JsonReader β)
    (hi : ∀ v ∈ values, ReadsItem reader level v.1 v.2) (hf : values.length < fuel)
    (hs : IsSpace space)
    (h : Reads (follow (done.reverse ++ values.map Prod.snd)) (0x5D :: text) b) :
    Reads (JsonReader.readItems reader fuel done >>= follow)
      (Utf8.ofChars (if done.isEmpty then Json.prettyItems level (values.map Prod.fst)
        else Json.itemsBehind level (values.map Prod.fst)) ++ (space ++ 0x5D :: text)) b := by
  induction values generalizing fuel done with
  | nil =>
    obtain ⟨fuel, rfl⟩ : ∃ n, fuel = n + 1 := ⟨fuel - 1, by omega⟩
    have hnone : (if done.isEmpty then Json.prettyItems level (([] : List (Json × α)).map Prod.fst)
        else Json.itemsBehind level (([] : List (Json × α)).map Prod.fst)) = [] := by
      cases done.isEmpty <;> simp [Json.prettyItems, Json.itemsBehind]
    rw [List.map_nil, List.append_nil] at h
    rw [hnone, Utf8.ofChars_nil, List.nil_append, JsonReader.readItems, bind_assoc]
    refine nextItem_end hs ?_
    simp only [Bool.false_eq_true, if_false, pure_bind]
    exact h
  | cons value values ih =>
    obtain ⟨fuel, rfl⟩ : ∃ n, fuel = n + 1 := ⟨fuel - 1, by omega⟩
    obtain ⟨item, a⟩ := value
    obtain ⟨hread, x, tail, htail, hx, hx'⟩ := hi (item, a) List.mem_cons_self
    rw [List.length_cons] at hf
    -- the text, cut where the steps of the reader end
    have htext : Utf8.ofChars (if done.isEmpty
          then Json.prettyItems level (((item, a) :: values).map Prod.fst)
          else Json.itemsBehind level (((item, a) :: values).map Prod.fst)) ++
            (space ++ 0x5D :: text) =
        lead done.isEmpty ++ (Utf8.ofChars (Json.indent level) ++
          (Utf8.ofChars (Json.prettyAt level item) ++
            (Utf8.ofChars (Json.itemsBehind level (values.map Prod.fst)) ++
              (space ++ 0x5D :: text)))) := by
      have hcomma : String.utf8EncodeChar ',' = [0x2C] := by decide
      cases done.isEmpty with
      | true =>
        rw [if_pos rfl, List.map_cons, Json.prettyItems_cons]
        simp [lead]
      | false =>
        rw [if_neg (by decide), List.map_cons, Json.itemsBehind, List.isEmpty_cons,
          if_neg (by decide), Json.prettyItems_cons]
        simp [lead, hcomma]
    have hlast : Reads (follow ((a :: done).reverse ++ values.map Prod.snd)) (0x5D :: text) b := by
      rw [List.reverse_cons, List.append_assoc]
      exact h
    have hbehind := ih (a :: done) (fun v hv => hi v (List.mem_cons_of_mem _ hv))
      (Nat.lt_of_succ_lt_succ hf) hlast
    rw [List.isEmpty_cons, if_neg (by decide)] at hbehind
    have hitem : Reads (reader >>= fun a => JsonReader.readItems reader fuel (a :: done) >>= follow)
        _ b := bind hread hbehind
    rw [htext, JsonReader.readItems, bind_assoc]
    -- the reader of lists looks at the first byte of the item before it reads it
    rw [htail, List.cons_append] at hitem ⊢
    refine nextItem_some (Json.isSpace_indent level) hx hx' ?_
    simp only [if_true, bind_assoc]
    exact hitem

/-- A list is read when each of its items is. -/
theorem readList {reader : JsonReader α} {level : Nat} {values : List (Json × α)}
    (hi : ∀ v ∈ values, ReadsItem reader (level + 1) v.1 v.2) :
    Reads (JsonReader.readList reader)
      (Utf8.ofChars (Json.prettyAt level (.array (values.map Prod.fst))))
      (values.map Prod.snd) := by
  have hopen : String.utf8EncodeChar '[' = [0x5B] := by decide
  have hclose : String.utf8EncodeChar ']' = [0x5D] := by decide
  -- an empty list has no line of its own for its closing bracket
  obtain ⟨space, hs, htext⟩ : ∃ space, IsSpace space ∧
      Utf8.ofChars (Json.prettyAt level (.array (values.map Prod.fst))) =
        0x5B :: (Utf8.ofChars (Json.prettyItems (level + 1) (values.map Prod.fst)) ++
          (space ++ 0x5D :: [])) := by
    cases values with
    | nil => exact ⟨[], IsSpace.nil, by simp [Json.prettyAt, Json.prettyItems, hopen, hclose]⟩
    | cons value values =>
      exact ⟨_, Json.isSpace_indent level, by simp [Json.prettyAt, hopen, hclose]⟩
  rw [htext, JsonReader.readList]
  refine peekToken_nil (by decide) (pass_bind _ (steps fun fuel hf => ?_))
  have hlong : values.length < fuel := by
    have hitems := Json.length_le_prettyItems (level + 1) (values.map Prod.fst)
    have hbytes := Utf8.length_le_ofChars (Json.prettyItems (level + 1) (values.map Prod.fst))
    rw [List.length_map] at hitems
    rw [List.length_append] at hf
    omega
  have hread := readItems []
    (fun items => do
      endArray
      Pure.pure items)
    hi hlong hs (bind_pure (peekToken_nil (by decide) (pass 0x5D)) (pure _))
  rwa [List.isEmpty_nil, if_pos rfl] at hread

end Reads

end Flagpost
