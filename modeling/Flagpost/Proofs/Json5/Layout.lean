import Flagpost.Proofs.Json.Layout
import Flagpost.Proofs.Json5.Atoms
import Flagpost.Proofs.Json5.Reals

/-!
# Flagpost — documents that were laid out are read by the reader of JSON5

A document as the printer lays it out is JSON5, and it means itself, with the
members of its objects in the order of their names (`Json.normal`): the reader keeps
no other order. The condition is `Json.Legible`: texts that can stand in a string as
they are written, whole numbers that fit, and other numbers of the format.

The reader stops behind a value without a look at what follows, but for numbers,
which go on as far as they can. So what is read of a value is stated together with
what may follow it, the end of its line (`Denotes`); the two loops are stated from
behind the bracket that opens them.

* `readItems_laid`, `readMembers_laid` — the loops;
* `denotes_prettyAt` — values at any depth;
* `Json.ofJson5_pretty` — documents.
-/

namespace Flagpost

-- ---------------------------------------------------------------------------
-- Normal form
-- ---------------------------------------------------------------------------

namespace Json

mutual

/-- The value with the members of its objects in the order of their names. -/
def normal : Json → Json
  | .array items => .array (normalItems items)
  | .object members => .object (sorted (normalMembers members))
  | other => other

/-- The items in normal form. -/
def normalItems : List Json → List Json
  | [] => []
  | item :: rest => normal item :: normalItems rest

/-- The values of the members in normal form. -/
def normalMembers : List (String × Json) → List (String × Json)
  | [] => []
  | (name, value) :: rest => (name, normal value) :: normalMembers rest

end

theorem normalItems_eq (items : List Json) : normalItems items = items.map normal := by
  induction items with
  | nil => rfl
  | cons item rest ih => rw [normalItems, ih, List.map_cons]

theorem normalMembers_eq (members : List (String × Json)) :
    normalMembers members = members.map fun m => (m.1, normal m.2) := by
  induction members with
  | nil => rfl
  | cons member rest ih => rw [normalMembers, ih, List.map_cons]

/-- A value that the reader of JSON5 reads back from its layout. -/
inductive Legible : Json → Prop
  | null : Legible .null
  | bool (b : Bool) : Legible (.bool b)
  | whole {n : Int} (hfits : Json5.FitsWhole n) : Legible (.number (.whole n))
  | real {x : Binary64} (hsound : x.Sound) : Legible (.number (.real x))
  | string {s : String} (htext : Json5.LegibleText s) : Legible (.string s)
  | array {items : List Json} (hitems : ∀ item ∈ items, Legible item) : Legible (.array items)
  | object {members : List (String × Json)} (hnames : ∀ m ∈ members, Json5.LegibleText m.1)
      (hvalues : ∀ m ∈ members, Legible m.2) : Legible (.object members)

end Json

namespace Json5

variable {c : Char} {level fuel : Nat} {tail text rest : List Char} {value : Json}

-- ---------------------------------------------------------------------------
-- Gaps
-- ---------------------------------------------------------------------------

/-- A character that neither is skipped nor begins what is skipped. -/
def Stands (c : Char) : Prop := isSpace c = false ∧ c ≠ '/'

instance (c : Char) : Decidable (Stands c) :=
  inferInstanceAs (Decidable (isSpace c = false ∧ c ≠ '/'))

theorem next_cons (hc : c ≠ '/') :
    next (c :: tail) = if isSpace c then next tail else c :: tail := by
  rw [next, next, skip.eq_def]
  split
  · rename_i heq
    cases heq
    exact absurd rfl hc
  · rename_i heq
    cases heq
    exact absurd rfl hc
  · rename_i heq
    cases heq
    rfl
  -- the other equations are about comments
  all_goals simp_all

theorem next_of_stands (h : Stands c) : next (c :: tail) = c :: tail := by
  rw [next_cons h.2, if_neg (Bool.eq_false_iff.1 h.1)]

theorem next_of_space (h : isSpace c = true) (hc : c ≠ '/') : next (c :: tail) = next tail := by
  rw [next_cons hc, if_pos h]

theorem next_indent (level : Nat) (text : List Char) :
    next (Json.indent level ++ text) = next text := by
  have hspaces : ∀ n, next (List.replicate n ' ' ++ text) = next text := by
    intro n
    induction n with
    | zero => rfl
    | succ n ih => rw [List.replicate_succ, List.cons_append, next_of_space rfl (by decide), ih]
  rw [Json.indent, List.cons_append, next_of_space rfl (by decide), hspaces]

-- ---------------------------------------------------------------------------
-- Values
-- ---------------------------------------------------------------------------

/-- A character that a value can begin with. -/
def Begins (c : Char) : Prop := Stands c ∧ c ≠ ']' ∧ c ≠ '\x7d'

instance (c : Char) : Decidable (Begins c) :=
  inferInstanceAs (Decidable (Stands c ∧ c ≠ ']' ∧ c ≠ '\x7d'))

theorem begins_of_isDigit (h : c.isDigit = true) : Begins c := by
  have hall : ∀ n < 58, 48 ≤ n → Begins (Char.ofNat n) := by decide
  obtain ⟨hlow, hhigh⟩ : 48 ≤ c.toNat ∧ c.toNat ≤ 57 := by
    simpa [Char.isDigit, Char.le_def, UInt32.le_iff_toNat_le] using h
  rw [← Char.ofNat_toNat c]
  exact hall c.toNat (by omega) hlow

/-- A text that begins as a value does. -/
def BeginsValue (text : List Char) : Prop := ∃ c tail, text = c :: tail ∧ Begins c

/-- Behind the white space before a value the value begins. -/
theorem BeginsValue.next (h : BeginsValue text) (rest : List Char) :
    Json5.next (text ++ rest) = text ++ rest := by
  obtain ⟨c, tail, rfl, hc⟩ := h
  exact next_of_stands hc.1

/-- A text is read as a document that means the value, if what follows is the end of
a line. -/
structure Denotes (text : List Char) (value : Json) : Prop where
  reads : ∀ {fuel : Nat} {rest : List Char}, text.length < fuel → EndsValue rest →
    ∃ document, readValue fuel (text ++ rest) = some (document, rest) ∧
      document.meaning = .ok value
  head : BeginsValue text

theorem readValue_simple (harray : c ≠ '[') (hobject : c ≠ '\x7b') :
    readValue (fuel + 1) (c :: tail) = readSimple (c :: tail) := by
  rw [readValue.eq_def]
  dsimp only
  split
  · rename_i heq
    cases heq
    exact absurd rfl harray
  · rename_i heq
    cases heq
    exact absurd rfl hobject
  · rfl

theorem denotes_null : Denotes "null".toList .null where
  reads {fuel rest} hf _ := by
    obtain ⟨fuel, rfl⟩ : ∃ n, fuel = n + 1 := ⟨fuel - 1, by omega⟩
    exact ⟨.null, readValue_simple (by decide) (by decide), rfl⟩
  head := ⟨'n', _, rfl, by decide⟩

theorem denotes_bool (b : Bool) : Denotes (Json.boolText b) (.bool b) where
  reads {fuel rest} hf _ := by
    obtain ⟨fuel, rfl⟩ : ∃ n, fuel = n + 1 := ⟨fuel - 1, by omega⟩
    cases b with
    | false => exact ⟨.bool false, readValue_simple (by decide) (by decide), rfl⟩
    | true => exact ⟨.bool true, readValue_simple (by decide) (by decide), rfl⟩
  head := by
    cases b with
    | false => exact ⟨'f', _, rfl, by decide⟩
    | true => exact ⟨'t', _, rfl, by decide⟩

theorem isQuoted_mark (text : List Char) : isQuoted ('"' :: text) = true := rfl

theorem denotes_string {s : String} (h : LegibleText s) : Denotes (Json.quoted s) (.string s) where
  reads {fuel rest} hf _ := by
    obtain ⟨fuel, rfl⟩ : ∃ n, fuel = n + 1 := ⟨fuel - 1, by omega⟩
    obtain ⟨pieces, hread, hmeans⟩ := readQuoted?_quoted h rest
    refine ⟨.string pieces, ?_, ?_⟩
    · rw [Json.quoted, List.cons_append, List.cons_append] at hread ⊢
      rw [readValue_simple (by decide) (by decide), readSimple, if_pos (isQuoted_mark _), hread]
      rfl
    · rw [meaning, hmeans]
      rfl
  head := ⟨'"', _, rfl, by decide⟩

/-- A text that is read as a number means the value of the number. -/
theorem denotes_number (hhead : ∃ c tail, text = c :: tail ∧ (c = '-' ∨ c.isDigit = true))
    (hread : ∀ {rest : List Char}, EndsValue rest →
      readSimple (text ++ rest) = some (.number text, rest))
    (hvalue : numberValue text = .ok value) : Denotes text value where
  reads {fuel rest} hf hrest := by
    obtain ⟨fuel, rfl⟩ : ∃ n, fuel = n + 1 := ⟨fuel - 1, by omega⟩
    have hread := hread hrest
    refine ⟨.number text, ?_, hvalue⟩
    obtain ⟨c, tail, rfl, hc⟩ := hhead
    -- a number begins neither an array nor an object
    have hne : c ≠ '[' ∧ c ≠ '\x7b' := by
      rcases hc with rfl | hc
      · decide
      · constructor <;> rintro rfl <;> cases hc
    rw [List.cons_append] at hread ⊢
    rw [readValue_simple hne.1 hne.2, hread]
  head := by
    obtain ⟨c, tail, htext, hc⟩ := hhead
    refine ⟨c, tail, htext, ?_⟩
    rcases hc with rfl | hc
    · decide
    · exact begins_of_isDigit hc

theorem denotes_whole {n : Int} (h : FitsWhole n) :
    Denotes (Decimal.ofInt n) (.number (.whole n)) :=
  denotes_number (ofInt_head n) (fun hrest => readSimple_ofInt hrest n) (numberValue_ofInt h)

theorem denotes_real {x : Binary64} (hx : x.Sound) :
    Denotes (Shortest.text x) (.number (.real x)) :=
  denotes_number (Shortest.text_head hx) (fun hrest => Shortest.readSimple_real hx hrest)
    (Shortest.numberValue_real hx)

theorem denotes_empty_array : Denotes ['[', ']'] (.array []) where
  reads {fuel rest} hf _ := by
    obtain ⟨fuel, rfl⟩ : ∃ n, fuel = n + 1 := ⟨fuel - 1, by omega⟩
    exact ⟨.array [], rfl, rfl⟩
  head := ⟨'[', _, rfl, by decide⟩

theorem denotes_empty_object : Denotes ['\x7b', '\x7d'] (.object []) where
  reads {fuel rest} hf _ := by
    obtain ⟨fuel, rfl⟩ : ∃ n, fuel = n + 1 := ⟨fuel - 1, by omega⟩
    exact ⟨.object [], rfl, rfl⟩
  head := ⟨'\x7b', _, rfl, by decide⟩

-- ---------------------------------------------------------------------------
-- Arrays
-- ---------------------------------------------------------------------------

theorem endsValue_indent (level : Nat) (text : List Char) : EndsValue (Json.indent level ++ text) :=
  ⟨'\n', _, rfl, .inr rfl⟩

theorem endsValue_comma (text : List Char) : EndsValue (',' :: text) := ⟨',', text, rfl, .inl rfl⟩

theorem length_prettyItems_cons (level : Nat) (item : Json) (items : List Json) :
    (Json.prettyAt level item).length < (Json.prettyItems level (item :: items)).length ∧
      (items ≠ [] → (Json.prettyItems level items).length <
        (Json.prettyItems level (item :: items)).length) := by
  rw [Json.prettyItems_cons]
  constructor
  · simp only [List.length_append, Json.indent, List.length_cons]
    omega
  · intro hne
    rw [Json.itemsBehind, if_neg (by simpa using hne)]
    simp only [List.length_append, Json.indent, List.length_cons]
    omega

theorem readItems_last {item : Json5} {done : List Json5} {behind : List Char}
    (hread : readValue fuel text = some (item, rest)) (hnext : next rest = ']' :: behind) :
    readItems (fuel + 1) done text = some ((item :: done).reverse, behind) := by
  simp only [readItems, hread, hnext]

theorem readItems_more {item : Json5} {done : List Json5} {behind : List Char}
    (hread : readValue fuel text = some (item, rest)) (hnext : next rest = ',' :: behind)
    (hitem : next behind = c :: tail) (hc : c ≠ ']') :
    readItems (fuel + 1) done text = readItems fuel (item :: done) (next behind) := by
  simp only [readItems, hread, hnext, hitem]
  split
  · rename_i heq
    cases heq
    exact absurd rfl hc
  · rfl

/-- Behind the white space before items the first of them begins. -/
theorem next_items {item : Json} (h : BeginsValue (Json.prettyAt level item))
    (items : List Json) (text : List Char) :
    next (Json.prettyItems level (item :: items) ++ text) =
      Json.prettyAt level item ++ (Json.itemsBehind level items ++ text) := by
  rw [Json.prettyItems_cons, List.append_assoc, next_indent, List.append_assoc, h.next]

/-- Of items that were laid out the first is read, and then those behind the comma. -/
theorem readItems_step {item later : Json} {items : List Json}
    (hitem : Denotes (Json.prettyAt level item) item.normal)
    (hlater : BeginsValue (Json.prettyAt level later))
    (hf : (Json.prettyAt level item).length < fuel) (text : List Char) (done : List Json5) :
    ∃ document, document.meaning = .ok item.normal ∧
      readItems (fuel + 1) done (next (Json.prettyItems level (item :: later :: items) ++ text)) =
        readItems fuel (document :: done)
          (next (Json.prettyItems level (later :: items) ++ text)) := by
  have hbehind : Json.itemsBehind level (later :: items) ++ text =
      ',' :: (Json.prettyItems level (later :: items) ++ text) := rfl
  obtain ⟨document, hread, hmeans⟩ :=
    hitem.reads hf (endsValue_comma (Json.prettyItems level (later :: items) ++ text))
  have hbegin := next_items hlater items text
  obtain ⟨c, tail, htext, hc⟩ := hlater
  rw [htext, List.cons_append] at hbegin
  refine ⟨document, hmeans, ?_⟩
  rw [next_items hitem.head, hbehind, readItems_more hread (next_of_stands (by decide)) hbegin hc.2.1]

/-- Items that were laid out are read up to the closing bracket. -/
theorem readItems_laid {items : List Json} (outer : Nat) (rest : List Char) (hne : items ≠ [])
    (hitems : ∀ item ∈ items, Denotes (Json.prettyAt level item) item.normal)
    (hf : (Json.prettyItems level items).length < fuel) (done : List Json5) :
    ∃ documents, readItems fuel done
        (next (Json.prettyItems level items ++ (Json.indent outer ++ ']' :: rest))) =
          some (done.reverse ++ documents, rest) ∧
      meanings documents = .ok (items.map Json.normal) := by
  induction items generalizing fuel done with
  | nil => exact absurd rfl hne
  | cons item items ih =>
    -- the fuel is what the laid out text is long, and one reading takes one of it
    obtain ⟨fuel, rfl⟩ : ∃ n, fuel = n + 1 := ⟨fuel - 1, by omega⟩
    obtain ⟨hitem, hrest⟩ := List.forall_mem_cons.1 hitems
    obtain ⟨hlong, hlater⟩ := length_prettyItems_cons level item items
    have hfuel : (Json.prettyAt level item).length < fuel := by omega
    cases items with
    | nil =>
      -- the last item: behind it is only the indented bracket
      obtain ⟨document, hread, hmeans⟩ :=
        hitem.reads hfuel (endsValue_indent outer (']' :: rest))
      have hclose : next (Json.indent outer ++ ']' :: rest) = ']' :: rest := by
        rw [next_indent, next_of_stands (by decide)]
      refine ⟨[document], ?_, ?_⟩
      · rw [next_items hitem.head, ← List.reverse_cons]
        exact readItems_last hread hclose
      · rw [meanings, hmeans]
        rfl
    | cons later items =>
      -- another one follows, behind a comma
      obtain ⟨document, hmeans, hstep⟩ :=
        readItems_step hitem (hrest later List.mem_cons_self).head hfuel
          (Json.indent outer ++ ']' :: rest) done
      have hmore := hlater (List.cons_ne_nil _ _)
      have hfuel' : (Json.prettyItems level (later :: items)).length < fuel := by omega
      obtain ⟨documents, hreads, hall⟩ :=
        ih (List.cons_ne_nil _ _) hrest hfuel' (document :: done)
      refine ⟨document :: documents, ?_, ?_⟩
      · rw [hstep, hreads, List.reverse_cons, List.append_assoc]
        rfl
      · rw [meanings, hmeans, hall]
        rfl

/-- Where items follow a bracket, they are read. -/
theorem readValue_array {item : Json} {items : List Json}
    (h : BeginsValue (Json.prettyAt level item)) :
    readValue (fuel + 1) ('[' :: (Json.prettyItems level (item :: items) ++ text)) =
      (readItems fuel [] (next (Json.prettyItems level (item :: items) ++ text))).map
        fun (items, rest) => (.array items, rest) := by
  have hnext := next_items h items text
  obtain ⟨c, tail, htext, hc⟩ := h
  rw [htext, List.cons_append] at hnext
  rw [readValue]
  rw [hnext]
  split
  · rename_i heq
    cases heq
    exact absurd rfl hc.2.1
  · rfl

/-- Items in brackets that were laid out denote the array of what the items denote. -/
theorem denotes_array {items : List Json} (hne : items ≠ [])
    (hitems : ∀ item ∈ items, Denotes (Json.prettyAt (level + 1) item) item.normal) :
    Denotes ('[' :: Json.prettyItems (level + 1) items ++ Json.indent level ++ [']'])
      (.array (items.map Json.normal)) where
  reads {fuel rest} hf hrest := by
    obtain ⟨fuel, rfl⟩ : ∃ n, fuel = n + 1 := ⟨fuel - 1, by omega⟩
    -- the text of the items is shorter than that with the brackets
    have hlong : (Json.prettyItems (level + 1) items).length < fuel := by
      simp only [List.length_append, List.length_cons] at hf
      omega
    obtain ⟨documents, hreads, hall⟩ :=
      readItems_laid level rest hne hitems hlong []
    obtain ⟨item, later, rfl⟩ := List.exists_cons_of_ne_nil hne
    have hitem := hitems item List.mem_cons_self
    refine ⟨.array documents, ?_, ?_⟩
    · rw [List.append_assoc, List.append_assoc, List.cons_append, List.singleton_append,
        readValue_array hitem.head, hreads]
      rfl
    · rw [meaning, hall]
      rfl
  head := ⟨'[', _, rfl, by decide⟩

-- ---------------------------------------------------------------------------
-- Objects
-- ---------------------------------------------------------------------------

theorem readName_quoted {s : String} (h : LegibleText s) (rest : List Char) :
    ∃ pieces, readName (Json.quoted s ++ rest) = some (pieces, rest) ∧ textOf pieces = .ok s := by
  obtain ⟨pieces, hread, hmeans⟩ := readQuoted?_quoted h rest
  have hquoted : isQuoted (Json.quoted s ++ rest) = true := isQuoted_mark _
  exact ⟨pieces, by rw [readName, if_pos hquoted, hread], hmeans⟩

theorem length_prettyMembers_cons (level : Nat) (name : String) (value : Json)
    (members : List (String × Json)) :
    (Json.prettyAt level value).length <
        (Json.prettyMembers level ((name, value) :: members)).length ∧
      (members ≠ [] → (Json.prettyMembers level members).length <
        (Json.prettyMembers level ((name, value) :: members)).length) := by
  rw [Json.prettyMembers_cons]
  constructor
  · simp only [List.length_append, Json.indent, List.length_cons]
    omega
  · intro hne
    rw [Json.membersBehind, if_neg (by simpa using hne)]
    simp only [List.length_append, Json.indent, List.length_cons]
    omega

section Member

variable {name : List StringPiece} {document : Json5} {done : List (List StringPiece × Json5)}
  {after behind : List Char}

theorem readMembers_last (hname : readName text = some (name, rest))
    (hcolon : next rest = ':' :: after)
    (hread : readValue fuel (next after) = some (document, behind))
    (hnext : next behind = '\x7d' :: tail) :
    readMembers (fuel + 1) done text = some (((name, document) :: done).reverse, tail) := by
  simp only [readMembers, hname, hcolon, hread, hnext]

theorem readMembers_more {later : List Char} (hname : readName text = some (name, rest))
    (hcolon : next rest = ':' :: after)
    (hread : readValue fuel (next after) = some (document, behind))
    (hnext : next behind = ',' :: later) (hmember : next later = c :: tail) (hc : c ≠ '\x7d') :
    readMembers (fuel + 1) done text =
      readMembers fuel ((name, document) :: done) (next later) := by
  simp only [readMembers, hname, hcolon, hread, hnext, hmember]
  split
  · rename_i heq
    cases heq
    exact absurd rfl hc
  · rfl

end Member

/-- Behind the white space before members the name of the first of them begins. -/
theorem next_members (level : Nat) (name : String) (value : Json) (members : List (String × Json))
    (text : List Char) :
    next (Json.prettyMembers level ((name, value) :: members) ++ text) =
      Json.quoted name ++ (':' :: ' ' :: (Json.prettyAt level value ++
        (Json.membersBehind level members ++ text))) := by
  rw [Json.prettyMembers_cons]
  simp only [List.append_assoc, List.cons_append]
  rw [next_indent, Json.quoted, List.cons_append, List.cons_append, next_of_stands (by decide)]

/-- A member that was laid out is read up to the end of its value. -/
theorem read_member {name : String} {behind : List Char} (hname : LegibleText name)
    (hvalue : Denotes text value) (hf : text.length < fuel) (hends : EndsValue behind) :
    ∃ pieces document,
      readName (Json.quoted name ++ ':' :: ' ' :: (text ++ behind)) =
        some (pieces, ':' :: ' ' :: (text ++ behind)) ∧
      readValue fuel (next (' ' :: (text ++ behind))) = some (document, behind) ∧
      textOf pieces = .ok name ∧ document.meaning = .ok value := by
  obtain ⟨pieces, hpieces, htext⟩ := readName_quoted hname (':' :: ' ' :: (text ++ behind))
  obtain ⟨document, hread, hmeans⟩ := hvalue.reads hf hends
  refine ⟨pieces, document, hpieces, ?_, htext, hmeans⟩
  rw [next_of_space rfl (by decide), hvalue.head.next, hread]

/-- A colon stands behind a name. -/
theorem next_colon (text : List Char) : next (':' :: text) = ':' :: text :=
  next_of_stands (by decide)

/-- Of members that were laid out the first is read, and then those behind the comma. -/
theorem readMembers_step {name : String} {value : Json} {later : String × Json}
    {members : List (String × Json)} (hname : LegibleText name)
    (hvalue : Denotes (Json.prettyAt level value) value.normal)
    (hf : (Json.prettyAt level value).length < fuel) (text : List Char)
    (done : List (List StringPiece × Json5)) :
    ∃ pieces document, textOf pieces = .ok name ∧ document.meaning = .ok value.normal ∧
      readMembers (fuel + 1) done
          (next (Json.prettyMembers level ((name, value) :: later :: members) ++ text)) =
        readMembers fuel ((pieces, document) :: done)
          (next (Json.prettyMembers level (later :: members) ++ text)) := by
  obtain ⟨laterName, laterValue⟩ := later
  -- what stands behind the comma
  let others := Json.prettyMembers level ((laterName, laterValue) :: members) ++ text
  obtain ⟨pieces, document, hpieces, hread, htext, hmeans⟩ :=
    read_member hname hvalue hf (endsValue_comma others)
  have hbegin := next_members level laterName laterValue members text
  rw [Json.quoted, List.cons_append, List.cons_append] at hbegin
  refine ⟨pieces, document, htext, hmeans, ?_⟩
  rw [next_members]
  exact readMembers_more hpieces (next_colon _) hread (next_of_stands (by decide)) hbegin (by decide)

/-- Members that were laid out are read up to the closing brace. -/
theorem readMembers_laid {members : List (String × Json)} (outer : Nat) (rest : List Char)
    (hne : members ≠ []) (hnames : ∀ m ∈ members, LegibleText m.1)
    (hvalues : ∀ m ∈ members, Denotes (Json.prettyAt level m.2) m.2.normal)
    (hf : (Json.prettyMembers level members).length < fuel)
    (done : List (List StringPiece × Json5)) :
    ∃ documents, readMembers fuel done
        (next (Json.prettyMembers level members ++ (Json.indent outer ++ '\x7d' :: rest))) =
          some (done.reverse ++ documents, rest) ∧
      memberMeanings documents = .ok (members.map fun m => (m.1, m.2.normal)) := by
  induction members generalizing fuel done with
  | nil => exact absurd rfl hne
  | cons member members ih =>
    obtain ⟨name, value⟩ := member
    -- the fuel is what the laid out text is long, and one reading takes one of it
    obtain ⟨fuel, rfl⟩ : ∃ n, fuel = n + 1 := ⟨fuel - 1, by omega⟩
    obtain ⟨hname, hnames⟩ := List.forall_mem_cons.1 hnames
    obtain ⟨hvalue, hvalues⟩ : Denotes (Json.prettyAt level value) value.normal ∧
      ∀ m ∈ members, Denotes (Json.prettyAt level m.2) m.2.normal := List.forall_mem_cons.1 hvalues
    obtain ⟨hlong, hlater⟩ := length_prettyMembers_cons level name value members
    have hfuel : (Json.prettyAt level value).length < fuel := by omega
    cases members with
    | nil =>
      -- the last member: behind it is only the indented brace
      obtain ⟨pieces, document, hpieces, hread, htext, hmeans⟩ :=
        read_member hname hvalue hfuel (endsValue_indent outer ('\x7d' :: rest))
      have hclose : next (Json.indent outer ++ '\x7d' :: rest) = '\x7d' :: rest := by
        rw [next_indent, next_of_stands (by decide)]
      refine ⟨[(pieces, document)], ?_, ?_⟩
      · rw [next_members, ← List.reverse_cons]
        exact readMembers_last hpieces (next_colon _) hread hclose
      · rw [memberMeanings, htext, hmeans]
        rfl
    | cons later members =>
      -- another one follows, behind a comma
      obtain ⟨pieces, document, htext, hmeans, hstep⟩ :=
        readMembers_step hname hvalue hfuel (Json.indent outer ++ '\x7d' :: rest) done
      have hmore := hlater (List.cons_ne_nil _ _)
      have hfuel' : (Json.prettyMembers level (later :: members)).length < fuel := by omega
      obtain ⟨documents, hreads, hall⟩ :=
        ih (List.cons_ne_nil _ _) hnames hvalues hfuel' ((pieces, document) :: done)
      refine ⟨(pieces, document) :: documents, ?_, ?_⟩
      · refine hstep.trans (hreads.trans ?_)
        rw [List.reverse_cons, List.append_assoc]
        rfl
      · rw [memberMeanings, htext, hmeans, hall]
        rfl

/-- Where members follow a brace, they are read. -/
theorem readValue_object {member : String × Json} {members : List (String × Json)} :
    readValue (fuel + 1) ('\x7b' :: (Json.prettyMembers level (member :: members) ++ text)) =
      (readMembers fuel [] (next (Json.prettyMembers level (member :: members) ++ text))).map
        fun (members, rest) => (.object members, rest) := by
  have hnext := next_members level member.1 member.2 members text
  rw [Json.quoted, List.cons_append, List.cons_append] at hnext
  rw [readValue]
  rw [hnext]
  split
  · rename_i heq
    cases heq
  · rfl

/-- Members in braces that were laid out denote the object of what their values denote,
in the order of their names. -/
theorem denotes_object {members : List (String × Json)} (hne : members ≠ [])
    (hnames : ∀ m ∈ members, LegibleText m.1)
    (hvalues : ∀ m ∈ members, Denotes (Json.prettyAt (level + 1) m.2) m.2.normal) :
    Denotes ('\x7b' :: Json.prettyMembers (level + 1) members ++ Json.indent level ++ ['\x7d'])
      (.object (Json.sorted (members.map fun m => (m.1, m.2.normal)))) where
  reads {fuel rest} hf hrest := by
    obtain ⟨fuel, rfl⟩ : ∃ n, fuel = n + 1 := ⟨fuel - 1, by omega⟩
    -- the text of the members is shorter than that with the braces
    have hlong : (Json.prettyMembers (level + 1) members).length < fuel := by
      simp only [List.length_append, List.length_cons] at hf
      omega
    obtain ⟨documents, hreads, hall⟩ :=
      readMembers_laid level rest hne hnames hvalues hlong []
    obtain ⟨member, later, rfl⟩ := List.exists_cons_of_ne_nil hne
    refine ⟨.object documents, ?_, ?_⟩
    · rw [List.append_assoc, List.append_assoc, List.cons_append, List.singleton_append,
        readValue_object, hreads]
      rfl
    · rw [meaning, hall]
      rfl
  head := ⟨'\x7b', _, rfl, by decide⟩

-- ---------------------------------------------------------------------------
-- Documents
-- ---------------------------------------------------------------------------

/-- The layout of a legible value denotes the value in normal form. -/
theorem denotes_prettyAt {v : Json} (h : v.Legible) (level : Nat) :
    Denotes (v.prettyAt level) v.normal := by
  induction h generalizing level with
  | null => exact denotes_null
  | bool b => exact denotes_bool b
  | whole hfits => exact denotes_whole hfits
  | real hsound => exact denotes_real hsound
  | string htext => exact denotes_string htext
  | @array items _ ih =>
    rw [Json.normal, Json.normalItems_eq]
    cases items with
    | nil => exact denotes_empty_array
    | cons item items =>
      exact denotes_array (List.cons_ne_nil _ _) fun item hmem => ih item hmem (level + 1)
  | @object members hnames _ ih =>
    rw [Json.normal, Json.normalMembers_eq]
    cases members with
    | nil => exact denotes_empty_object
    | cons member members =>
      exact denotes_object (List.cons_ne_nil _ _) hnames fun m hmem => ih m hmem (level + 1)

/-- Taking a document apart, on its characters. -/
theorem ofText?_ofList (chars : List Char) : ofText? (String.ofList chars) =
    match readValue (chars.length + 1) (next chars) with
    | some (document, rest) => if (next rest).isEmpty then some document else none
    | none => none := by
  show (match readValue ((String.ofList chars).toList.length + 1)
      (next (String.ofList chars).toList) with
    | some (document, rest) => if (next rest).isEmpty then some document else none
    | none => none) = _
  rw [String.toList_ofList]

end Json5

/-- **Documents read back.** A legible value that was laid out with a new line at its end
is read as the value in normal form. -/
theorem Json.ofJson5_pretty {v : Json} (h : v.Legible) :
    Json.ofJson5 (String.ofList (v.pretty ++ ['\n'])) = .ok v.normal := by
  have hdenotes := Json5.denotes_prettyAt h 0
  have hends : Json5.EndsValue ['\n'] := ⟨'\n', [], rfl, .inr rfl⟩
  have hlong : (v.prettyAt 0).length < (v.prettyAt 0 ++ ['\n']).length + 1 := by
    rw [List.length_append]
    omega
  obtain ⟨document, hread, hmeans⟩ := hdenotes.reads hlong hends
  have htext : Json5.ofText? (String.ofList (v.prettyAt 0 ++ ['\n'])) = some document := by
    rw [Json5.ofText?_ofList, hdenotes.head.next, hread]
    rfl
  rw [Json.ofJson5, Json.pretty, htext]
  exact hmeans

end Flagpost
