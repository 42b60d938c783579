import Flagpost.Proofs.Except
import Flagpost.Proofs.Json.Tree
import Flagpost.Proofs.Json5.Layout

/-!
# Flagpost — what a document can mean

Not every value is what a document means. The members of its objects are in the order
of their names, its whole numbers fit sixty-four bits, and its other numbers are of the
format: `Json.Settled`. So a document that has been read is in normal form, and of the
conditions to read it again after it has been laid out one remains: its texts can stand
in a string as they are written.

* `settled_meaning`      — what a document means is settled;
* `Json.Settled.normal`  — a settled value is in normal form;
* `Json.Settled.legible_iff` — when its layout is read back.
-/

namespace Flagpost

namespace Json

/-- A value that a document can mean: members in order, whole numbers that fit, and other
numbers of the format. -/
inductive Settled : Json → Prop
  | null : Settled .null
  | bool (b : Bool) : Settled (.bool b)
  | whole {n : Int} (hfits : Json5.FitsWhole n) : Settled (.number (.whole n))
  | real {x : Binary64} (hsound : x.Sound) : Settled (.number (.real x))
  | string (s : String) : Settled (.string s)
  | array {items : List Json} (hitems : ∀ item ∈ items, Settled item) : Settled (.array items)
  | object {members : List (String × Json)} (hordered : Ordered members)
      (hvalues : ∀ m ∈ members, Settled m.2) : Settled (.object members)

variable {v : Json} {items : List Json} {members : List (String × Json)}

/-- A settled value is in normal form. -/
theorem Settled.normal (h : v.Settled) : v.normal = v := by
  induction h with
  | null => rfl
  | bool b => rfl
  | whole hfits => rfl
  | real hsound => rfl
  | string s => rfl
  | @array items _ ih =>
    rw [Json.normal, normalItems_eq]
    exact congrArg Json.array ((List.map_congr_left ih).trans (List.map_id _))
  | @object members hordered _ ih =>
    have hvalues : ∀ m ∈ members, (m.1, m.2.normal) = m := fun m hm => by rw [ih m hm]
    have hmembers : normalMembers members = members := by
      rw [normalMembers_eq]
      exact (List.map_congr_left hvalues).trans (List.map_id _)
    rw [Json.normal, hmembers, sorted_of_ordered hordered]

/-- To put a settled value under a name keeps an object settled. -/
theorem Settled.putMember {name : String} (h : (Json.object members).Settled) (hv : v.Settled) :
    (Json.object (putMember name v members)).Settled := by
  cases h with
  | object hordered hvalues =>
    refine .object (hordered.putMember name v) fun m hm => ?_
    rcases mem_putMember hm with rfl | hm
    · exact hv
    · exact hvalues m hm

-- ---------------------------------------------------------------------------
-- Leaves
-- ---------------------------------------------------------------------------

/-- The leaf is no string, or one that is read as it is written. -/
def IsLegible : Json → Prop
  | .string s => Json5.LegibleText s
  | _ => True

instance : DecidablePred IsLegible
  | .string s => inferInstanceAs (Decidable (Json5.LegibleText s))
  | .null | .bool _ | .number _ | .array _ | .object _ => .isTrue trivial

theorem all_leaf {p : Json → Prop} {leaf : Json} (h : leaf.leaves = [leaf]) :
    leaf.All p ↔ p leaf := by
  rw [All, h, List.forall_mem_singleton]

/-- A settled value is read back from its layout if its texts are. -/
theorem Settled.legible_iff (h : v.Settled) : v.Legible ↔ v.All IsLegible := by
  induction h with
  | null => exact iff_of_true .null ((all_leaf rfl).2 trivial)
  | bool b => exact iff_of_true (.bool b) ((all_leaf rfl).2 trivial)
  | whole hfits => exact iff_of_true (.whole hfits) ((all_leaf rfl).2 trivial)
  | real hsound => exact iff_of_true (.real hsound) ((all_leaf rfl).2 trivial)
  | string s =>
    -- only for a text is there something to ask
    rw [all_leaf rfl]
    exact ⟨fun h => by cases h; assumption, .string⟩
  | array _ ih =>
    rw [all_array]
    constructor
    · intro hlegible item hitem
      cases hlegible with
      | array hitems => exact (ih item hitem).1 (hitems item hitem)
    · exact fun hitems => .array fun item hitem => (ih item hitem).2 (hitems item hitem)
  | object _ _ ih =>
    -- the names of members are texts as well
    rw [all_object]
    constructor
    · intro hlegible m hm
      cases hlegible with
      | object hnames hvalues => exact ⟨hnames m hm, (ih m hm).1 (hvalues m hm)⟩
    · exact fun hmembers => .object (fun m hm => (hmembers m hm).1) fun m hm =>
        (ih m hm).2 (hmembers m hm).2

end Json

namespace Json5

-- ---------------------------------------------------------------------------
-- Meaning
-- ---------------------------------------------------------------------------

variable {text digits : List Char} {n : Int} {v : Json}

theorem fits_of_hexValue (h : hexValue digits = .ok n) : FitsWhole n := by
  unfold hexValue at h
  dsimp only at h
  split at h
  · rename_i hlt
    cases h
    simp only [hexLimit] at hlt
    constructor <;> simp only [maxWhole] <;> omega
  · cases h

theorem fits_of_wholeValue (h : wholeValue text = .ok n) : FitsWhole n := by
  unfold wholeValue at h
  split at h
  · exact fits_of_hexValue h
  · dsimp only at h
    split at h
    · cases h
    · -- with a minus sign and without
      split at h <;> split at h <;> cases h <;> constructor <;> omega

theorem settled_numberValue (h : numberValue text = .ok v) : v.Settled := by
  unfold numberValue at h
  split at h
  · obtain ⟨n, hn, rfl⟩ := ok_of_map h
    exact .whole (fits_of_wholeValue hn)
  · unfold realValue at h
    dsimp only at h
    split at h
    · cases h
      exact .null
    · split at h
      · cases h
      · split at h
        · rename_i x hx
          cases h
          exact .real (Binary64.sound_of_ofDecimal? hx)
        · cases h

mutual

/-- What a document means is settled. -/
theorem settled_meaning : ∀ {document : Json5} {value : Json},
    document.meaning = .ok value → value.Settled
  | .null, _, h => by
    cases h
    exact .null
  | .bool b, _, h => by
    cases h
    exact .bool b
  | .number _, _, h => settled_numberValue h
  | .string _, _, h => by
    obtain ⟨s, -, rfl⟩ := ok_of_map h
    exact .string s
  | .array _, _, h => by
    obtain ⟨values, hvalues, rfl⟩ := ok_of_map h
    exact .array (settled_meanings hvalues)
  | .object _, _, h => by
    obtain ⟨members, hmembers, rfl⟩ := ok_of_map h
    exact .object (Json.ordered_sorted members) fun m hm =>
      settled_memberMeanings hmembers m (Json.mem_of_mem_sorted hm)

/-- What items mean is settled. -/
theorem settled_meanings : ∀ {documents : List Json5} {values : List Json},
    meanings documents = .ok values → ∀ value ∈ values, value.Settled
  | [], _, h => by
    cases h
    exact List.forall_mem_nil _
  | _ :: _, _, h => by
    obtain ⟨value, hvalue, h⟩ := ok_of_bind h
    obtain ⟨values, hvalues, h⟩ := ok_of_bind h
    cases h
    exact List.forall_mem_cons.2 ⟨settled_meaning hvalue, settled_meanings hvalues⟩

/-- What members mean is settled. -/
theorem settled_memberMeanings : ∀ {documents : List (List StringPiece × Json5)}
    {members : List (String × Json)},
    memberMeanings documents = .ok members → ∀ m ∈ members, m.2.Settled
  | [], _, h => by
    cases h
    exact List.forall_mem_nil _
  | (_, _) :: _, _, h => by
    obtain ⟨name, -, h⟩ := ok_of_bind h
    obtain ⟨value, hvalue, h⟩ := ok_of_bind h
    obtain ⟨values, hvalues, h⟩ := ok_of_bind h
    cases h
    exact List.forall_mem_cons.2 ⟨settled_meaning hvalue, settled_memberMeanings hvalues⟩

end

end Json5

/-- The value of a JSON5 document is settled. -/
theorem Json.settled_ofJson5 {text : String} {v : Json} (h : Json.ofJson5 text = .ok v) :
    v.Settled := by
  unfold Json.ofJson5 at h
  split at h
  · exact Json5.settled_meaning h
  · cases h

end Flagpost
