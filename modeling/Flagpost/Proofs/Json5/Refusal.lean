import Flagpost.Proofs.Json5.Settled

/-!
# Flagpost — laid-out documents that are not read back

The printer escapes what JSON says has to be escaped, and not the characters U+2028 and
U+2029. They end a line in JSON5, and no line ends within a string. So a document with
one of them in a text is laid out as something that is not JSON5 at all, although the
document may have been read from a file of JSON5, where they stood as escapes.

A text that is refused is refused whatever follows it (`Refused`), and so is everything
around it: the values before it are read as ever, and then the reader stops. The loops
are gone through from the front, as in the proof that they read what is legible, with
the same steps (`readItems_step`, `readMembers_step`).

* `refused_prettyAt` — the layout of a value with such a text is refused;
* `Json.ofJson5_layout` — what becomes of a document that is laid out and read again.
-/

namespace Flagpost

namespace Json5

variable {c : Char} {level fuel : Nat} {text : List Char} {done : List StringPiece} {v : Json}

-- ---------------------------------------------------------------------------
-- Strings
-- ---------------------------------------------------------------------------

/-- A line does not end within a string. -/
theorem readStringRest_lineEnd (hend : isLineEnd c = true) (hmark : c ≠ '"') (hback : c ≠ '\\') :
    readStringRest '"' done (c :: text) = none := by
  rw [readStringRest, if_neg hmark, if_neg hback, if_pos hend]

/-- What is written for characters is not read up to the closing mark if one of them ends a
line and is not escaped. -/
theorem readStringRest_illegible {chars : List Char}
    (h : ∃ c ∈ chars, ¬ (c ≠ '\u2028' ∧ c ≠ '\u2029')) (done : List StringPiece)
    (rest : List Char) :
    readStringRest '"' done (chars.flatMap Json.escapeChar ++ rest) = none := by
  induction chars generalizing done with
  | nil =>
    obtain ⟨c, hc, -⟩ := h
    cases hc
  | cons c chars ih =>
    rw [List.flatMap_cons, List.append_assoc]
    by_cases hc : c ≠ '\u2028' ∧ c ≠ '\u2029'
    · obtain ⟨piece, hpiece⟩ := writes_escapeChar hc
      rw [hpiece.reads]
      obtain ⟨d, hd, hbad⟩ := h
      rcases List.mem_cons.1 hd with rfl | hd
      · exact absurd hc hbad
      · exact ih ⟨d, hd, hbad⟩ (piece :: done)
    · have hends : c = '\u2028' ∨ c = '\u2029' := by
        by_contra hne
        exact hc (not_or.1 hne)
      rcases hends with rfl | rfl <;>
        exact readStringRest_lineEnd (by decide) (by decide) (by decide)

theorem readQuoted?_illegible {s : String} (h : ¬ LegibleText s) (rest : List Char) :
    readQuoted? (Json.quoted s ++ rest) = none := by
  have hsome : ∃ c ∈ s.toList, ¬ (c ≠ '\u2028' ∧ c ≠ '\u2029') := by
    simpa only [LegibleText, not_forall, exists_prop] using h
  rw [Json.quoted, List.cons_append, List.cons_append, List.append_assoc]
  exact readStringRest_illegible hsome [] _

theorem readName_illegible {s : String} (h : ¬ LegibleText s) (rest : List Char) :
    readName (Json.quoted s ++ rest) = none := by
  have hquoted : isQuoted (Json.quoted s ++ rest) = true := isQuoted_mark _
  rw [readName, if_pos hquoted, readQuoted?_illegible h]

-- ---------------------------------------------------------------------------
-- Values
-- ---------------------------------------------------------------------------

/-- A text that begins as a value does and is not read as one, whatever follows. -/
structure Refused (text : List Char) : Prop where
  reads : ∀ {fuel : Nat} {rest : List Char}, text.length < fuel →
    readValue fuel (text ++ rest) = none
  head : BeginsValue text

theorem refused_string {s : String} (h : ¬ LegibleText s) : Refused (Json.quoted s) where
  reads {fuel rest} hf := by
    obtain ⟨fuel, rfl⟩ : ∃ n, fuel = n + 1 := ⟨fuel - 1, by omega⟩
    have hread := readQuoted?_illegible h rest
    rw [Json.quoted, List.cons_append, List.cons_append] at hread ⊢
    rw [readValue_simple (by decide) (by decide), readSimple, if_pos (isQuoted_mark _), hread]
    rfl
  head := ⟨'"', _, rfl, by decide⟩

/-- Items one of which is refused are not read. -/
theorem readItems_refused {items : List Json}
    (hitems : ∀ item ∈ items, Denotes (Json.prettyAt level item) item.normal ∨
      Refused (Json.prettyAt level item))
    (hsome : ∃ item ∈ items, Refused (Json.prettyAt level item))
    (hf : (Json.prettyItems level items).length < fuel) (rest : List Char) (done : List Json5) :
    readItems fuel done (next (Json.prettyItems level items ++ rest)) = none := by
  induction items generalizing fuel done with
  | nil =>
    obtain ⟨item, hitem, -⟩ := hsome
    cases hitem
  | cons item items ih =>
    obtain ⟨fuel, rfl⟩ : ∃ n, fuel = n + 1 := ⟨fuel - 1, by omega⟩
    obtain ⟨hitem, hitems⟩ := List.forall_mem_cons.1 hitems
    obtain ⟨hlong, hlater⟩ := length_prettyItems_cons level item items
    have hfuel : (Json.prettyAt level item).length < fuel := by omega
    by_cases hrefused : Refused (Json.prettyAt level item)
    · rw [next_items hrefused.head, readItems, hrefused.reads hfuel]
    · -- the refused one is behind the comma
      have hdenotes := hitem.resolve_right hrefused
      obtain ⟨bad, hbad, hbadRefused⟩ := hsome
      have hmem : bad ∈ items := (List.mem_cons.1 hbad).resolve_left fun heq =>
        hrefused (heq ▸ hbadRefused)
      obtain ⟨later, items, rfl⟩ := List.exists_cons_of_ne_nil (List.ne_nil_of_mem hmem)
      have hhead : BeginsValue (Json.prettyAt level later) :=
        (hitems later List.mem_cons_self).elim Denotes.head Refused.head
      have hmore := hlater (List.cons_ne_nil _ _)
      obtain ⟨document, -, hstep⟩ := readItems_step hdenotes hhead hfuel rest done
      rw [hstep]
      exact ih hitems ⟨bad, hmem, hbadRefused⟩ (by omega) (document :: done)

theorem refused_array {items : List Json}
    (hitems : ∀ item ∈ items, Denotes (Json.prettyAt (level + 1) item) item.normal ∨
      Refused (Json.prettyAt (level + 1) item))
    (hsome : ∃ item ∈ items, Refused (Json.prettyAt (level + 1) item)) :
    Refused ('[' :: Json.prettyItems (level + 1) items ++ Json.indent level ++ [']']) where
  reads {fuel rest} hf := by
    obtain ⟨fuel, rfl⟩ : ∃ n, fuel = n + 1 := ⟨fuel - 1, by omega⟩
    have hlong : (Json.prettyItems (level + 1) items).length < fuel := by
      simp only [List.length_append, List.length_cons] at hf
      omega
    have hnone := readItems_refused hitems hsome hlong (Json.indent level ++ ([']'] ++ rest)) []
    obtain ⟨item, hitem, -⟩ := hsome
    obtain ⟨first, items, rfl⟩ := List.exists_cons_of_ne_nil (List.ne_nil_of_mem hitem)
    have hhead : BeginsValue (Json.prettyAt (level + 1) first) :=
      (hitems first List.mem_cons_self).elim Denotes.head Refused.head
    rw [List.append_assoc, List.append_assoc, List.cons_append, readValue_array hhead, hnone]
    rfl
  head := ⟨'[', _, rfl, by decide⟩

/-- A member whose name or whose value is not read. -/
def RefusedMember (level : Nat) (m : String × Json) : Prop :=
  ¬ LegibleText m.1 ∨ Refused (Json.prettyAt level m.2)

/-- Members one of which is refused are not read. -/
theorem readMembers_refused {members : List (String × Json)}
    (hvalues : ∀ m ∈ members, Denotes (Json.prettyAt level m.2) m.2.normal ∨
      Refused (Json.prettyAt level m.2))
    (hsome : ∃ m ∈ members, RefusedMember level m)
    (hf : (Json.prettyMembers level members).length < fuel) (rest : List Char)
    (done : List (List StringPiece × Json5)) :
    readMembers fuel done (next (Json.prettyMembers level members ++ rest)) = none := by
  induction members generalizing fuel done with
  | nil =>
    obtain ⟨m, hm, -⟩ := hsome
    cases hm
  | cons member members ih =>
    obtain ⟨name, value⟩ := member
    obtain ⟨fuel, rfl⟩ : ∃ n, fuel = n + 1 := ⟨fuel - 1, by omega⟩
    obtain ⟨hvalue, hvalues⟩ := List.forall_mem_cons.1 hvalues
    obtain ⟨hlong, hlater⟩ := length_prettyMembers_cons level name value members
    have hfuel : (Json.prettyAt level value).length < fuel := by omega
    by_cases hname : LegibleText name
    · by_cases hrefused : Refused (Json.prettyAt level value)
      · have hread : ∀ behind, readValue fuel
            (next (' ' :: (Json.prettyAt level value ++ behind))) = none := fun behind => by
          rw [next_of_space rfl (by decide), hrefused.head.next, hrefused.reads hfuel]
        obtain ⟨pieces, hpieces, -⟩ := readName_quoted hname
          (':' :: ' ' :: (Json.prettyAt level value ++ (Json.membersBehind level members ++ rest)))
        rw [next_members]
        simp only [readMembers, hpieces, next_colon, hread]
      · -- the refused one is behind the comma
        have hdenotes := hvalue.resolve_right hrefused
        obtain ⟨bad, hbad, hbadRefused⟩ := hsome
        have hmem : bad ∈ members := by
          refine (List.mem_cons.1 hbad).resolve_left ?_
          rintro rfl
          exact hbadRefused.elim (absurd hname) hrefused
        obtain ⟨later, members, rfl⟩ := List.exists_cons_of_ne_nil (List.ne_nil_of_mem hmem)
        have hmore := hlater (List.cons_ne_nil _ _)
        obtain ⟨pieces, document, -, -, hstep⟩ := readMembers_step hname hdenotes hfuel rest done
        rw [hstep]
        exact ih hvalues ⟨bad, hmem, hbadRefused⟩ (by omega) ((pieces, document) :: done)
    · rw [next_members, readMembers, readName_illegible hname]

theorem refused_object {members : List (String × Json)}
    (hvalues : ∀ m ∈ members, Denotes (Json.prettyAt (level + 1) m.2) m.2.normal ∨
      Refused (Json.prettyAt (level + 1) m.2))
    (hsome : ∃ m ∈ members, RefusedMember (level + 1) m) :
    Refused ('\x7b' :: Json.prettyMembers (level + 1) members ++ Json.indent level ++
      ['\x7d']) where
  reads {fuel rest} hf := by
    obtain ⟨fuel, rfl⟩ : ∃ n, fuel = n + 1 := ⟨fuel - 1, by omega⟩
    have hlong : (Json.prettyMembers (level + 1) members).length < fuel := by
      simp only [List.length_append, List.length_cons] at hf
      omega
    have hnone := readMembers_refused hvalues hsome hlong
      (Json.indent level ++ (['\x7d'] ++ rest)) []
    obtain ⟨m, hm, -⟩ := hsome
    obtain ⟨first, members, rfl⟩ := List.exists_cons_of_ne_nil (List.ne_nil_of_mem hm)
    rw [List.append_assoc, List.append_assoc, List.cons_append, readValue_object, hnone]
    rfl
  head := ⟨'\x7b', _, rfl, by decide⟩

/-- The layout of a settled value is refused if a text in it is not legible. -/
theorem refused_prettyAt (h : v.Settled) (hill : ¬ v.Legible) (level : Nat) :
    Refused (v.prettyAt level) := by
  -- a value below is refused or denotes itself
  have hread : ∀ (level : Nat) (w : Json), (¬ w.Legible → Refused (w.prettyAt level)) →
      Denotes (w.prettyAt level) w.normal ∨ Refused (w.prettyAt level) := fun level w hw =>
    (em w.Legible).imp (fun hlegible => denotes_prettyAt hlegible level) hw
  induction h generalizing level with
  | null => exact absurd .null hill
  | bool b => exact absurd (.bool b) hill
  | whole hfits => exact absurd (.whole hfits) hill
  | real hsound => exact absurd (.real hsound) hill
  | string s => exact refused_string fun htext => hill (.string htext)
  | @array items _ ih =>
    have hsome : ∃ item ∈ items, ¬ item.Legible := by
      by_contra hall
      exact hill (.array (by simpa using hall))
    have hrefused : ∀ item ∈ items, ¬ item.Legible → Refused (item.prettyAt (level + 1)) :=
      fun item hitem hbad => ih item hitem hbad (level + 1)
    obtain ⟨bad, hmem, hbad⟩ := hsome
    obtain ⟨first, items, rfl⟩ := List.exists_cons_of_ne_nil (List.ne_nil_of_mem hmem)
    exact refused_array (fun item hitem => hread _ _ (hrefused item hitem))
      ⟨bad, hmem, hrefused bad hmem hbad⟩
  | @object members _ _ ih =>
    have hsome : ∃ m ∈ members, ¬ LegibleText m.1 ∨ ¬ m.2.Legible := by
      by_contra hall
      simp only [not_exists, not_and, not_or, not_not] at hall
      exact hill (.object (fun m hm => (hall m hm).1) fun m hm => (hall m hm).2)
    have hrefused : ∀ m ∈ members, ¬ m.2.Legible → Refused (m.2.prettyAt (level + 1)) :=
      fun m hm hbad => ih m hm hbad (level + 1)
    obtain ⟨bad, hmem, hbad⟩ := hsome
    obtain ⟨first, members, rfl⟩ := List.exists_cons_of_ne_nil (List.ne_nil_of_mem hmem)
    exact refused_object (fun m hm => hread _ _ (hrefused m hm))
      ⟨bad, hmem, hbad.imp_right (hrefused bad hmem)⟩

end Json5

-- ---------------------------------------------------------------------------
-- Documents
-- ---------------------------------------------------------------------------

/-- **Documents laid out and read again.** A value that a document can mean is read from its
layout if its texts can stand in a string as they are written, and otherwise its layout is
no document. -/
theorem Json.ofJson5_layout {v : Json} (h : v.Settled) :
    Json.ofJson5 (String.ofList (v.pretty ++ ['\n'])) =
      if v.All IsLegible then .ok v else .error .syntaxFault := by
  split
  · rename_i htexts
    rw [Json.ofJson5_pretty (h.legible_iff.2 htexts), h.normal]
  · rename_i htexts
    have hrefused := Json5.refused_prettyAt h (mt h.legible_iff.1 htexts) 0
    have hlong : (v.prettyAt 0).length < (v.prettyAt 0 ++ ['\n']).length + 1 := by
      rw [List.length_append]
      omega
    rw [Json.ofJson5, Json5.ofText?_ofList, Json.pretty, hrefused.head.next, hrefused.reads hlong]

end Flagpost
