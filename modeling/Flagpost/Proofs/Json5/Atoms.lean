import Flagpost.Proofs.Json.Strings
import Flagpost.Proofs.Json5.Numerals

/-!
# Flagpost — strings and numbers of a JSON5 document read back

JSON is nearly a part of JSON5, and what the printer of documents writes is read
back by the reader of JSON5, but for two things. A string may not have the
characters U+2028 and U+2029 in it, which end a line in JSON5 and which the printer
writes as they are; and a whole number has to fit sixty-four bits with its sign.

Strings go through two steps, and each character is followed through both
(`writes_escapeChar`): what is written for it is read as one piece, and the piece
means the character.

* `readQuoted?_quoted`   — strings;
* `readSimple_ofInt`     — whole numbers, up to the end of what was written for them;
* `numberValue_ofInt`    — and their value.
-/

namespace Flagpost

namespace Json5

variable {mark c : Char} {done : List StringPiece} {text rest : List Char} {n : Nat}

-- ---------------------------------------------------------------------------
-- Strings
-- ---------------------------------------------------------------------------

/-- A text that can stand in a string as the printer writes it. -/
def LegibleText (s : String) : Prop := ∀ c ∈ s.toList, c ≠ '\u2028' ∧ c ≠ '\u2029'

instance (s : String) : Decidable (LegibleText s) :=
  List.decidableBAll _ s.toList

theorem readStringRest_char (hmark : c ≠ mark) (hback : c ≠ '\\') (hend : isLineEnd c = false) :
    readStringRest mark done (c :: text) = readStringRest mark (.char c :: done) text := by
  rw [readStringRest, if_neg hmark, if_neg hback, hend]
  rfl

theorem readStringRest_mark : readStringRest mark done (mark :: text) =
    some (done.reverse, text) := by
  rw [readStringRest, if_pos rfl]

theorem readStringRest_escape {piece : StringPiece} (hmark : mark ≠ '\\')
    (h : readEscape text = some (some piece, rest)) :
    readStringRest mark done ('\\' :: text) = readStringRest mark (piece :: done) rest := by
  rw [readStringRest, if_neg hmark.symm, if_pos rfl]
  split
  · rename_i piece? after heq
    rw [h] at heq
    cases heq
    rfl
  · rename_i heq
    rw [h] at heq
    cases heq

theorem readHex_append {count m : Nat} {digits : List Char}
    (h : readHex count n digits = some (m, [])) :
    readHex count n (digits ++ text) = some (m, text) := by
  induction count generalizing n digits with
  | zero =>
    cases h
    rfl
  | succ count ih =>
    cases digits with
    | nil => cases h
    | cons d digits =>
      obtain ⟨v, hv, hrest⟩ := Option.bind_eq_some_iff.1 h
      rw [List.cons_append, readHex, hv]
      exact ih hrest

theorem readHex_padded : ∀ n < 0x20, readHex 4 0 (Hex.padded 4 n) = some (n, []) := by decide

/-- What is written for a character is read as one piece, and the piece means the
character. -/
structure Writes (written : List Char) (piece : StringPiece) (c : Char) : Prop where
  reads : ∀ done text,
    readStringRest '"' done (written ++ text) = readStringRest '"' (piece :: done) text
  means : ∀ rest, charsOf (piece :: rest) = (charsOf rest).map (c :: ·)

theorem writes_lettered (h : c ∈ Json.lettered) : ∃ piece, Writes (Json.escapeChar c) piece c := by
  simp only [Json.lettered, List.mem_cons, List.not_mem_nil, or_false] at h
  rcases h with rfl | rfl | rfl | rfl | rfl | rfl | rfl <;>
    exact ⟨.escaped _, fun _ _ => readStringRest_escape (by decide) rfl, fun _ => rfl⟩

theorem writes_unit (h : c.toNat < 0x20) :
    Writes ('\\' :: 'u' :: Hex.padded 4 c.toNat) (.unit c.toNat) c where
  reads done text := by
    have hhex : readHex 4 0 (Hex.padded 4 c.toNat ++ text) = some (c.toNat, text) :=
      readHex_append (readHex_padded c.toNat h)
    refine readStringRest_escape (by decide) ?_
    show readEscape ('u' :: (Hex.padded 4 c.toNat ++ text)) = _
    rw [readEscape, if_neg (by decide), if_pos rfl, hhex]
    rfl
  means rest := by
    -- a number below a space is no half of a pair
    have htrail : isTrail c.toNat = false := by
      rw [isTrail]
      simp
      omega
    have hlead : isLead c.toNat = false := by
      rw [isLead]
      simp
      omega
    rw [charsOf.eq_def]
    dsimp only
    rw [htrail, hlead, Char.ofNat_toNat]
    rfl

theorem writes_char (hquote : c ≠ '"') (hback : c ≠ '\\') (hend : isLineEnd c = false) :
    Writes [c] (.char c) c :=
  ⟨fun _ _ => readStringRest_char hquote hback hend, fun _ => rfl⟩

/-- A character of a text that can stand in a string is written as one piece. -/
theorem writes_escapeChar (h : c ≠ '\u2028' ∧ c ≠ '\u2029') :
    ∃ piece, Writes (Json.escapeChar c) piece c := by
  by_cases hletter : c ∈ Json.lettered
  · -- it has an escape of its own
    exact writes_lettered hletter
  · rw [Json.escapeChar_of_not_mem hletter]
    split
    · -- it is written with its number
      rename_i hlow
      exact ⟨_, writes_unit hlow⟩
    · -- it is written as it is, and ends neither the string nor the line
      refine ⟨_, writes_char ?_ ?_ ?_⟩
      · rintro rfl
        exact hletter (by decide)
      · rintro rfl
        exact hletter (by decide)
      · have hnewline : c ≠ '\n' := by
          rintro rfl
          exact hletter (by decide)
        have hreturn : c ≠ '\r' := by
          rintro rfl
          exact hletter (by decide)
        simp [isLineEnd, hnewline, hreturn, h.1, h.2]

/-- Characters that are written are read as pieces that mean them, up to the closing
mark. -/
theorem readStringRest_chars {chars : List Char} (h : ∀ c ∈ chars, c ≠ '\u2028' ∧ c ≠ '\u2029')
    (done : List StringPiece) (rest : List Char) :
    ∃ pieces, readStringRest '"' done (chars.flatMap Json.escapeChar ++ '"' :: rest) =
      some (done.reverse ++ pieces, rest) ∧ charsOf pieces = .ok chars := by
  induction chars generalizing done with
  | nil =>
    refine ⟨[], ?_, rfl⟩
    rw [List.append_nil]
    exact readStringRest_mark
  | cons c chars ih =>
    obtain ⟨hc, hchars⟩ := List.forall_mem_cons.1 h
    obtain ⟨piece, hpiece⟩ := writes_escapeChar hc
    obtain ⟨pieces, hread, hmeans⟩ := ih hchars (piece :: done)
    refine ⟨piece :: pieces, ?_, ?_⟩
    · rw [List.flatMap_cons, List.append_assoc, hpiece.reads, hread, List.reverse_cons,
        List.append_assoc]
      rfl
    · rw [hpiece.means, hmeans]
      rfl

/-- **Strings read back.** A text that can stand in a string is read from what is
written for it, up to the closing mark. -/
theorem readQuoted?_quoted {s : String} (h : LegibleText s) (rest : List Char) :
    ∃ pieces, readQuoted? (Json.quoted s ++ rest) = some (pieces, rest) ∧
      textOf pieces = .ok s := by
  obtain ⟨pieces, hread, hmeans⟩ := readStringRest_chars h [] rest
  refine ⟨pieces, ?_, ?_⟩
  · rw [Json.quoted, List.cons_append, List.cons_append, List.append_assoc]
    exact hread
  · rw [textOf, hmeans]
    exact congrArg Except.ok (String.ofList_toList)

-- ---------------------------------------------------------------------------
-- Whole numbers
-- ---------------------------------------------------------------------------

/-- A whole number without its sign as a numeral. -/
def wholeNumeral (n : Nat) : Numeral := ⟨Decimal.digits n, none, none⟩

theorem proper_wholeNumeral (n : Nat) : (wholeNumeral n).Proper where
  first := (Decimal.digits_cases n).imp (fun h => h.2) fun ⟨d, ds, hds, hd, _⟩ => ⟨d, ds, hds, hd⟩
  whole _ := Decimal.isDigit_of_mem_digits
  fraction _ h := by cases h
  exponent _ _ h := by cases h

theorem text_wholeNumeral (n : Nat) : (wholeNumeral n).text = Decimal.digits n :=
  List.append_nil _

theorem ofInt_eq_signed (n : Int) :
    Decimal.ofInt n = signed (decide (n < 0)) (wholeNumeral n.natAbs).text := by
  rw [Decimal.ofInt, text_wholeNumeral, signed]
  by_cases h : n < 0
  · rw [if_pos h, decide_eq_true h]
    rfl
  · rw [if_neg h, decide_eq_false h]
    rfl

/-- What is written for a whole number begins with a digit or a minus sign. -/
theorem ofInt_head (n : Int) : ∃ c tail, Decimal.ofInt n = c :: tail ∧
    (c = '-' ∨ c.isDigit = true) :=
  ofInt_eq_signed n ▸ Numeral.signed_head (proper_wholeNumeral _) _

theorem readSimple_ofInt (h : EndsValue rest) (n : Int) :
    readSimple (Decimal.ofInt n ++ rest) = some (.number (Decimal.ofInt n), rest) :=
  ofInt_eq_signed n ▸ Numeral.readSimple_signed (proper_wholeNumeral _) h _

/-- A whole number that fits sixty-four bits with its sign. -/
def FitsWhole (n : Int) : Prop := -(maxWhole + 1 : Int) ≤ n ∧ n ≤ maxWhole

instance (n : Int) : Decidable (FitsWhole n) :=
  inferInstanceAs (Decidable (-(maxWhole + 1 : Int) ≤ n ∧ n ≤ maxWhole))

theorem isWhole_ofInt (n : Int) : isWhole (Decimal.ofInt n) = true :=
  ofInt_eq_signed n ▸ Numeral.isWhole_signed (proper_wholeNumeral _) _

theorem hexDigits?_ofInt (n : Int) : hexDigits? (Decimal.ofInt n) = none :=
  ofInt_eq_signed n ▸ Numeral.hexDigits?_signed (proper_wholeNumeral _) _

theorem splitSign_ofInt (n : Int) :
    splitSign (Decimal.ofInt n) = (decide (n < 0), Decimal.digits n.natAbs) := by
  rw [ofInt_eq_signed, Numeral.splitSign_signed (proper_wholeNumeral _), text_wholeNumeral]

/-- **Whole numbers read back.** The value of what is written for a whole number is
the number, if it fits. -/
theorem numberValue_ofInt {n : Int} (h : FitsWhole n) :
    numberValue (Decimal.ofInt n) = .ok (Json.whole n) := by
  have hall : (Decimal.digits n.natAbs).all Char.isDigit = true :=
    List.all_eq_true.2 fun _ => Decimal.isDigit_of_mem_digits
  have hvalue : Decimal.valueOf (Decimal.digits n.natAbs) = n.natAbs :=
    Decimal.valueOf_digits n.natAbs
  rw [numberValue, isWhole_ofInt, if_pos rfl, wholeValue, hexDigits?_ofInt, splitSign_ofInt]
  dsimp only
  rw [hall, hvalue]
  obtain ⟨hlow, hhigh⟩ := h
  -- one more fits on the negative side
  have hfits : ¬ (if decide (n < 0) then maxWhole + 1 else maxWhole) < n.natAbs := by
    by_cases hn : n < 0
    · rw [if_pos (decide_eq_true hn)]
      omega
    · rw [if_neg (by simpa using hn)]
      omega
  have hsigned : (if decide (n < 0) then -(n.natAbs : Int) else n.natAbs) = n := by
    by_cases hn : n < 0
    · rw [if_pos (decide_eq_true hn)]
      omega
    · rw [if_neg (by simpa using hn)]
      omega
  rw [if_neg (by decide), if_neg hfits, hsigned]
  rfl

end Json5

end Flagpost
