import Flagpost.Json5.Meaning
import Flagpost.Proofs.Text.Digits

/-!
# Flagpost — decimal numerals of JSON5

The printer writes numbers in one of the ways JSON5 has for them: a sign or none, digits,
perhaps a point with digits behind it, and perhaps an exponent with its sign (`Numeral`).
The reader takes as many characters for a number as belong to it and cuts them into the
same parts later, when it asks for the value. Here both are followed for every numeral.

* `readSimple_signed`  — a numeral is read up to its end;
* `isWhole_signed`     — it is whole if it has neither point nor exponent;
* `decimalParts?_text` — its parts are found again.
-/

namespace Flagpost

namespace Json5

variable {c : Char} {rest tail : List Char}

-- ---------------------------------------------------------------------------
-- The parts of a numeral
-- ---------------------------------------------------------------------------

/-- A decimal number without its sign: the digits before the point, those behind it, and the
sign and the digits of the exponent. -/
structure Numeral where
  whole : List Char
  fraction : Option (List Char)
  exponent : Option (Bool × List Char)

namespace Numeral

/-- The point and what is behind it. -/
def pointText : Option (List Char) → List Char
  | none => []
  | some digits => '.' :: digits

/-- The exponent. -/
def powerText : Option (Bool × List Char) → List Char
  | none => []
  | some (negative, digits) => 'e' :: (if negative then '-' else '+') :: digits

/-- The characters of a numeral. -/
def text (s : Numeral) : List Char := s.whole ++ (pointText s.fraction ++ powerText s.exponent)

/-- The power of ten that the exponent stands for. -/
def power : Option (Bool × List Char) → Int
  | none => 0
  | some (negative, digits) =>
    if negative then -(Decimal.valueOf digits : Int) else Decimal.valueOf digits

/-- A numeral as it is written: its digits are digits, a zero in front stands alone, and
an exponent has a digit. -/
structure Proper (s : Numeral) : Prop where
  first : s.whole = ['0'] ∨ ∃ d ds, s.whole = d :: ds ∧ d ≠ '0'
  whole : ∀ c ∈ s.whole, c.isDigit = true
  fraction : ∀ ds, s.fraction = some ds → ∀ c ∈ ds, c.isDigit = true
  exponent : ∀ negative ds, s.exponent = some (negative, ds) →
    ds ≠ [] ∧ ∀ c ∈ ds, c.isDigit = true

end Numeral

/-- A number with its sign. -/
def signed (negative : Bool) (text : List Char) : List Char :=
  (if negative then ['-'] else []) ++ text

-- ---------------------------------------------------------------------------
-- What ends a run of digits
-- ---------------------------------------------------------------------------

/-- What follows a value that was laid out: a comma or the end of the line. -/
def EndsValue (rest : List Char) : Prop := ∃ c tail, rest = c :: tail ∧ (c = ',' ∨ c = '\n')

/-- A text that does not go on with a digit. -/
def EndsDigits (rest : List Char) : Prop := ∀ c ∈ rest.head?, c.isDigit = false

theorem EndsValue.not_digit (h : EndsValue rest) :
    ∃ c tail, rest = c :: tail ∧ c.isDigit = false ∧ c ≠ '.' ∧ c ≠ 'e' ∧ c ≠ 'E' ∧ c ≠ 'x' ∧
      c ≠ 'X' := by
  obtain ⟨c, tail, rfl, hc⟩ := h
  refine ⟨c, tail, rfl, ?_⟩
  rcases hc with rfl | rfl <;> decide

theorem EndsDigits.cons (h : c.isDigit = false) (tail : List Char) : EndsDigits (c :: tail) := by
  intro d hd
  rw [List.head?_cons, Option.mem_some_iff] at hd
  exact hd ▸ h

theorem EndsValue.endsDigits (h : EndsValue rest) : EndsDigits rest := by
  obtain ⟨c, tail, rfl, hc, -⟩ := h.not_digit
  exact .cons hc tail

theorem takeWhile_digits {ds : List Char} (hds : ∀ c ∈ ds, c.isDigit = true)
    (h : EndsDigits rest) : (ds ++ rest).takeWhile Char.isDigit = ds := by
  rw [List.takeWhile_append_of_pos hds]
  cases rest with
  | nil => exact List.append_nil _
  | cons c tail =>
    rw [List.takeWhile_cons, h c rfl]
    exact List.append_nil _

namespace Numeral

variable {s : Numeral}

theorem endsDigits_powerText (hrest : EndsDigits rest) (e : Option (Bool × List Char)) :
    EndsDigits (powerText e ++ rest) := by
  cases e with
  | none => exact hrest
  | some e => exact .cons (by decide) _

theorem endsDigits_pointText (hrest : EndsDigits rest) (f : Option (List Char)) :
    EndsDigits (pointText f ++ rest) := by
  cases f with
  | none => exact hrest
  | some ds => exact .cons (by decide) _

theorem Proper.whole_ne_nil (h : s.Proper) : s.whole ≠ [] := by
  rcases h.first with hzero | ⟨d, ds, hds, -⟩
  · rw [hzero]
    exact List.cons_ne_nil _ _
  · rw [hds]
    exact List.cons_ne_nil _ _

/-- A numeral begins with a digit. -/
theorem Proper.head (h : s.Proper) : ∃ d tail, s.text = d :: tail ∧ d.isDigit = true := by
  obtain ⟨d, ds, hds⟩ := List.exists_cons_of_ne_nil h.whole_ne_nil
  refine ⟨d, ds ++ (pointText s.fraction ++ powerText s.exponent), ?_, ?_⟩
  · rw [text, hds]
    rfl
  · exact h.whole d (hds ▸ List.mem_cons_self)

-- ---------------------------------------------------------------------------
-- Reading
-- ---------------------------------------------------------------------------

theorem exponentLength_powerText (h : s.Proper) (hrest : EndsValue rest) :
    exponentLength (powerText s.exponent ++ rest) = (powerText s.exponent).length := by
  cases hexponent : s.exponent with
  | none =>
    obtain ⟨c, tail, rfl, -, -, he, hE, -⟩ := hrest.not_digit
    simp [powerText, exponentLength, he, hE]
  | some e =>
    obtain ⟨negative, ds⟩ := e
    obtain ⟨hne, hds⟩ := h.exponent negative ds hexponent
    have htake := takeWhile_digits hds hrest.endsDigits
    have hlength : ds.length ≠ 0 := fun hzero => hne (List.length_eq_zero_iff.1 hzero)
    cases negative <;> simp [powerText, exponentLength, htake, hlength] <;> omega

/-- What is read behind the digits in front does not begin with a point, unless there is
one, and not with the letter of a hexadecimal number. -/
theorem head_powerText (hrest : EndsValue rest) (e : Option (Bool × List Char)) :
    ∃ c tail, powerText e ++ rest = c :: tail ∧ c ≠ '.' ∧ c ≠ 'x' ∧ c ≠ 'X' := by
  cases e with
  | none =>
    obtain ⟨c, tail, rfl, -, hdot, -, -, hx, hX⟩ := hrest.not_digit
    exact ⟨c, tail, rfl, hdot, hx, hX⟩
  | some e => exact ⟨'e', _, rfl, by decide, by decide, by decide⟩

theorem head_pointText (hrest : EndsValue rest) (s : Numeral) :
    ∃ c tail, pointText s.fraction ++ (powerText s.exponent ++ rest) = c :: tail ∧
      c ≠ 'x' ∧ c ≠ 'X' := by
  cases s.fraction with
  | none =>
    obtain ⟨c, tail, htext, -, hx, hX⟩ := head_powerText hrest s.exponent
    exact ⟨c, tail, htext, hx, hX⟩
  | some ds => exact ⟨'.', _, rfl, by decide, by decide⟩

/-- How many characters belong to a number, given how many digits are in front and what
is behind them. -/
def lengthBehind (whole : Nat) : List Char → Nat
  | '.' :: rest =>
    let digits := (rest.takeWhile Char.isDigit).length
    if whole = 0 ∧ digits = 0 then 0
    else whole + 1 + digits + exponentLength (rest.drop digits)
  | rest => if whole = 0 then 0 else whole + exponentLength rest

theorem decimalLength_zero (tail : List Char) :
    decimalLength ('0' :: tail) = lengthBehind 1 tail := by
  unfold decimalLength lengthBehind
  rfl

theorem decimalLength_of_ne {d : Char} {tail : List Char} (hd : d ≠ '0') :
    decimalLength (d :: tail) = lengthBehind ((d :: tail).takeWhile Char.isDigit).length
      ((d :: tail).drop ((d :: tail).takeWhile Char.isDigit).length) := by
  unfold decimalLength lengthBehind
  split
  · rename_i heq
    cases heq
    exact absurd rfl hd
  · rfl

theorem lengthBehind_text (h : s.Proper) (hrest : EndsValue rest) {whole : Nat} (hwhole : whole ≠ 0) :
    lengthBehind whole (pointText s.fraction ++ (powerText s.exponent ++ rest)) =
      whole + (pointText s.fraction ++ powerText s.exponent).length := by
  have hpower := exponentLength_powerText h hrest
  cases hfraction : s.fraction with
  | none =>
    obtain ⟨c, tail, htext, hdot, -⟩ := head_powerText hrest s.exponent
    rw [htext] at hpower
    show lengthBehind whole (powerText s.exponent ++ rest) = _
    rw [htext, lengthBehind, if_neg hwhole, hpower]
    · rfl
    · exact fun _ heq => hdot (List.cons.inj heq).1
  | some ds =>
    have htake := takeWhile_digits (h.fraction ds hfraction)
      (endsDigits_powerText hrest.endsDigits s.exponent)
    show lengthBehind whole ('.' :: (ds ++ (powerText s.exponent ++ rest))) = _
    rw [lengthBehind, htake, if_neg fun hzero => hwhole hzero.1, List.drop_left, hpower]
    simp only [pointText, List.cons_append, List.length_cons, List.length_append]
    omega

/-- All characters of a numeral belong to the number. -/
theorem decimalLength_text (h : s.Proper) (hrest : EndsValue rest) :
    decimalLength (s.text ++ rest) = s.text.length := by
  have htake := takeWhile_digits h.whole
    (endsDigits_pointText (endsDigits_powerText hrest.endsDigits s.exponent) s.fraction)
  have hbehind : ∀ {whole : Nat}, whole ≠ 0 → _ := lengthBehind_text h hrest
  rw [text, List.append_assoc, List.append_assoc, List.length_append]
  rcases h.first with hzero | ⟨d, ds, hds, hd⟩
  · rw [hzero]
    exact (decimalLength_zero _).trans (hbehind (by decide))
  · have hpos : s.whole.length ≠ 0 := by simp [hds]
    rw [hds, List.cons_append] at htake ⊢
    rw [decimalLength_of_ne hd, htake, ← List.cons_append, List.drop_left, hbehind (by simp)]

theorem unsignedLength_text (h : s.Proper) (hrest : EndsValue rest) :
    unsignedLength (s.text ++ rest) = s.text.length := by
  have hdecimal := decimalLength_text h hrest
  have hpos : s.text.length ≠ 0 := by
    obtain ⟨d, tail, htext, -⟩ := h.head
    simp [htext]
  obtain ⟨c, tail, hbehind, hx, hX⟩ := head_pointText hrest s
  rw [text, List.append_assoc, List.append_assoc, hbehind] at hdecimal ⊢
  rcases h.first with hzero | ⟨d, ds, hds, hd⟩
  · rw [hzero] at hdecimal ⊢
    simp only [unsignedLength, List.cons_append, List.nil_append] at hdecimal ⊢
    simp [hx, hX, hdecimal]
  · rw [hds, List.cons_append] at hdecimal ⊢
    rw [unsignedLength]
    · simp [hdecimal]
    · exact fun _ _ heq => hd (List.cons.inj heq).1

/-- A numeral with its sign is read up to its end. -/
theorem readNumber_signed (h : s.Proper) (hrest : EndsValue rest) (negative : Bool) :
    readNumber (signed negative s.text ++ rest) = some (.number (signed negative s.text), rest) := by
  have hlength := unsignedLength_text h hrest
  obtain ⟨d, tail, htext, hd⟩ := h.head
  have hpos : s.text.length ≠ 0 := by simp [htext]
  cases negative with
  | false =>
    have hsign : ∀ x, x = '+' ∨ x = '-' → (s.text ++ rest).head? ≠ some x := by
      rintro x hx heq
      rw [htext] at heq
      cases heq
      rcases hx with rfl | rfl <;> cases hd
    show readNumber (s.text ++ rest) = some (.number s.text, rest)
    rw [readNumber, if_neg (not_or.2 ⟨hsign '+' (.inl rfl), hsign '-' (.inr rfl)⟩), List.drop_zero,
      hlength, Nat.zero_add]
    simp only [hpos, if_false]
    rw [List.take_left, List.drop_left]
  | true =>
    -- the sign is one character, and the digits are behind it
    have hdrop : ('-' :: s.text ++ rest).drop 1 = s.text ++ rest := rfl
    have hsign : ('-' :: s.text ++ rest).head? = some '-' := rfl
    show readNumber ('-' :: s.text ++ rest) = some (.number ('-' :: s.text), rest)
    rw [readNumber, hsign]
    simp only [or_true, if_true, hdrop, hlength, hpos, if_false]
    rw [List.cons_append, Nat.add_comm, List.take_succ_cons, List.drop_succ_cons, List.take_left,
      List.drop_left]

theorem signed_head (h : s.Proper) (negative : Bool) : ∃ c tail,
    signed negative s.text = c :: tail ∧ (c = '-' ∨ c.isDigit = true) := by
  cases negative with
  | false =>
    obtain ⟨d, tail, htext, hd⟩ := h.head
    exact ⟨d, tail, htext, .inr hd⟩
  | true => exact ⟨'-', s.text, rfl, .inl rfl⟩

end Numeral

theorem readSimple_of_ne (hdouble : c ≠ '"') (hsingle : c ≠ '\'') (hn : c ≠ 'n')
    (ht : c ≠ 't') (hf : c ≠ 'f') : readSimple (c :: tail) = readNumber (c :: tail) := by
  have hquoted : isQuoted (c :: tail) = false := by simp [isQuoted, hdouble, hsingle]
  have hnull : take? "null".toList (c :: tail) = none := if_neg hn
  have htrue : take? "true".toList (c :: tail) = none := if_neg ht
  have hfalse : take? "false".toList (c :: tail) = none := if_neg hf
  rw [readSimple, hquoted, hnull, htrue, hfalse]
  rfl

namespace Numeral

variable {s : Numeral}

theorem readSimple_signed (h : s.Proper) (hrest : EndsValue rest) (negative : Bool) :
    readSimple (signed negative s.text ++ rest) = some (.number (signed negative s.text), rest) := by
  have hread := readNumber_signed h hrest negative
  obtain ⟨c, tail, htext, hc⟩ := signed_head h negative
  rw [htext, List.cons_append] at hread ⊢
  have hne : ∀ x, x = '"' ∨ x = '\'' ∨ x = 'n' ∨ x = 't' ∨ x = 'f' → c ≠ x := by
    rintro x hx rfl
    rcases hc with rfl | hc
    · revert hx
      decide
    · rcases hx with rfl | rfl | rfl | rfl | rfl <;> cases hc
  rw [readSimple_of_ne (hne _ (.inl rfl)) (hne _ (.inr (.inl rfl)))
    (hne _ (.inr (.inr (.inl rfl)))) (hne _ (.inr (.inr (.inr (.inl rfl)))))
    (hne _ (.inr (.inr (.inr (.inr rfl)))))]
  exact hread

-- ---------------------------------------------------------------------------
-- The parts found again
-- ---------------------------------------------------------------------------

theorem mem_signed_text (h : s.Proper) {negative : Bool} (hc : c ∈ signed negative s.text) :
    c.isDigit = true ∨ c = '-' ∨ c = '+' ∨ (c = '.' ∧ s.fraction.isSome) ∨
      (c = 'e' ∧ s.exponent.isSome) := by
  rw [signed, text, List.mem_append, List.mem_append, List.mem_append] at hc
  rcases hc with hsign | hwhole | hpoint | hpower
  · -- the sign
    cases negative with
    | false => cases hsign
    | true => exact .inr (.inl (List.mem_singleton.1 hsign))
  · -- the digits before the point
    exact .inl (h.whole c hwhole)
  · -- the point and the digits behind it
    cases hfraction : s.fraction with
    | none =>
      rw [hfraction] at hpoint
      cases hpoint
    | some ds =>
      rw [hfraction] at hpoint
      rcases List.mem_cons.1 hpoint with rfl | hdigit
      · exact .inr (.inr (.inr (.inl ⟨rfl, rfl⟩)))
      · exact .inl (h.fraction ds hfraction c hdigit)
  · -- the exponent, with its mark and its sign
    cases hexponent : s.exponent with
    | none =>
      rw [hexponent] at hpower
      cases hpower
    | some e =>
      obtain ⟨minus, ds⟩ := e
      rw [hexponent] at hpower
      rcases List.mem_cons.1 hpower with rfl | hpower
      · exact .inr (.inr (.inr (.inr ⟨rfl, rfl⟩)))
      · rcases List.mem_cons.1 hpower with rfl | hdigit
        · cases minus
          · exact .inr (.inr (.inl rfl))
          · exact .inr (.inl rfl)
        · exact .inl ((h.exponent minus ds hexponent).2 c hdigit)

theorem not_unbounded_signed (h : s.Proper) (negative : Bool) :
    signed negative s.text ∉ unboundedNames := by
  intro hmem
  have hletter : ∀ name ∈ unboundedNames, 'N' ∈ name ∨ 'I' ∈ name := by decide
  rcases hletter _ hmem with hN | hI
  · rcases mem_signed_text h hN with hd | hc | hc | ⟨hc, -⟩ | ⟨hc, -⟩ <;> revert ‹_› <;> decide
  · rcases mem_signed_text h hI with hd | hc | hc | ⟨hc, -⟩ | ⟨hc, -⟩ <;> revert ‹_› <;> decide

theorem hexDigits?_signed (h : s.Proper) (negative : Bool) :
    hexDigits? (signed negative s.text) = none := by
  have hletter : ∀ c ∈ signed negative s.text, ¬ (c = 'x' ∨ c = 'X') := by
    rintro c hc (rfl | rfl) <;>
      rcases mem_signed_text h hc with hd | hc | hc | ⟨hc, -⟩ | ⟨hc, -⟩ <;> revert ‹_› <;> decide
  unfold hexDigits?
  split
  · rename_i heq
    exact if_neg (hletter _ (heq ▸ List.mem_cons_of_mem _ List.mem_cons_self))
  · rfl

/-- A numeral is written as a whole number if it has neither point nor exponent. -/
theorem isWhole_signed (h : s.Proper) (negative : Bool) :
    isWhole (signed negative s.text) = (s.fraction.isNone && s.exponent.isNone) := by
  -- a point and an e each come from their own part only
  have hpoint : (signed negative s.text).contains '.' = s.fraction.isSome := by
    rw [Bool.eq_iff_iff, List.contains_iff_mem]
    constructor
    · intro hmem
      rcases mem_signed_text h hmem with hd | hc | hc | ⟨-, hsome⟩ | ⟨hc, -⟩
      · cases hd
      · exact absurd hc (by decide)
      · exact absurd hc (by decide)
      · exact hsome
      · exact absurd hc (by decide)
    · intro hsome
      obtain ⟨ds, hds⟩ := Option.isSome_iff_exists.1 hsome
      rw [signed, text, hds]
      simp [pointText]
  have he : (signed negative s.text).contains 'e' = s.exponent.isSome := by
    rw [Bool.eq_iff_iff, List.contains_iff_mem]
    constructor
    · intro hmem
      rcases mem_signed_text h hmem with hd | hc | hc | ⟨hc, -⟩ | ⟨-, hsome⟩
      · cases hd
      · exact absurd hc (by decide)
      · exact absurd hc (by decide)
      · exact absurd hc (by decide)
      · exact hsome
    · intro hsome
      obtain ⟨⟨minus, ds⟩, hds⟩ := Option.isSome_iff_exists.1 hsome
      rw [signed, text, hds]
      simp [powerText]
  have hE : (signed negative s.text).contains 'E' = false := by
    rw [← Bool.not_eq_true, List.contains_iff_mem]
    intro hmem
    rcases mem_signed_text h hmem with hd | hc | hc | ⟨hc, -⟩ | ⟨hc, -⟩ <;> revert ‹_› <;> decide
  have hnamed : unboundedNames.contains (signed negative s.text) = false := by
    rw [← Bool.not_eq_true, List.contains_iff_mem]
    exact not_unbounded_signed h negative
  rw [isWhole, hpoint, he, hE, hnamed, hexDigits?_signed h negative]
  cases s.fraction <;> cases s.exponent <;> rfl

theorem splitSign_signed (h : s.Proper) (negative : Bool) :
    splitSign (signed negative s.text) = (negative, s.text) := by
  cases negative with
  | true => rfl
  | false =>
    -- a numeral begins with a digit, which is no sign
    obtain ⟨d, tail, htext, hd⟩ := h.head
    show splitSign s.text = _
    rw [htext]
    unfold splitSign
    split
    · rename_i heq
      cases heq
      cases hd
    · rename_i heq
      cases heq
      cases hd
    · rfl

/-- The value asks for the parts that were written. -/
theorem decimalParts?_text (h : s.Proper) :
    decimalParts? s.text = some (s.whole, s.fraction.getD [], power s.exponent) := by
  have hend : EndsDigits ([] : List Char) := fun c hc => by cases hc
  have hbehind : EndsDigits (powerText s.exponent) := by
    have := endsDigits_powerText hend s.exponent
    rwa [List.append_nil] at this
  have htake := takeWhile_digits h.whole (endsDigits_pointText hbehind s.fraction)
  have hsign : ∀ (minus : Bool) (ds : List Char),
      splitSign ((if minus then '-' else '+') :: ds) = (minus, ds) := by
    rintro (_ | _) ds <;> rfl
  have hexponentDigits : ∀ minus ds, s.exponent = some (minus, ds) →
      ds ≠ [] ∧ ds.all Char.isDigit = true := fun minus ds hds =>
    ⟨(h.exponent minus ds hds).1, List.all_eq_true.2 (h.exponent minus ds hds).2⟩
  -- the digits before the point end where the point or the exponent begins
  rw [decimalParts?, text, htake, List.drop_left]
  cases hfraction : s.fraction with
  | none =>
    cases hexponent : s.exponent with
    | none => rfl
    | some e =>
      obtain ⟨minus, ds⟩ := e
      obtain ⟨hne, hall⟩ := hexponentDigits minus ds hexponent
      simp [pointText, powerText, hsign, hne, hall, power]
  | some fs =>
    -- and so do those behind the point
    have hfraction' := takeWhile_digits (h.fraction fs hfraction) hbehind
    cases hexponent : s.exponent with
    | none =>
      rw [hexponent, powerText, List.append_nil] at hfraction'
      simp [pointText, powerText, power, hfraction']
    | some e =>
      obtain ⟨minus, ds⟩ := e
      obtain ⟨hne, hall⟩ := hexponentDigits minus ds hexponent
      rw [hexponent, powerText] at hfraction'
      simp [pointText, powerText, power, hfraction', hsign, hne, hall]

end Numeral

end Json5

end Flagpost
