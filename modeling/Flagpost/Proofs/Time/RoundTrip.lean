import Flagpost.Proofs.Except
import Flagpost.Proofs.Text.Digits
import Flagpost.Proofs.Time.Order
import Flagpost.Time.Reader
import Mathlib.Data.List.Basic

/-!
# Flagpost — timestamps read back

The reader of timestamps is far more lenient than the writer, but on what the
writer produces it gives back exactly the timestamp that was written: any
year that can be written, leap seconds and all nine digits of the fraction.

The writer pads every part, so each of them is a run of digits that ends where
a separator begins. `readDigits_append` is the one fact about such runs that
every part of the proof uses.

## Results

* `read_text`         — reading a written timestamp gives the timestamp.
* `read_textAt`       — so does reading what a clock shows that is not in UTC.
* `read_textToSecond` — without the fraction, it gives the whole second.
-/

namespace Flagpost.Timestamp

-- ---------------------------------------------------------------------------
-- Runs of digits
-- ---------------------------------------------------------------------------

/-- What follows a run of digits ends it. -/
def EndsDigits (rest : List Char) : Prop := ∀ c, rest.head? = some c → c.isDigit = false

theorem endsDigits_cons {c : Char} {rest : List Char} (h : c.isDigit = false) :
    EndsDigits (c :: rest) := by
  intro d hd
  rw [List.head?_cons, Option.some.injEq] at hd
  exact hd ▸ h

theorem takeWhile_isDigit_append {digits rest : List Char}
    (hd : ∀ c ∈ digits, c.isDigit = true) (hr : EndsDigits rest) :
    (digits ++ rest).takeWhile Char.isDigit = digits := by
  rw [List.takeWhile_append_of_pos hd]
  cases rest with
  | nil => simp
  | cons c rest => simp [hr c rfl]

/-- A run of digits that is not too long is read as a whole, if what follows
ends it or the run is as long as it may be. -/
theorem readDigits_append {most : Nat} {digits rest : List Char} (hne : digits ≠ [])
    (hd : ∀ c ∈ digits, c.isDigit = true) (hm : digits.length ≤ most)
    (hr : EndsDigits rest ∨ digits.length = most) :
    readDigits most (digits ++ rest) = .ok (digits, rest) := by
  obtain ⟨c, ds, rfl⟩ := List.exists_cons_of_ne_nil hne
  have hc : c.isDigit = true := hd c List.mem_cons_self
  have htaken : (((c :: ds) ++ rest).take most).takeWhile Char.isDigit = c :: ds := by
    rw [List.take_append, List.take_of_length_le hm]
    -- what follows ends the run
    rcases hr with hr | hr
    · apply takeWhile_isDigit_append hd
      intro d hd'
      cases rest with
      | nil => simp at hd'
      | cons e rest =>
        cases hk : most - (c :: ds).length with
        | zero => rw [hk] at hd'; simp at hd'
        | succ k =>
          rw [hk, List.take_succ_cons, List.head?_cons] at hd'
          exact hr d hd'
    · -- the run is as long as it may be, so nothing behind it is looked at
      rw [hr, Nat.sub_self, List.take_zero]
      exact takeWhile_isDigit_append hd (by simp [EndsDigits])
  simp only [readDigits, List.cons_append, hc, Bool.not_true, Bool.false_eq_true, if_false]
  rw [List.cons_append] at htaken
  rw [htaken, ← List.cons_append, List.drop_left]

/-- The padded digits of a number of a fixed width are read back. -/
theorem readDigits_padded {width n : Nat} (rest : List Char) (hw : 0 < width)
    (h : n < 10 ^ width) :
    readDigits width (Decimal.padded width n ++ rest) = .ok (Decimal.padded width n, rest) := by
  have hl := Decimal.length_padded hw h
  exact readDigits_append (Decimal.padded_ne_nil width n)
    (fun c hc => Decimal.isDigit_of_mem_padded hc) (Nat.le_of_eq hl) (.inr hl)

theorem isBlank_of_isDigit {c : Char} (h : c.isDigit = true) : isBlank c = false := by
  simp only [Char.isDigit, Bool.and_eq_true, decide_eq_true_eq, ge_iff_le, UInt32.le_iff_toNat_le]
    at h
  have h₁ : 48 ≤ c.toNat := h.1
  have h₂ : c.toNat ≤ 57 := h.2
  simp only [isBlank, Bool.or_eq_false_iff, Bool.and_eq_false_iff, decide_eq_false_iff_not,
    beq_eq_false_iff_ne]
  omega

theorem trimStart_cons {c : Char} (rest : List Char) (h : isBlank c = false) :
    Blank.trimStart (c :: rest) = c :: rest := by
  simp [Blank.trimStart, h]

theorem trimStart_padded (width n : Nat) (rest : List Char) :
    Blank.trimStart (Decimal.padded width n ++ rest) = Decimal.padded width n ++ rest := by
  obtain ⟨c, ds, hcd, hc⟩ := Decimal.exists_isDigit_cons_padded width n
  rw [hcd, List.cons_append, trimStart_cons _ (isBlank_of_isDigit hc)]

-- ---------------------------------------------------------------------------
-- The parts of a timestamp
-- ---------------------------------------------------------------------------

theorem readNumber_padded {least greatest n : Nat} (rest : List Char) (hl : least ≤ n)
    (hg : n ≤ greatest) (h : n < 100) :
    readNumber least greatest (Decimal.padded 2 n ++ rest) = .ok (n, rest) := by
  rw [readNumber, trimStart_padded, readDigits_padded rest (by decide) h, ok_bind]
  simp only [Decimal.valueOf_padded, hl, hg, and_self, if_true]

theorem readSeparator_cons {c : Char} (rest : List Char) (h : isBlank c = false) :
    readSeparator c (c :: rest) = .ok rest := by
  rw [readSeparator, trimStart_cons rest h]
  simp

/-- Digits that do not fill their field are read up to the separator. -/
theorem readDigits_signed (n : Nat) (rest : List Char) :
    readDigits (Decimal.padded 4 n ++ '-' :: rest).length (Decimal.padded 4 n ++ '-' :: rest) =
      .ok (Decimal.padded 4 n, '-' :: rest) := by
  refine readDigits_append (Decimal.padded_ne_nil 4 n)
    (fun c hc => Decimal.isDigit_of_mem_padded hc) ?_ (.inl (endsDigits_cons (by decide)))
  rw [List.length_append]
  omega

/-- A year is read as it was written: with a sign, any number of digits; without
one, four. -/
theorem readYear_yearText {year : Int} (rest : List Char) (hl : Date.firstYear ≤ year)
    (hg : year ≤ Date.lastYear) :
    readYear (Date.yearText year ++ '-' :: rest) = .ok (year, '-' :: rest) := by
  have hbound : -yearBound - 1 ≤ year ∧ year ≤ yearBound := by
    unfold Date.firstYear at hl
    unfold Date.lastYear at hg
    unfold yearBound
    omega
  unfold Date.yearText
  by_cases hshort : 0 ≤ year ∧ year ≤ 9999
  · have hn : year.natAbs < 10 ^ 4 := by omega
    obtain ⟨c, ds, hcd, hc⟩ := Decimal.exists_isDigit_cons_padded 4 year.natAbs
    have hread := readDigits_padded ('-' :: rest) (by decide) hn
    have hvalue := Decimal.valueOf_padded 4 year.natAbs
    rw [if_pos hshort, readYear, trimStart_padded]
    rw [hcd] at hread hvalue ⊢
    rw [List.cons_append] at hread ⊢
    -- a digit is no sign
    split
    · rename_i heq
      rw [(List.cons.inj heq).1] at hc
      exact absurd hc (by decide)
    · rename_i heq
      rw [(List.cons.inj heq).1] at hc
      exact absurd hc (by decide)
    · rw [hread, ok_bind]
      simp only [pure, Except.pure, ok_bind, hvalue]
      rw [Int.natAbs_of_nonneg hshort.1, if_pos hbound]
  · rw [if_neg hshort, readYear]
    by_cases hneg : year < 0
    · rw [if_pos hneg, List.cons_append, trimStart_cons _ (by decide)]
      simp only [readDigits_signed, pure, Except.pure, ok_bind, Decimal.valueOf_padded]
      rw [show -(year.natAbs : Int) = year by omega, if_pos hbound]
    · rw [if_neg hneg, List.cons_append, trimStart_cons _ (by decide)]
      simp only [readDigits_signed, pure, Except.pure, ok_bind, Decimal.valueOf_padded]
      rw [show (year.natAbs : Int) = year by omega, if_pos hbound]

/-- What follows the seconds of a time and is no fraction. -/
structure EndsSecond (rest : List Char) : Prop where
  endsDigits : EndsDigits rest
  no_point : rest.head? ≠ some '.'

theorem EndsSecond.cons {c : Char} {rest : List Char} (hdigit : c.isDigit = false)
    (hpoint : c ≠ '.') : EndsSecond (c :: rest) where
  endsDigits := endsDigits_cons hdigit
  no_point h := hpoint (Option.some.inj h)

theorem EndsSecond.dropWhile_eq {rest : List Char} (h : EndsSecond rest) :
    rest.dropWhile Char.isDigit = rest := by
  cases rest with
  | nil => rfl
  | cons c rest => rw [List.dropWhile_cons_of_neg (by simp [h.endsDigits c rfl])]

theorem readFraction_none {rest : List Char} (h : EndsSecond rest) :
    readFraction rest = .ok (0, rest) := by
  rw [readFraction]
  rintro behind rfl
  exact h.no_point rfl

/-- A fraction of up to nine digits is read in nanoseconds. -/
theorem readFraction_padded {width n : Nat} {rest : List Char} (hr : EndsSecond rest)
    (hw : 0 < width) (hm : width ≤ 9) (h : n < 10 ^ width) :
    readFraction ('.' :: Decimal.padded width n ++ rest) =
      .ok (n * 10 ^ (9 - width), rest) := by
  have hl := Decimal.length_padded hw h
  have hread : readDigits 9 (Decimal.padded width n ++ rest) =
      .ok (Decimal.padded width n, rest) :=
    readDigits_append (Decimal.padded_ne_nil width n)
      (fun c hc => Decimal.isDigit_of_mem_padded hc) (by omega) (.inl hr.endsDigits)
  rw [List.cons_append, readFraction, hread, ok_bind]
  simp only [pure, Except.pure, Decimal.valueOf_padded, hl, hr.dropWhile_eq]
  rfl

theorem readFraction_fractionText (t : Timestamp) {rest : List Char} (hr : EndsSecond rest) :
    readFraction (t.fractionText ++ rest) = .ok (t.nano % 1000000000, rest) := by
  unfold fractionText
  by_cases h₀ : t.nano % 1000000000 = 0
  · -- no fraction
    simp only [h₀, if_true, List.nil_append]
    exact readFraction_none hr
  · simp only [h₀, if_false]
    by_cases h₃ : t.nano % 1000000000 % 1000000 = 0
    · -- milliseconds
      rw [if_pos h₃, readFraction_padded hr (by decide) (by decide) (by omega)]
      congr 2
      omega
    · rw [if_neg h₃]
      by_cases h₆ : t.nano % 1000000000 % 1000 = 0
      · -- microseconds
        rw [if_pos h₆, readFraction_padded hr (by decide) (by decide) (by omega)]
        congr 2
        omega
      · -- nanoseconds
        rw [if_neg h₆, readFraction_padded hr (by decide) (by decide) (by omega)]
        congr 2
        omega

-- ---------------------------------------------------------------------------
-- Offsets
-- ---------------------------------------------------------------------------

/-- What stands behind the time on a clock that is hours and minutes ahead of UTC,
or behind it. -/
def zoneText (behind : Bool) (hours minutes : Nat) : List Char :=
  (if behind then '-' else '+') :: Decimal.padded 2 hours ++ ':' :: Decimal.padded 2 minutes

/-- How many seconds such a clock is ahead of UTC. -/
def zoneOffset (behind : Bool) (hours minutes : Nat) : Int :=
  let seconds := hours * 3600 + minutes * 60
  if behind then -(seconds : Int) else seconds

/-- A number of two digits. -/
theorem padded_two {n : Nat} (h : n < 100) :
    ∃ a b, Decimal.padded 2 n = [a, b] ∧ a.isDigit = true ∧ b.isDigit = true ∧
      Decimal.valueOf [a, b] = n := by
  obtain ⟨a, b, hab⟩ := List.length_eq_two.1 (Decimal.length_padded (by decide) h)
  have hdigit : ∀ c ∈ [a, b], c.isDigit = true :=
    hab ▸ fun c hc => Decimal.isDigit_of_mem_padded hc
  have hvalue := Decimal.valueOf_padded 2 n
  rw [hab] at hvalue
  exact ⟨a, b, hab, hdigit a (by simp), hdigit b (by simp), hvalue⟩

theorem readHoursMinutes_padded {hours minutes : Nat} (hh : hours < 100) (hm : minutes < 60) :
    readHoursMinutes (Decimal.padded 2 hours ++ ':' :: Decimal.padded 2 minutes) =
      .ok (hours * 3600 + minutes * 60, []) := by
  obtain ⟨h₁, h₂, hhours, hh₁, hh₂, hhvalue⟩ := padded_two hh
  obtain ⟨m₁, m₂, hminutes, hm₁, hm₂, hmvalue⟩ := padded_two (by omega : minutes < 100)
  have hcolon : ([':', m₁, m₂].dropWhile fun c => c == ':' || isBlank c) = [m₁, m₂] := by
    have hne : m₁ ≠ ':' := by
      rintro rfl
      cases hm₁
    simp [hne, isBlank_of_isDigit hm₁]
  -- minutes of sixty or more would begin with a six
  have hfirst : ¬ '5' < m₁ := by
    intro hlt
    have hcode : 53 < m₁.toNat := UInt32.lt_iff_toNat_lt.1 hlt
    have hsum : Decimal.valueOf [m₁, m₂] = (m₁.toNat - 48) * 10 + (m₂.toNat - 48) := by
      simp [Decimal.valueOf, Decimal.value]
    omega
  rw [hhours, hminutes]
  simp [readHoursMinutes, readTwoDigits, ok_bind, hh₁, hh₂, hm₁, hm₂, hcolon, hfirst, hhvalue,
    hmvalue]
  rfl

theorem readOffset_zoneText (behind : Bool) {hours minutes : Nat} (hh : hours < 100)
    (hm : minutes < 60) :
    readOffset (Blank.trimStart (zoneText behind hours minutes)) =
      .ok (zoneOffset behind hours minutes, []) := by
  have hread := readHoursMinutes_padded hh hm
  -- no sign begins the name of a zone
  have hutc : ∀ c ∈ ['+', '-'], ∀ text : List Char,
      (((c :: text).take 3).map Char.toUpper == ['U', 'T', 'C']) = false := by
    simp
  cases behind with
  | false =>
    have htext : Blank.trimStart (zoneText false hours minutes) =
        '+' :: (Decimal.padded 2 hours ++ ':' :: Decimal.padded 2 minutes) :=
      trimStart_cons _ (by decide)
    rw [htext, readOffset]
    simp only [hutc '+' (by decide), hread, ok_bind]
    rfl
  | true =>
    have htext : Blank.trimStart (zoneText true hours minutes) =
        '-' :: (Decimal.padded 2 hours ++ ':' :: Decimal.padded 2 minutes) :=
      trimStart_cons _ (by decide)
    rw [htext, readOffset]
    simp only [hutc '-' (by decide), hread, ok_bind]
    rfl

-- ---------------------------------------------------------------------------
-- Whole timestamps
-- ---------------------------------------------------------------------------

theorem orElseError_some {α : Type} (e : TimestampError) (a : α) :
    orElseError e (some a) = .ok a := rfl

theorem date_of?_self (d : Date) : Date.of? d.year d.month d.day = some d := by
  rw [Date.of?, dif_pos d.exists_]

theorem of?_self (t : Timestamp) : of? t.date t.second t.nano = some t := by
  rw [of?, dif_pos ⟨t.second_lt, t.nano_lt, t.leap⟩]

theorem atOffset?_zero (t : Timestamp) : t.atOffset? 0 = some t := by
  have hs := t.second_lt
  unfold atOffset?
  simp only [Int.sub_zero, Int.toNat_natCast, of?_self]
  rw [if_neg (by omega), if_pos (by omega)]

/-- The timestamp at the start of the second. A leap second stays one. -/
def toWholeSecond (t : Timestamp) : Timestamp where
  date := t.date
  second := t.second
  nano := t.nano / 1000000000 * 1000000000
  second_lt := t.second_lt
  nano_lt := by have := t.nano_lt; omega
  leap h := t.leap (by omega)

/-- The clock as it is written gives back the second and, for a leap second, its
nanoseconds. -/
theorem of?_written (t u : Timestamp) (hd : u.date = t.date) (hs : u.second = t.second)
    (hleap : u.nano / 1000000000 = t.nano / 1000000000) :
    (if t.second % 60 + t.nano / 1000000000 = 60 then
        of? t.date (t.second / 3600 * 3600 + t.second / 60 % 60 * 60 + 59)
          (1000000000 + u.nano % 1000000000)
      else of? t.date (t.second / 3600 * 3600 + t.second / 60 % 60 * 60 +
        (t.second % 60 + t.nano / 1000000000)) (u.nano % 1000000000)) = some u := by
  have hsec := t.second_lt
  have hnano := u.nano_lt
  have hleap' := u.leap
  rw [hs] at hleap'
  by_cases h : t.second % 60 + t.nano / 1000000000 = 60
  · have hn : 1000000000 + u.nano % 1000000000 = u.nano := by omega
    have hm : t.second / 3600 * 3600 + t.second / 60 % 60 * 60 + 59 = u.second := by omega
    rw [if_pos h, hn, hm, ← hd, of?_self]
  · have hn : u.nano % 1000000000 = u.nano := by omega
    have hm : t.second / 3600 * 3600 + t.second / 60 % 60 * 60 +
        (t.second % 60 + t.nano / 1000000000) = u.second := by omega
    rw [if_neg h, hn, hm, ← hd, of?_self]

/-- Reading a time whose fraction is written in any way at all, on a clock that may be
ahead of UTC, gives the second that was written and the fraction that was read, in
UTC. -/
theorem readChars_written (t u : Timestamp) (fractionText zone : List Char) {offset : Int}
    (hd : u.date = t.date) (hs : u.second = t.second)
    (hleap : u.nano / 1000000000 = t.nano / 1000000000)
    (hf : readFraction (fractionText ++ zone) = .ok (u.nano % 1000000000, zone))
    (hz : readOffset (Blank.trimStart zone) = .ok (offset, [])) (hday : offset.natAbs < 86400) :
    readChars (t.date.text ++ 'T' :: t.clockText ++ fractionText ++ zone) =
      orElseError .impossible (u.atOffset? offset) := by
  obtain ⟨hyl, hyg, hml, hmg, hdl, -⟩ := t.date.exists_
  have hdg := t.date.day_le
  have hsec := t.second_lt
  have hnano := t.nano_lt
  have htleap := t.leap
  have hshown := of?_written t u hd hs hleap
  -- each part with all that is behind it, as the readers of the parts want it
  have htext : t.date.text ++ 'T' :: t.clockText ++ fractionText ++ zone =
      Date.yearText t.date.year ++ '-' :: (Decimal.padded 2 t.date.month ++ '-' ::
        (Decimal.padded 2 t.date.day ++ 'T' :: (Decimal.padded 2 (t.second / 3600) ++ ':' ::
          (Decimal.padded 2 (t.second / 60 % 60) ++ ':' ::
            (Decimal.padded 2 (t.second % 60 + t.nano / 1000000000) ++
              (fractionText ++ zone)))))) := by
    simp [Date.text, clockText]
  rw [htext, readChars, readYear_yearText _ hyl hyg]
  simp only [ok_bind]
  rw [readSeparator_cons _ (by decide), ok_bind, readNumber_padded _ hml hmg (by omega), ok_bind,
    readSeparator_cons _ (by decide), ok_bind, readNumber_padded _ hdl hdg (by omega), ok_bind]
  -- behind the day, the clock
  simp only [true_or, if_true, pure, Except.pure, ok_bind]
  rw [readNumber_padded _ (Nat.zero_le _) (by omega) (by omega), ok_bind,
    readSeparator_cons _ (by decide), ok_bind,
    readNumber_padded _ (Nat.zero_le _) (by omega) (by omega), ok_bind,
    readSeparator_cons _ (by decide), ok_bind,
    readNumber_padded _ (Nat.zero_le _) (by omega) (by omega), ok_bind, hf]
  -- behind the fraction, the offset and nothing else
  simp only [ok_bind]
  rw [hz, ok_bind]
  simp only [show (Blank.trimStart []).isEmpty = true from rfl, Bool.not_true, Bool.false_eq_true,
    if_false]
  rw [date_of?_self, orElseError_some, ok_bind, hshown, orElseError_some, ok_bind]
  simp only [Nat.not_le.2 hday, if_false]

/-- What is written in UTC needs no offset. -/
theorem readChars_utc (t u : Timestamp) (fractionText : List Char) (hd : u.date = t.date)
    (hs : u.second = t.second) (hleap : u.nano / 1000000000 = t.nano / 1000000000)
    (hf : readFraction (fractionText ++ ['Z']) = .ok (u.nano % 1000000000, ['Z'])) :
    readChars (t.date.text ++ 'T' :: t.clockText ++ fractionText ++ ['Z']) = .ok u := by
  have hzone : readOffset (Blank.trimStart ['Z']) = .ok (0, []) := rfl
  rw [readChars_written t u fractionText ['Z'] hd hs hleap hf hzone (by decide), atOffset?_zero,
    orElseError_some]

/-- **Timestamps read back.** Reading a written timestamp gives the timestamp,
to the last nanosecond. -/
theorem read_text (t : Timestamp) : read t.text = .ok t := by
  have hf := readFraction_fractionText t (.cons (by decide) (by decide) : EndsSecond ['Z'])
  rw [read, text, String.toList_ofList, chars]
  exact readChars_utc t t _ rfl rfl rfl hf

/-- What a clock shows that is hours and minutes ahead of UTC, or behind it. -/
def textAt (t : Timestamp) (behind : Bool) (hours minutes : Nat) : String :=
  String.ofList (t.date.text ++ 'T' :: t.clockText ++ t.fractionText ++
    zoneText behind hours minutes)

/-- Reading what a clock shows gives the time in UTC. -/
theorem read_textAt {shown t : Timestamp} {behind : Bool} {hours minutes : Nat}
    (hh : hours < 24) (hm : minutes < 60)
    (h : shown.atOffset? (zoneOffset behind hours minutes) = some t) :
    read (shown.textAt behind hours minutes) = .ok t := by
  have hends : EndsSecond (zoneText behind hours minutes) := by
    cases behind with
    | false => exact .cons (by decide) (by decide)
    | true => exact .cons (by decide) (by decide)
  have hday : (zoneOffset behind hours minutes).natAbs < 86400 := by
    simp only [zoneOffset]
    split <;> omega
  have hzone := readOffset_zoneText behind (by omega : hours < 100) hm
  have hf := readFraction_fractionText shown hends
  rw [read, textAt, String.toList_ofList,
    readChars_written shown shown _ _ rfl rfl rfl hf hzone hday, h, orElseError_some]

/-- Reading a timestamp that was written without its fraction gives the start
of the second. -/
theorem read_textToSecond (t : Timestamp) : read t.textToSecond = .ok t.toWholeSecond := by
  have hf : readFraction ([] ++ ['Z']) = .ok (t.toWholeSecond.nano % 1000000000, ['Z']) := by
    rw [show t.toWholeSecond.nano % 1000000000 = 0 from Nat.mul_mod_left _ _]
    rfl
  have h := readChars_utc t t.toWholeSecond [] rfl rfl
    (Nat.mul_div_left (t.nano / 1000000000) (by decide)) hf
  rw [List.append_nil] at h
  rw [read, textToSecond, String.toList_ofList, ← h]

theorem newline_not_mem_padded (width n : Nat) : '\n' ∉ Decimal.padded width n :=
  fun h => absurd (Decimal.isDigit_of_mem_padded h) (by decide)

/-- A timestamp is written on one line. -/
theorem newline_not_mem_textToSecond (t : Timestamp) : '\n' ∉ t.textToSecond.toList := by
  have hyear : '\n' ∉ Date.yearText t.date.year := by
    rw [Date.yearText]
    split
    · exact newline_not_mem_padded _ _
    · split <;> simp [newline_not_mem_padded]
  rw [textToSecond, String.toList_ofList, Date.text, clockText]
  simp [hyear, newline_not_mem_padded]

end Flagpost.Timestamp
