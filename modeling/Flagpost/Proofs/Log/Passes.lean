import Flagpost.Proofs.Log.Redaction

/-!
# Flagpost — a pass of masking in general

The three passes of masking walk through a text alike: where the shape of the
pass begins, something is put in its place, and everywhere else one character is
kept (`Redaction.Pass`). Which place a walk has come to, with what put out, is a
relation of its own (`Redaction.Pass.Reaches`), so what holds of a walk is proved
once, for all three.

* `Redaction.Pass.exists_reaches` — a character of what is put out that is not from
  the middle of a replacement stands for a place of the text.
* `Redaction.Pass.exists_place`   — so does a run of characters that begins outside
  of all replacements and goes into none.

The shapes themselves are told by what they consist of: a credential and a
parameter are a head and a run of characters that does not go on behind it
(`Redaction.afterCredential?_eq_some_iff`, `Redaction.afterParameter?_eq_some_iff`),
a generated token is two runs of digits (`Redaction.afterToken?_eq_some_iff`).
-/

namespace Flagpost

namespace Redaction

variable {text rest behind lead front : List Char} {c : Char} {inWord : Bool}

-- ---------------------------------------------------------------------------
-- Digits
-- ---------------------------------------------------------------------------

theorem isAlphanum_of_isSmallDigit (h : Hex.isSmallDigit c = true) : c.isAlphanum = true := by
  delta Char.isAlphanum Char.isAlpha Char.isUpper Char.isLower Char.isDigit
  simp [Hex.isSmallDigit, Char.le_def, UInt32.le_iff_toNat_le] at *
  omega

theorem toNat_lt_of_isSmallDigit (h : Hex.isSmallDigit c = true) : c.toNat < 0x80 := by
  simp [Hex.isSmallDigit, Char.le_def, UInt32.le_iff_toNat_le] at h
  omega

theorem isWord_of_isSmallDigit (h : Hex.isSmallDigit c = true) : Unicode.isWord c = true := by
  rw [Unicode.isWord, if_pos (toNat_lt_of_isSmallDigit h), isAlphanum_of_isSmallDigit h,
    Bool.true_or]

theorem isCredentialChar_of_isSmallDigit (h : Hex.isSmallDigit c = true) :
    isCredentialChar c = true := by
  rw [isCredentialChar, isAlphanum_of_isSmallDigit h, Bool.true_or, Bool.true_or, Bool.true_or]

theorem isValueChar_of_isCredentialChar (h : isCredentialChar c = true) :
    isValueChar c = true := by
  have hamp : c ≠ '&' := by
    rintro rfl
    revert h
    decide
  have hquote : c ≠ '"' := by
    rintro rfl
    revert h
    decide
  simp [isValueChar, hamp, hquote, isBlank_of_isCredentialChar h]

-- ---------------------------------------------------------------------------
-- Shapes
-- ---------------------------------------------------------------------------

theorem after?_eq_some_iff {literal : List Char} :
    after? literal text = some rest ↔ text = literal ++ rest := by
  induction literal generalizing text with
  | nil => rw [after?, Option.some_inj, List.nil_append]
  | cons l literal ih =>
    cases text with
    | nil => simp [after?]
    | cons c text =>
      rw [after?, List.cons_append, List.cons_eq_cons]
      split
      · rename_i hc
        rw [ih, and_iff_right hc]
      · rename_i hc
        simp [hc]

theorem afterIgnoringCase?_eq_some_iff {literal : List Char} :
    afterIgnoringCase? literal text = some rest ↔
      ∃ head, text = head ++ rest ∧ head.map Char.toLower = literal := by
  induction literal generalizing text with
  | nil => simp [afterIgnoringCase?]
  | cons l literal ih =>
    cases text with
    | nil => simp [afterIgnoringCase?]
    | cons c text =>
      rw [afterIgnoringCase?]
      split
      · -- the first letter is that of the literal, and the rest decides
        rename_i hc
        rw [ih]
        constructor
        · rintro ⟨head, rfl, hhead⟩
          exact ⟨c :: head, rfl, by rw [List.map_cons, hc, hhead]⟩
        · rintro ⟨head, htext, hhead⟩
          obtain ⟨d, others, rfl, -, hothers⟩ := List.map_eq_cons_iff.1 hhead
          exact ⟨others, (List.cons.inj htext).2, hothers⟩
      · -- it is another letter
        rename_i hc
        constructor
        · intro h
          cases h
        · rintro ⟨head, htext, hhead⟩
          obtain ⟨d, others, rfl, hd, -⟩ := List.map_eq_cons_iff.1 hhead
          rw [(List.cons.inj htext).1] at hc
          exact absurd hd hc

/-- A run does not go on behind its end. -/
theorem takeWhile_dropWhile (p : Char → Bool) (text : List Char) :
    (text.dropWhile p).takeWhile p = [] := by
  rw [List.takeWhile_eq_nil_iff]
  intro hpos
  exact Bool.not_eq_true _ ▸ List.dropWhile_get_zero_not p text hpos

/-- What follows a head and the longest run behind it, if the run is told by its
first character, and if it is told as a whole. -/
theorem exists_run_iff {isHead : List Char → Prop} {p : Char → Bool} :
    (∃ head c tail, text = head ++ c :: tail ∧ isHead head ∧ p c = true ∧
      tail.dropWhile p = rest) ↔
    ∃ head run, text = head ++ (run ++ rest) ∧ isHead head ∧ run ≠ [] ∧
      (∀ c ∈ run, p c = true) ∧ rest.takeWhile p = [] := by
  constructor
  · rintro ⟨head, c, tail, rfl, hhead, hc, rfl⟩
    refine ⟨head, c :: tail.takeWhile p, ?_, hhead, List.cons_ne_nil _ _, ?_,
      takeWhile_dropWhile p tail⟩
    · rw [List.cons_append, List.takeWhile_append_dropWhile]
    · exact List.forall_mem_cons.2 ⟨hc, fun d hd => List.mem_takeWhile_imp hd⟩
  · rintro ⟨head, run, rfl, hhead, hne, hall, hrest⟩
    obtain ⟨c, run, rfl⟩ := List.exists_cons_of_ne_nil hne
    rw [List.forall_mem_cons] at hall
    refine ⟨head, c, run ++ rest, rfl, hhead, hall.1, ?_⟩
    rw [List.dropWhile_append_of_pos hall.2]
    have hsplit := List.takeWhile_append_dropWhile (p := p) (l := rest)
    rwa [hrest, List.nil_append] at hsplit

/-- A credential is the scheme in any case and a run of credential characters. -/
theorem afterCredential?_eq_some_iff : afterCredential? text = some rest ↔
    ∃ head c tail, text = head ++ c :: tail ∧ head.map Char.toLower = scheme ∧
      isCredentialChar c = true ∧ tail.dropWhile isCredentialChar = rest := by
  have hread : afterCredential? text = some rest ↔ ∃ c tail,
      afterIgnoringCase? scheme text = some (c :: tail) ∧ isCredentialChar c = true ∧
        tail.dropWhile isCredentialChar = rest := by
    rw [afterCredential?]
    -- the text ends in the scheme, or a character is behind it
    rcases afterIgnoringCase? scheme text with _ | _ | ⟨c, tail⟩
    · simp
    · simp
    · dsimp only
      split
      · rename_i hc
        simp [hc]
      · rename_i hc
        simp [hc]
  simp only [hread, afterIgnoringCase?_eq_some_iff]
  constructor
  · rintro ⟨c, tail, ⟨head, rfl, hhead⟩, hc, hrest⟩
    exact ⟨head, c, tail, rfl, hhead, hc, hrest⟩
  · rintro ⟨head, c, tail, rfl, hhead, hc, hrest⟩
    exact ⟨c, tail, ⟨head, rfl, hhead⟩, hc, hrest⟩

/-- A token parameter is its name and a run of value characters. -/
theorem afterParameter?_eq_some_iff : afterParameter? text = some rest ↔
    ∃ head c tail, text = head ++ c :: tail ∧ head = parameter ∧
      isValueChar c = true ∧ tail.dropWhile isValueChar = rest := by
  have hread : afterParameter? text = some rest ↔ ∃ c tail,
      after? parameter text = some (c :: tail) ∧ isValueChar c = true ∧
        tail.dropWhile isValueChar = rest := by
    rw [afterParameter?]
    -- the text ends in the name, or a character is behind it
    rcases after? parameter text with _ | _ | ⟨c, tail⟩
    · simp
    · simp
    · dsimp only
      split
      · rename_i hc
        simp [hc]
      · rename_i hc
        simp [hc]
  simp only [hread, after?_eq_some_iff]
  constructor
  · rintro ⟨c, tail, htext, hc, hrest⟩
    exact ⟨parameter, c, tail, htext, rfl, hc, hrest⟩
  · rintro ⟨_, c, tail, htext, rfl, hc, hrest⟩
    exact ⟨c, tail, htext, hc, hrest⟩

/-- The digits of a generated token: those of the clock, a hyphen, and thirty-two
more. -/
structure TokenDigits (time random : List Char) : Prop where
  long : 8 ≤ time.length
  length_eq : random.length = 32
  time_digits : ∀ c ∈ time, Hex.isSmallDigit c = true
  random_digits : ∀ c ∈ random, Hex.isSmallDigit c = true

/-- A character of a generated token. -/
def isTokenChar (c : Char) : Bool := Hex.isSmallDigit c || c == '-'

theorem TokenDigits.isTokenChar {time random : List Char} (h : TokenDigits time random)
    (hc : c ∈ time ++ '-' :: random) : isTokenChar c = true := by
  rw [Redaction.isTokenChar]
  rcases List.mem_append.1 hc with htime | hmore
  · rw [h.time_digits c htime, Bool.true_or]
  · rcases List.mem_cons.1 hmore with rfl | hrandom
    · rfl
    · rw [h.random_digits c hrandom, Bool.true_or]

theorem TokenDigits.random_ne_nil {time random : List Char} (h : TokenDigits time random) :
    random ≠ [] := by
  rintro rfl
  cases h.length_eq

/-- A generated token ends with a word. -/
theorem afterToken?_eq_some_iff : afterToken? text = some rest ↔
    ∃ time random, text = time ++ '-' :: (random ++ rest) ∧ TokenDigits time random ∧
      beginsWithWord rest = false := by
  rw [afterToken?]
  constructor
  · intro h
    split at h
    · -- eight digits or more, then a hyphen, then what is behind the other digits
      rename_i hlong
      split at h
      · rename_i tail htail
        split at h
        · rename_i hdigits
          cases h
          refine ⟨text.takeWhile Hex.isSmallDigit, tail.take 32, ?_, ⟨hlong, hdigits.1, ?_, ?_⟩, ?_⟩
          · rw [List.take_append_drop, ← htail, List.takeWhile_append_dropWhile]
          · exact fun c hc => List.mem_takeWhile_imp hc
          · exact List.all_eq_true.1 hdigits.2.1
          · simpa using hdigits.2.2
        · cases h
      · cases h
    · cases h
  · rintro ⟨time, random, rfl, htoken, hrest⟩
    have hhyphen : Hex.isSmallDigit '-' = false := by decide
    -- the hyphen is no digit, so the digits of the time end there
    have htake : (time ++ '-' :: (random ++ rest)).takeWhile Hex.isSmallDigit = time := by
      rw [List.takeWhile_append_of_pos htoken.time_digits,
        List.takeWhile_cons_of_neg (by simp [hhyphen]), List.append_nil]
    have hdrop : (time ++ '-' :: (random ++ rest)).dropWhile Hex.isSmallDigit =
        '-' :: (random ++ rest) := by
      rw [List.dropWhile_append_of_pos htoken.time_digits,
        List.dropWhile_cons_of_neg (by simp [hhyphen])]
    have hfront : (random ++ rest).take 32 = random := List.take_left' htoken.length_eq
    have hback : (random ++ rest).drop 32 = rest := List.drop_left' htoken.length_eq
    have hdigits : ((random ++ rest).take 32).length = 32 ∧
        ((random ++ rest).take 32).all Hex.isSmallDigit = true ∧
        (!beginsWithWord ((random ++ rest).drop 32)) = true := by
      rw [hfront, hback, hrest]
      exact ⟨htoken.length_eq, List.all_eq_true.2 htoken.random_digits, rfl⟩
    rw [htake, hdrop, if_pos htoken.long]
    exact (if_pos hdigits).trans (congrArg some hback)

-- ---------------------------------------------------------------------------
-- Passes
-- ---------------------------------------------------------------------------

/-- A walk through a text that puts something in the place of every text of some
shape. Whether the shape begins somewhere may depend on whether a word character
stands right before. -/
structure Pass where
  /-- What follows the shape at the start of a text. -/
  after? : Bool → List Char → Option (List Char)
  /-- The first character of what is put in the place of the shape. -/
  opening : Char
  /-- The other characters of what is put there. -/
  others : List Char
  /-- The text with everything of the shape replaced. -/
  apply : Bool → List Char → List Char
  exists_found : ∀ {inWord text rest}, after? inWord text = some rest →
    ∃ found, found ≠ [] ∧ text = found ++ rest
  apply_nil : ∀ inWord, apply inWord [] = []
  apply_of_some : ∀ {inWord text rest}, after? inWord text = some rest →
    apply inWord text = opening :: others ++ apply true rest
  apply_of_none : ∀ {inWord c rest}, after? inWord (c :: rest) = none →
    apply inWord (c :: rest) = c :: apply (Unicode.isWord c) rest

/-- The pass over the bearer credentials. -/
def credentials : Pass where
  after? _ := afterCredential?
  opening := '['
  others := "REDACTED]".toList
  apply _ := maskCredentials
  exists_found := by
    intro _ text rest h
    obtain ⟨head, run, htext, -, hne, -⟩ :=
      exists_run_iff.1 (afterCredential?_eq_some_iff.1 h)
    exact ⟨head ++ run, List.append_ne_nil_of_right_ne_nil head hne, by
      rw [htext, List.append_assoc]⟩
  apply_nil _ := maskCredentials_nil
  apply_of_some := maskCredentials_of_some
  apply_of_none := maskCredentials_of_none

/-- The pass over the token parameters. -/
def parameters : Pass where
  after? _ := afterParameter?
  opening := 't'
  others := "oken=".toList ++ mask
  apply _ := maskParameters
  exists_found := by
    intro _ text rest h
    obtain ⟨head, run, htext, -, hne, -⟩ :=
      exists_run_iff.1 (afterParameter?_eq_some_iff.1 h)
    exact ⟨head ++ run, List.append_ne_nil_of_right_ne_nil head hne, by
      rw [htext, List.append_assoc]⟩
  apply_nil _ := maskParameters_nil
  apply_of_some := maskParameters_of_some
  apply_of_none := maskParameters_of_none

theorem maskTokens_inWord (c : Char) (rest : List Char) :
    maskTokens true (c :: rest) = c :: maskTokens (Unicode.isWord c) rest := by
  rw [maskTokens, if_pos rfl]

/-- The pass over the generated tokens. -/
def tokens : Pass where
  after? inWord text := if inWord then none else afterToken? text
  opening := '['
  others := "REDACTED]".toList
  apply := maskTokens
  exists_found := by
    intro inWord text rest h
    cases inWord with
    | true => cases h
    | false =>
      obtain ⟨time, random, htext, -, -⟩ := afterToken?_eq_some_iff.1 h
      exact ⟨time ++ '-' :: random, by simp, by rw [htext]; simp⟩
  apply_nil := maskTokens_nil
  apply_of_some := by
    intro inWord text rest h
    cases inWord with
    | true => cases h
    | false =>
      cases text with
      | nil => cases h
      | cons c text => exact maskTokens_of_some h
  apply_of_none := by
    intro inWord c rest h
    cases inWord with
    | true => exact maskTokens_inWord c rest
    | false => exact maskTokens_of_none h false

/-- Masking is the three passes, one after the other. -/
theorem redact_eq_apply (text : List Char) : redact text =
    tokens.apply false (parameters.apply false (credentials.apply false text)) := rfl

-- ---------------------------------------------------------------------------
-- Walks
-- ---------------------------------------------------------------------------

/-- Does a word character stand right behind a text? If the text is empty, the
answer is that for what stands before it. -/
def endsInWord (inWord : Bool) (text : List Char) : Bool :=
  (text.getLast?.map Unicode.isWord).getD inWord

theorem endsInWord_cons (inWord : Bool) (c : Char) (text : List Char) :
    endsInWord inWord (c :: text) = endsInWord (Unicode.isWord c) text := by
  rw [endsInWord, endsInWord, List.getLast?_cons]
  cases text.getLast? <;> rfl

theorem endsInWord_append (inWord inWord' : Bool) (text : List Char) {more : List Char}
    (h : more ≠ []) : endsInWord inWord (text ++ more) = endsInWord inWord' more := by
  rw [endsInWord, endsInWord, List.getLast?_append, List.getLast?_eq_some_getLast h]
  rfl

theorem endsInWord_of_forall (h : ∀ c ∈ text, Unicode.isWord c = true) (hne : text ≠ [])
    (inWord : Bool) : endsInWord inWord text = true := by
  rw [endsInWord, List.getLast?_eq_some_getLast hne]
  exact h _ (List.getLast_mem hne)

theorem TokenDigits.endsInWord {time random : List Char} (h : TokenDigits time random)
    (inWord : Bool) : endsInWord inWord (time ++ '-' :: random) = true := by
  rw [List.append_cons, endsInWord_append inWord true _ h.random_ne_nil]
  exact endsInWord_of_forall (fun c hc => isWord_of_isSmallDigit (h.random_digits c hc))
    h.random_ne_nil true

namespace Pass

variable {P : Pass} {inWord' : Bool} {text' : List Char}

/-- A walk that began with `text` has put out `lead` when it has come to `text'`. -/
inductive Reaches (P : Pass) : Bool → List Char → List Char → Bool → List Char → Prop
  | here (inWord : Bool) (text : List Char) : Reaches P inWord text [] inWord text
  | keep {inWord inWord' : Bool} {c : Char} {rest lead text' : List Char} :
      P.after? inWord (c :: rest) = none →
      Reaches P (Unicode.isWord c) rest lead inWord' text' →
      Reaches P inWord (c :: rest) (c :: lead) inWord' text'
  | replace {inWord inWord' : Bool} {text rest lead text' : List Char} :
      P.after? inWord text = some rest → Reaches P true rest lead inWord' text' →
      Reaches P inWord text (P.opening :: P.others ++ lead) inWord' text'

theorem Reaches.of_nil (h : P.Reaches inWord text [] inWord' text') :
    inWord' = inWord ∧ text' = text := by
  cases h
  exact ⟨rfl, rfl⟩

theorem Reaches.suffix (h : P.Reaches inWord text lead inWord' text') :
    ∃ front, text = front ++ text' := by
  induction h with
  | here => exact ⟨[], rfl⟩
  | @keep _ _ c _ _ _ _ _ ih =>
    obtain ⟨front, rfl⟩ := ih
    exact ⟨c :: front, rfl⟩
  | replace hsome _ ih =>
    obtain ⟨front, rfl⟩ := ih
    obtain ⟨found, -, rfl⟩ := P.exists_found hsome
    exact ⟨found ++ front, (List.append_assoc ..).symm⟩

/-- A character that is put out and is not from the middle of a replacement
stands for a place of the text. -/
theorem exists_reaches (hc : c ∉ P.others) (h : P.apply inWord text = lead ++ c :: rest) :
    ∃ inWord' text', P.Reaches inWord text lead inWord' text' ∧
      P.apply inWord' text' = c :: rest := by
  induction hn : text.length using Nat.strong_induction_on generalizing inWord text lead with
  | h n ih =>
    cases lead with
    -- the character is the next one put out
    | nil => exact ⟨inWord, text, .here inWord text, h⟩
    | cons d lead =>
      cases hafter : P.after? inWord text with
      | some behind =>
        -- a replacement is put out first, and the character is not in the middle of it
        obtain ⟨found, hne, hfound⟩ := P.exists_found hafter
        have hlength : behind.length < n := by
          have hpos := List.length_pos_iff.2 hne
          rw [← hn, hfound, List.length_append]
          omega
        rw [P.apply_of_some hafter] at h
        obtain ⟨lead', hlead, hbehind⟩ : ∃ lead', d :: lead = P.opening :: P.others ++ lead' ∧
            P.apply true behind = lead' ++ c :: rest := by
          rcases List.append_eq_append_iff.1 h with ⟨lead', hlead, hbehind⟩ | ⟨back, hshown, hback⟩
          · exact ⟨lead', hlead, hbehind⟩
          · -- the replacement ends where the character begins, or it would hold the character
            cases back with
            | nil => exact ⟨[], by rw [hshown, List.append_nil, List.append_nil], hback.symm⟩
            | cons e back =>
              have hothers : P.others = lead ++ e :: back := (List.cons.inj hshown).2
              rw [hothers, (List.cons.inj hback).1] at hc
              exact absurd (List.mem_append_right _ List.mem_cons_self) hc
        obtain ⟨inWord', text', hreaches, happly⟩ := ih _ hlength hbehind rfl
        exact ⟨inWord', text', hlead ▸ .replace hafter hreaches, happly⟩
      | none =>
        -- the text is put out up to here as it is
        cases text with
        | nil =>
          rw [P.apply_nil] at h
          cases h
        | cons e text =>
          rw [P.apply_of_none hafter, List.cons_append, List.cons_eq_cons] at h
          have hlength : text.length < n := by
            rw [← hn, List.length_cons]
            omega
          obtain ⟨inWord', text', hreaches, happly⟩ := ih _ hlength h.2 rfl
          exact ⟨inWord', text', h.1 ▸ .keep hafter hreaches, happly⟩

/-- What begins no replacement stood in the text as it is. -/
theorem exists_behind {kept : List Char} (hkept : P.opening ∉ kept)
    (h : P.apply inWord text = kept ++ rest) :
    ∃ behind, text = kept ++ behind ∧ rest = P.apply (endsInWord inWord kept) behind := by
  induction kept generalizing inWord text with
  | nil => exact ⟨text, rfl, h.symm⟩
  | cons d kept ih =>
    rw [List.mem_cons, not_or] at hkept
    cases hafter : P.after? inWord text with
    -- a replacement would begin here
    | some behind =>
      rw [P.apply_of_some hafter] at h
      exact absurd (List.cons.inj h).1 hkept.1
    -- the first character is kept
    | none =>
      cases text with
      | nil =>
        rw [P.apply_nil] at h
        cases h
      | cons e text =>
        rw [P.apply_of_none hafter, List.cons_append, List.cons_eq_cons] at h
        obtain ⟨behind, rfl, hbehind⟩ := ih hkept.2 (h.1 ▸ h.2)
        exact ⟨behind, by rw [h.1, List.cons_append], by rw [hbehind, endsInWord_cons]⟩

/-- So does what begins outside of all replacements, and the shape did not begin
there. -/
theorem exists_place {kept : List Char} (hfirst : c ∉ P.others) (hkept : P.opening ∉ c :: kept)
    (h : P.apply inWord text = lead ++ (c :: kept ++ rest)) :
    ∃ inWord' behind, P.Reaches inWord text lead inWord' (c :: kept ++ behind) ∧
      P.after? inWord' (c :: kept ++ behind) = none ∧
      rest = P.apply (endsInWord inWord' (c :: kept)) behind := by
  obtain ⟨inWord', text', hreaches, happly⟩ := exists_reaches hfirst h
  obtain ⟨behind, rfl, hrest⟩ := exists_behind hkept happly
  refine ⟨inWord', behind, hreaches, ?_, hrest⟩
  cases hafter : P.after? inWord' (c :: kept ++ behind) with
  | none => rfl
  | some more =>
    rw [P.apply_of_some hafter] at happly
    exact absurd ((List.cons.inj happly).1 ▸ List.mem_cons_self) hkept

/-- A character that is in no replacement stood in the text. -/
theorem mem_of_mem_apply (hothers : c ∉ P.others) (hopening : P.opening ≠ c)
    (h : c ∈ P.apply inWord text) : c ∈ text := by
  obtain ⟨lead, rest, hplace⟩ := List.append_of_mem h
  obtain ⟨inWord', text', hreaches, happly⟩ := exists_reaches hothers hplace
  have hkept : P.opening ∉ [c] := fun hmem => hopening (List.mem_singleton.1 hmem)
  obtain ⟨behind, rfl, -⟩ := exists_behind hkept happly
  obtain ⟨front, rfl⟩ := hreaches.suffix
  simp

/-- Where the shape does not begin anywhere, the text stays as it is. -/
theorem apply_eq_self (h : ∀ lead text', text = lead ++ text' →
    P.after? (endsInWord inWord lead) text' = none) : P.apply inWord text = text := by
  induction text generalizing inWord with
  | nil => exact P.apply_nil inWord
  | cons c text ih =>
    have hnone : P.after? inWord (c :: text) = none := h [] (c :: text) rfl
    rw [P.apply_of_none hnone]
    refine congrArg (c :: ·) (ih fun lead text' htext => ?_)
    rw [← endsInWord_cons inWord]
    exact h (c :: lead) text' (congrArg (c :: ·) htext)

/-- A run of characters does not go on in what is put out either, if the shape
begins with one of them. -/
theorem takeWhile_apply {p : Char → Bool}
    (hfirst : ∀ {inWord c rest}, p c = false → P.after? inWord (c :: rest) = none)
    (h : text.takeWhile p = []) : (P.apply inWord text).takeWhile p = [] := by
  cases text with
  | nil => rw [P.apply_nil, List.takeWhile_nil]
  | cons c rest =>
    have hc : p c = false := by
      by_contra hc
      rw [List.takeWhile_cons_of_pos (by simpa using hc)] at h
      cases h
    rw [P.apply_of_none (hfirst hc), List.takeWhile_cons_of_neg (by simp [hc])]

end Pass

end Redaction

end Flagpost
