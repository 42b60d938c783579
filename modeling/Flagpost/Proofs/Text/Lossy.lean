import Flagpost.Proofs.Text.Bytes

/-!
# Flagpost — reading any bytes, byte by byte

The bytes of a text are read as that text: each character is taken off the front
again, whatever follows it.

A byte below `0x80` is a character of its own, also in bytes that are no text:
no character and no malformed piece reaches across it. So bytes can be cut at
such a byte, at a newline for one, and the parts read each for itself.

* `takeFirst_append` — what is taken off the front ends before such a byte.
* `lossy_append`     — the reading of the whole is that of the parts.
* `mem_of_mem_lossy` — such a character is read only where its byte is.
* `lossyText_encode` — text that is not damaged is read as it was written.
-/

namespace Flagpost.Utf8

variable {b : UInt8}

theorem isContinuation_of_lt (hb : b < 0x80) : isContinuation b = false := by
  have hlow : ¬ 0x80 ≤ b := UInt8.not_le.2 hb
  simp [isContinuation, hlow]

theorem allowsSecond_of_lt (hb : b < 0x80) (lead : UInt8) : allowsSecond lead b = false := by
  have hn : b.toNat < 0x80 := UInt8.lt_iff_toNat_lt.1 hb
  have hlow : ∀ least : UInt8, 0x80 ≤ least.toNat → decide (least ≤ b) = false := by
    intro least hleast
    rw [decide_eq_false_iff_not, UInt8.le_iff_toNat_le]
    omega
  rw [allowsSecond, isContinuation_of_lt hb]
  -- every range of second bytes begins at `0x80` or above
  split
  · simp [hlow 0xA0 (by decide)]
  split
  · simp [hlow 0x80 (by decide)]
  split
  · simp [hlow 0x90 (by decide)]
  split
  · simp [hlow 0x80 (by decide)]
  · rfl

/-- What is taken off the front does not reach past a byte below `0x80`. -/
theorem takeFirst_append (hb : b < 0x80) (lead : UInt8) (rest more : Bytes) :
    takeFirst lead (rest ++ b :: more) =
      ((takeFirst lead rest).1, (takeFirst lead rest).2 ++ b :: more) := by
  have hsecond := allowsSecond_of_lt hb lead
  have hlater := isContinuation_of_lt hb
  unfold takeFirst
  -- the cases are the widths; the byte that is asked for is still in `rest`, or it is `b`
  split
  · rfl
  · rcases rest with _ | ⟨second, rest⟩
    · simp [hsecond]
    · dsimp only [List.cons_append]
      split <;> rfl
  · rcases rest with _ | ⟨second, _ | ⟨third, rest⟩⟩
    · simp [hsecond]
    · simp only [List.cons_append, List.nil_append, hlater]
      split <;> rfl
    · dsimp only [List.cons_append]
      repeat' split
      all_goals rfl
  · rcases rest with _ | ⟨second, _ | ⟨third, _ | ⟨fourth, rest⟩⟩⟩
    · simp [hsecond]
    · simp only [List.cons_append, List.nil_append, hlater]
      split <;> rfl
    · simp only [List.cons_append, List.nil_append, hlater, Bool.false_eq_true, if_false]
      repeat' split
      all_goals rfl
    · dsimp only [List.cons_append]
      repeat' split
      all_goals rfl
  · rfl

theorem lossy_cons (lead : UInt8) (rest : Bytes) :
    lossy (lead :: rest) =
      (takeFirst lead rest).1.getD replacement :: lossy (takeFirst lead rest).2 := by
  rw [lossy]

/-- A byte below `0x80` is read as the character with its number. -/
theorem lossy_of_lt (hb : b < 0x80) (more : Bytes) :
    lossy (b :: more) = Char.ofNat b.toNat :: lossy more := by
  have hwidth : width b = 1 := if_pos hb
  have hfirst : takeFirst b more = (some (Char.ofNat b.toNat), more) := by
    rw [takeFirst.eq_def, hwidth]
    rfl
  rw [lossy_cons, hfirst]
  rfl

/-- Bytes on both sides of a byte below `0x80` are read each for themselves. -/
theorem lossy_append (hb : b < 0x80) (bytes more : Bytes) :
    lossy (bytes ++ b :: more) = lossy bytes ++ Char.ofNat b.toNat :: lossy more := by
  fun_induction lossy bytes with
  | case1 => exact lossy_of_lt hb more
  | case2 lead rest ih =>
    rw [List.cons_append, lossy_cons, takeFirst_append hb, ih, List.cons_append]

-- ---------------------------------------------------------------------------
-- Where a character below U+0080 comes from
-- ---------------------------------------------------------------------------

/-- Only the number of a character gives the character, other numbers give NUL. -/
theorem toNat_of_ofNat {v : Nat} {c : Char} (h : Char.ofNat v = c) (hne : c ≠ '\x00') :
    c.toNat = v := by
  by_cases hvalid : v.isValidChar
  · rw [← h, Char.ofNat, dif_pos hvalid]
    rfl
  · refine absurd ?_ hne
    rw [← h, Char.ofNat, dif_neg hvalid]
    rfl

theorem le_of_width {lead : UInt8} {w : Nat} (h : width lead = w) (hw : 2 ≤ w) :
    0xC2 ≤ lead.toNat ∧ (w = 3 → 0xE0 ≤ lead.toNat) ∧ (w = 4 → 0xF0 ≤ lead.toNat) := by
  simp only [width, UInt8.lt_iff_toNat_lt, UInt8.reduceToNat] at h
  grind

theorem le_of_allowsSecond {lead second : UInt8} (h : allowsSecond lead second = true) :
    0x80 ≤ second.toNat ∧ (lead.toNat = 0xE0 → 0xA0 ≤ second.toNat) ∧
      (lead.toNat = 0xF0 → 0x90 ≤ second.toNat) := by
  simp only [allowsSecond, isContinuation, ← UInt8.toNat_inj, UInt8.le_iff_toNat_le,
    UInt8.reduceToNat] at h
  grind

/-- A character below U+0080, other than NUL, is taken off the front only where its byte
is: what takes more bytes has a larger number. -/
theorem lead_of_takeFirst {lead : UInt8} {rest : Bytes} {c : Char}
    (h : (takeFirst lead rest).1 = some c) (hsmall : c.toNat < 0x80) (hne : c ≠ '\x00') :
    c.toNat = lead.toNat := by
  have hvalue : ∀ {v}, some (Char.ofNat v) = some c → c.toNat = v := fun hv =>
    toNat_of_ofNat (Option.some.inj hv) hne
  rw [takeFirst.eq_def] at h
  split at h
  · -- one byte
    exact hvalue h
  · -- two bytes: the lead byte is above those that would encode less
    rename_i hwidth
    obtain ⟨hlead, -⟩ := le_of_width hwidth (by decide)
    split at h
    · split at h
      · have hv := hvalue h
        unfold extend at hv
        omega
      · cases h
    · cases h
  · -- three bytes: a second byte after the least lead byte is checked for that
    rename_i hwidth
    obtain ⟨-, hlead, -⟩ := le_of_width hwidth (by decide)
    split at h
    · split at h
      · rename_i hsecond
        obtain ⟨-, hE0, -⟩ := le_of_allowsSecond hsecond
        split at h
        · split at h
          · have hv := hvalue h
            unfold extend at hv
            omega
          · cases h
        · cases h
      · cases h
    · cases h
  · -- four bytes: the same
    rename_i hwidth
    obtain ⟨-, -, hlead⟩ := le_of_width hwidth (by decide)
    split at h
    · split at h
      · rename_i hsecond
        obtain ⟨-, -, hF0⟩ := le_of_allowsSecond hsecond
        split at h
        · split at h
          · split at h
            · split at h
              · have hv := hvalue h
                unfold extend at hv
                omega
              · cases h
            · cases h
          · cases h
        · cases h
      · cases h
    · cases h
  · -- no lead byte
    cases h

theorem mem_of_mem_takeFirst {lead b : UInt8} {rest : Bytes} (h : b ∈ (takeFirst lead rest).2) :
    b ∈ rest := by
  unfold takeFirst at h
  repeat' split at h
  all_goals simp only [List.mem_cons] at h ⊢
  all_goals simp [h]

/-- A character below U+0080, other than NUL, is read only where its byte is. -/
theorem mem_of_mem_lossy {bytes : Bytes} {c : Char} (h : c ∈ lossy bytes) (hsmall : c.toNat < 0x80)
    (hne : c ≠ '\x00') : UInt8.ofNat c.toNat ∈ bytes := by
  fun_induction lossy bytes with
  | case1 => cases h
  | case2 lead rest ih =>
    rcases List.mem_cons.1 h with hfirst | hlater
    · cases htaken : (takeFirst lead rest).1 with
      -- bytes that are no text give a character above U+0080
      | none =>
        rw [htaken] at hfirst
        subst hfirst
        exact absurd hsmall (by decide)
      | some c' =>
        rw [htaken, Option.getD_some] at hfirst
        subst hfirst
        rw [lead_of_takeFirst htaken hsmall hne, UInt8.ofNat_toNat]
        exact List.mem_cons_self
    · exact List.mem_cons_of_mem _ (mem_of_mem_takeFirst (ih hlater))

-- ---------------------------------------------------------------------------
-- Text that is not damaged
-- ---------------------------------------------------------------------------

section Whole

variable {lead second third fourth : UInt8} {rest : Bytes}

theorem takeFirst_one (hwidth : width lead = 1) :
    takeFirst lead rest = (some (Char.ofNat lead.toNat), rest) := by
  rw [takeFirst.eq_def, hwidth]
  rfl

theorem takeFirst_two (hwidth : width lead = 2) (hsecond : allowsSecond lead second = true) :
    takeFirst lead (second :: rest) =
      (some (Char.ofNat (extend (lead.toNat - 0xC0) second)), rest) := by
  rw [takeFirst.eq_def, hwidth]
  exact if_pos hsecond

theorem takeFirst_three (hwidth : width lead = 3) (hsecond : allowsSecond lead second = true)
    (hthird : isContinuation third = true) :
    takeFirst lead (second :: third :: rest) =
      (some (Char.ofNat (extend (extend (lead.toNat - 0xE0) second) third)), rest) := by
  rw [takeFirst.eq_def, hwidth]
  exact (if_pos hsecond).trans (if_pos hthird)

theorem takeFirst_four (hwidth : width lead = 4) (hsecond : allowsSecond lead second = true)
    (hthird : isContinuation third = true) (hfourth : isContinuation fourth = true) :
    takeFirst lead (second :: third :: fourth :: rest) =
      (some (Char.ofNat (extend (extend (extend (lead.toNat - 0xF0) second) third) fourth)),
        rest) := by
  rw [takeFirst.eq_def, hwidth]
  exact (if_pos hsecond).trans ((if_pos hthird).trans (if_pos hfourth))

end Whole

theorem width_ofNat {n : Nat} (h : n < 0x100) : width (UInt8.ofNat n) =
    if n < 0x80 then 1 else if n < 0xC2 then 0 else if n < 0xE0 then 2 else if n < 0xF0 then 3
    else if n < 0xF5 then 4 else 0 := by
  simp only [width, UInt8.lt_iff_toNat_lt, toNat_ofNat h, UInt8.reduceToNat]

theorem isContinuation_ofNat {m : Nat} (hlow : 0x80 ≤ m) (hhigh : m ≤ 0xBF) :
    isContinuation (UInt8.ofNat m) = true := by
  have hbyte : m < 0x100 := by omega
  simp only [isContinuation, UInt8.le_iff_toNat_le, toNat_ofNat hbyte,
    UInt8.reduceToNat, Bool.and_eq_true, decide_eq_true_eq]
  exact ⟨hlow, hhigh⟩

theorem allowsSecond_ofNat {n m : Nat} (hn : n < 0x100) (hlow : 0x80 ≤ m) (hhigh : m ≤ 0xBF)
    (hE0 : n = 0xE0 → 0xA0 ≤ m) (hED : n = 0xED → m ≤ 0x9F)
    (hF0 : n = 0xF0 → 0x90 ≤ m) (hF4 : n = 0xF4 → m ≤ 0x8F) :
    allowsSecond (UInt8.ofNat n) (UInt8.ofNat m) = true := by
  have hbyte : m < 0x100 := by omega
  simp only [allowsSecond, isContinuation_ofNat hlow hhigh, ← UInt8.toNat_inj,
    UInt8.le_iff_toNat_le, toNat_ofNat hn, toNat_ofNat hbyte,
    UInt8.reduceToNat]
  grind

theorem extend_ofNat {high low : Nat} (h : low < 64) :
    extend high (UInt8.ofNat (low + 128)) = high * 64 + low := by
  have hbyte : low + 128 < 0x100 := by omega
  unfold extend
  rw [toNat_ofNat hbyte, Nat.add_sub_cancel]

/-- The bytes of a character are taken off the front as that character. -/
theorem takeFirst_char (c : Char) (rest : Bytes) : ∃ lead behind,
    String.utf8EncodeChar c ++ rest = lead :: behind ∧ takeFirst lead behind = (some c, rest) := by
  obtain ⟨v, hv⟩ : ∃ v, v = c.val.toNat := ⟨_, rfl⟩
  have hvalid : v < 0xD800 ∨ 0xDFFF < v ∧ v < 0x110000 := by
    rw [hv]
    exact c.valid
  have hchar : Char.ofNat v = c := by
    rw [hv]
    exact Char.ofNat_toNat c
  rw [String.utf8EncodeChar, ← hv]
  split
  · -- below U+0080
    have hwidth : width (UInt8.ofNat v) = 1 := by grind [width_ofNat]
    refine ⟨_, _, rfl, (takeFirst_one hwidth).trans ?_⟩
    rw [toNat_ofNat (by omega), hchar]
    rfl
  split
  · -- below U+0800
    have hwidth : width (UInt8.ofNat (v / 64 % 32 + 192)) = 2 := by grind [width_ofNat]
    have hsecond := allowsSecond_ofNat (n := v / 64 % 32 + 192) (m := v % 64 + 128) (by omega)
      (by omega) (by omega) (by omega) (by omega) (by omega) (by omega)
    refine ⟨_, _, rfl, (takeFirst_two hwidth hsecond).trans ?_⟩
    rw [toNat_ofNat (by omega), extend_ofNat (by omega), ← hchar]
    congr
    omega
  split
  · -- below U+10000, where the range of the surrogates is left out
    have hwidth : width (UInt8.ofNat (v / 4096 % 16 + 224)) = 3 := by grind [width_ofNat]
    have hsecond := allowsSecond_ofNat (n := v / 4096 % 16 + 224) (m := v / 64 % 64 + 128)
      (by omega) (by omega) (by omega) (by omega) (by omega) (by omega) (by omega)
    have hthird := isContinuation_ofNat (m := v % 64 + 128) (by omega) (by omega)
    refine ⟨_, _, rfl, (takeFirst_three hwidth hsecond hthird).trans ?_⟩
    rw [toNat_ofNat (by omega), extend_ofNat (by omega), extend_ofNat (by omega), ← hchar]
    congr
    omega
  · -- up to U+10FFFF
    have hwidth : width (UInt8.ofNat (v / 262144 % 8 + 240)) = 4 := by grind [width_ofNat]
    have hsecond := allowsSecond_ofNat (n := v / 262144 % 8 + 240) (m := v / 4096 % 64 + 128)
      (by omega) (by omega) (by omega) (by omega) (by omega) (by omega) (by omega)
    have hthird := isContinuation_ofNat (m := v / 64 % 64 + 128) (by omega) (by omega)
    have hfourth := isContinuation_ofNat (m := v % 64 + 128) (by omega) (by omega)
    refine ⟨_, _, rfl, (takeFirst_four hwidth hsecond hthird hfourth).trans ?_⟩
    rw [toNat_ofNat (by omega), extend_ofNat (by omega), extend_ofNat (by omega),
      extend_ofNat (by omega), ← hchar]
    congr
    omega

/-- The bytes of a text are read as the text. -/
theorem lossy_ofChars (chars : List Char) : lossy (ofChars chars) = chars := by
  induction chars with
  | nil => rw [ofChars_nil, lossy]
  | cons c chars ih =>
    obtain ⟨lead, behind, hbytes, hfirst⟩ := takeFirst_char c (ofChars chars)
    rw [ofChars_cons, hbytes, lossy_cons, hfirst, Option.getD_some, ih]

theorem lossyText_encode (text : String) : lossyText (encode text) = text := by
  rw [lossyText, ← String.ofList_toList (s := text), encode_ofList, lossy_ofChars]

end Flagpost.Utf8
