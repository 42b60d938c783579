import Flagpost.Text.Utf8

/-!
# Flagpost — the bytes of a text, character by character

The bytes of a text are the bytes of its characters, one after the other. A
character below U+0080 is one byte, which is its code point; every byte of any
other character is `0x80` or more. So a byte below `0x80` is always a character
of its own: whoever looks for quotation marks, slashes or newlines in a text
may look at its bytes.
-/

namespace Flagpost.Utf8

/-- The bytes of a list of characters. -/
def ofChars (chars : List Char) : Bytes := chars.flatMap String.utf8EncodeChar

@[simp] theorem ofChars_nil : ofChars [] = [] := rfl

@[simp] theorem ofChars_append (chars more : List Char) :
    ofChars (chars ++ more) = ofChars chars ++ ofChars more := List.flatMap_append

@[simp] theorem ofChars_cons (c : Char) (chars : List Char) :
    ofChars (c :: chars) = String.utf8EncodeChar c ++ ofChars chars := List.flatMap_cons

theorem encode_ofList (chars : List Char) : encode (String.ofList chars) = ofChars chars := by
  simp [encode, ofChars, List.utf8Encode]

theorem length_le_ofChars (chars : List Char) : chars.length ≤ (ofChars chars).length := by
  induction chars with
  | nil => exact Nat.le_refl _
  | cons c chars ih =>
    have hpos : 0 < (String.utf8EncodeChar c).length := by
      rw [String.length_utf8EncodeChar]
      exact Char.utf8Size_pos c
    rw [ofChars_cons, List.length_append, List.length_cons]
    omega

/-- Reading the bytes of characters gives the text they make. -/
theorem decode?_ofChars (chars : List Char) : decode? (ofChars chars) = some (String.ofList chars) := by
  rw [← encode_ofList, decode?_encode]

/-- Bytes that are read as a text are the bytes of the text. -/
theorem encode_of_decode? {bytes : Bytes} {text : String} (h : decode? bytes = some text) :
    encode text = bytes := by
  rw [decode?, String.fromUTF8?] at h
  split at h
  · cases h
    rfl
  · cases h

/-- A character below U+0080 is one byte. -/
theorem utf8EncodeChar_of_lt {c : Char} (h : c.toNat < 0x80) :
    String.utf8EncodeChar c = [UInt8.ofNat c.toNat] := by
  have h' : c.val.toNat ≤ 0x7f := Nat.le_of_lt_succ h
  rw [String.utf8EncodeChar, if_pos h']
  rfl

/-- So a text without other characters has as many bytes as characters. -/
theorem length_ofChars_of_lt {chars : List Char} (h : ∀ c ∈ chars, c.toNat < 0x80) :
    (ofChars chars).length = chars.length := by
  induction chars with
  | nil => rfl
  | cons c chars ih =>
    rw [List.forall_mem_cons] at h
    rw [ofChars_cons, utf8EncodeChar_of_lt h.1, List.length_append, ih h.2, List.length_singleton,
      List.length_cons, Nat.add_comm]

/-- Every byte of a character past U+007F is past `0x7F`. -/
theorem le_of_mem_utf8EncodeChar {c : Char} (h : 0x80 ≤ c.toNat) {b : UInt8}
    (hb : b ∈ String.utf8EncodeChar c) : 0x80 ≤ b := by
  have h' : ¬ c.val.toNat ≤ 0x7f := Nat.not_le.2 h
  rw [UInt8.le_iff_toNat_le]
  rw [String.utf8EncodeChar, if_neg h'] at hb
  split at hb
  · simp only [List.mem_cons, List.not_mem_nil, or_false] at hb
    rcases hb with rfl | rfl <;> (simp only [UInt8.toNat_ofNat', UInt8.reduceToNat]; omega)
  · split at hb
    · simp only [List.mem_cons, List.not_mem_nil, or_false] at hb
      rcases hb with rfl | rfl | rfl <;> (simp only [UInt8.toNat_ofNat', UInt8.reduceToNat]; omega)
    · simp only [List.mem_cons, List.not_mem_nil, or_false] at hb
      rcases hb with rfl | rfl | rfl | rfl <;> (simp only [UInt8.toNat_ofNat', UInt8.reduceToNat]; omega)

theorem toNat_ofNat {n : Nat} (h : n < 0x100) : (UInt8.ofNat n).toNat = n :=
  UInt8.toNat_ofNat_of_lt' h

/-- A byte below `0x80` is only among the bytes of the character with its number. -/
theorem toNat_of_mem_utf8EncodeChar {c : Char} {b : UInt8} (hb : b < 0x80)
    (h : b ∈ String.utf8EncodeChar c) : c.toNat = b.toNat := by
  by_cases hsmall : c.toNat < 0x80
  · rw [utf8EncodeChar_of_lt hsmall, List.mem_singleton] at h
    rw [h, toNat_ofNat (by omega)]
  · have hlarge := le_of_mem_utf8EncodeChar (Nat.not_lt.1 hsmall) h
    exact absurd hb (UInt8.not_lt.2 hlarge)

theorem mem_of_mem_ofChars {c : Char} {b : UInt8} {chars : List Char} (hb : b < 0x80)
    (hc : c.toNat = b.toNat) (h : b ∈ ofChars chars) : c ∈ chars := by
  obtain ⟨c', hmem, hbyte⟩ := List.mem_flatMap.1 h
  have hsame : c = c' := Char.toNat_inj.1 (hc.trans (toNat_of_mem_utf8EncodeChar hb hbyte).symm)
  rw [hsame]
  exact hmem

end Flagpost.Utf8
