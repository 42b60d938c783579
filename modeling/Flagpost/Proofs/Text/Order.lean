import Mathlib.Data.String.Basic
import Mathlib.Tactic.SplitIfs
import Flagpost.Proofs.Text.Bytes

/-!
# Flagpost — the order of bytes is the order of characters

Two texts compare as their bytes do (`Utf8.encode_lt_encode`). Two characters
differ first in a byte where the greater of them has the greater byte, and
neither is a prefix of the other (`Utf8.utf8EncodeChar_lt`), so what follows
them does not count.
-/

namespace Flagpost.Utf8

theorem ofNat_lt_ofNat {m n : Nat} (hm : m < 0x100) (hn : n < 0x100) :
    UInt8.ofNat m < UInt8.ofNat n ↔ m < n := by
  rw [UInt8.lt_iff_toNat_lt, toNat_ofNat hm, toNat_ofNat hn]

theorem ofNat_inj {m n : Nat} (hm : m < 0x100) (hn : n < 0x100) :
    UInt8.ofNat m = UInt8.ofNat n ↔ m = n := by
  rw [← UInt8.toNat_inj, toNat_ofNat hm, toNat_ofNat hn]

/-- The bytes of the lesser of two characters are less, whatever follows. -/
theorem utf8EncodeChar_lt {c d : Char} (h : c < d) (bytes more : Bytes) :
    String.utf8EncodeChar c ++ bytes < String.utf8EncodeChar d ++ more := by
  have hlt : c.val.toNat < d.val.toNat := h
  have hlast : d.val.toNat < 0x110000 := by
    have hvalid := d.valid
    rw [UInt32.isValidChar, Nat.isValidChar] at hvalid
    omega
  rw [String.utf8EncodeChar, String.utf8EncodeChar]
  generalize c.val.toNat = m at hlt
  generalize d.val.toNat = n at hlt hlast
  -- the digits one from the other, as `omega` sees no relation between `k / 64` and `k / 4096`
  have hthird : ∀ k : Nat, k / 4096 = k / 64 / 64 := fun k => (Nat.div_div_eq_div_mul k 64 64).symm
  have hfourth : ∀ k : Nat, k / 262144 = k / 64 / 64 / 64 := fun k => by
    rw [Nat.div_div_eq_div_mul, Nat.div_div_eq_div_mul]
  simp only [hthird, hfourth]
  -- of different lengths the first byte decides, of the same length the first digit that differs
  split_ifs
  all_goals first
    | omega
    | (simp (disch := omega) only [List.cons_append, List.nil_append, List.cons_lt_cons_iff,
         ofNat_lt_ofNat, ofNat_inj]
       omega)

theorem ofChars_lt {chars more : List Char} (h : chars < more) : ofChars chars < ofChars more := by
  induction h with
  | nil =>
    rename_i c rest
    rw [ofChars_nil, ofChars_cons]
    -- a character has at least one byte
    cases hbytes : String.utf8EncodeChar c with
    | nil =>
      have hpos := Char.utf8Size_pos c
      rw [← String.length_utf8EncodeChar, hbytes] at hpos
      cases hpos
    | cons b bytes => exact List.Lex.nil
  | rel hlt =>
    -- the first characters differ, and so do their bytes
    rw [ofChars_cons, ofChars_cons]
    exact utf8EncodeChar_lt hlt _ _
  | cons _ ih =>
    rw [ofChars_cons, ofChars_cons]
    exact List.append_left_lt ih

theorem encode_eq_ofChars (text : String) : encode text = ofChars text.toList := by
  rw [← encode_ofList, String.ofList_toList]

/-- **The order of bytes.** Texts compare as their bytes do. -/
theorem encode_lt_encode {text text' : String} : encode text < encode text' ↔ text < text' := by
  have hkeeps : ∀ {a b : String}, a < b → encode a < encode b := fun {a b} h => by
    rw [encode_eq_ofChars, encode_eq_ofChars]
    exact ofChars_lt h
  refine ⟨fun h => ?_, hkeeps⟩
  by_contra hge
  rcases eq_or_lt_of_le (String.not_lt.1 hge) with he | hgt
  · rw [he] at h
    exact List.lt_irrefl _ h
  · exact List.lt_asymm h (hkeeps hgt)

end Flagpost.Utf8
