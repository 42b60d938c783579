import Flagpost.Json.Printer
import Flagpost.Json.StringReader
import Flagpost.Proofs.Json.Reads
import Flagpost.Proofs.Text.Bytes

/-!
# Flagpost — strings of a document read back

A string of a document is its characters between quotation marks, some of them
written as escapes. `escapeChar_cases` says which: a character stands either
for itself, and then none of its bytes means anything to the reader, or it is
a backslash and something the reader makes the character of. The rest is an
induction over the characters.
-/

namespace Flagpost

namespace Reads

open JsonReader

-- ---------------------------------------------------------------------------
-- Escapes
-- ---------------------------------------------------------------------------

theorem nextInString (x : UInt8) : Reads JsonReader.nextInString [x] x :=
  bind_pure (next x) (pure x)

theorem nextInString_bind {β : Type} {follow : UInt8 → JsonReader β} {text : Bytes} {b : β}
    (x : UInt8) (h : Reads (follow x) text b) :
    Reads (JsonReader.nextInString >>= follow) (x :: text) b :=
  bind (nextInString x) h

/-- Four digits are read as the number they write. -/
theorem readHex {digits : Bytes} {n : Nat} (hl : digits.length = 4)
    (hv : hexValue? digits = some n) : Reads JsonReader.readHex digits n := by
  refine look (fun rest => rest.take 4) fun rest => ?_
  have htake : (digits ++ rest).take 4 = digits := by
    rw [← hl, List.take_left]
  rw [htake]
  refine bind_pure (passMany digits) ?_
  rw [hl, hv]
  exact pure n

theorem readEscape_simple {x b : UInt8} (h : simpleEscape? x = some b) :
    Reads readEscape [x] [b] := by
  refine bind_pure (nextInString x) ?_
  rw [h]
  exact pure [b]

/-- Behind a `u`, four digits are read as the character with that number, unless
the number is half of one. -/
theorem readEscape_hex {digits : Bytes} {n : Nat} (hl : digits.length = 4)
    (hv : hexValue? digits = some n) (hn : n < 0xD800) :
    Reads readEscape (letterU :: digits) (String.utf8EncodeChar (Char.ofNat n)) := by
  refine nextInString_bind letterU ?_
  rw [show simpleEscape? letterU = none by decide]
  simp only [if_true]
  refine bind_pure (a := Char.ofNat n) ?_ (pure _)
  refine bind_pure (readHex hl hv) ?_
  rw [if_neg (by omega), if_pos (.inl hn)]
  exact pure _

-- ---------------------------------------------------------------------------
-- The rest of a string
-- ---------------------------------------------------------------------------

/-- A byte that stands for itself in a string. -/
def IsPlain (b : UInt8) : Prop := b ≠ quote ∧ b ≠ backslash ∧ ¬ b < 0x20

theorem readStringRest_plain {plain text done : Bytes} {fuel : Nat} {s : String}
    (hp : ∀ b ∈ plain, IsPlain b)
    (h : Reads (readStringRest fuel (plain.reverse ++ done)) text s) :
    Reads (readStringRest (fuel + plain.length) done) (plain ++ text) s := by
  induction plain generalizing done with
  | nil => exact h
  | cons b plain ih =>
    obtain ⟨hq, hb, hlt⟩ := hp b List.mem_cons_self
    rw [List.reverse_cons, List.append_assoc] at h
    refine peek ?_
    simp only [hq, hb, hlt, if_false]
    exact bind (pass b) (ih (fun x hx => hp x (List.mem_cons_of_mem _ hx)) h)

theorem readStringRest_escape {escape bytes text done : Bytes} {fuel : Nat} {s : String}
    (he : Reads readEscape escape bytes)
    (h : Reads (readStringRest fuel (bytes.reverse ++ done)) text s) :
    Reads (readStringRest (fuel + 1) done) (backslash :: (escape ++ text)) s := by
  refine peek ?_
  simp only [show backslash ≠ quote by decide, if_false, if_true]
  exact pass_bind backslash (bind he h)

end Reads

namespace Json

open JsonReader

theorem hexValue?_padded : ∀ n < 0x20, (Utf8.ofChars (Hex.padded 4 n)).length = 4 ∧
    hexValue? (Utf8.ofChars (Hex.padded 4 n)) = some n := by decide

/-- The characters whose escape is a letter behind a backslash. -/
def lettered : List Char := ['"', '\\', '\n', '\r', '\t', '\x08', '\x0C']

theorem readEscape_lettered {c : Char} (h : c ∈ lettered) :
    ∃ escape, escapeChar c = '\\' :: escape ∧
      Reads readEscape (Utf8.ofChars escape) (String.utf8EncodeChar c) := by
  simp only [lettered, List.mem_cons, List.not_mem_nil, or_false] at h
  rcases h with rfl | rfl | rfl | rfl | rfl | rfl | rfl <;>
    exact ⟨_, rfl, Reads.readEscape_simple (by decide)⟩

theorem escapeChar_of_not_mem {c : Char} (h : c ∉ lettered) :
    escapeChar c = if c.toNat < 0x20 then ['\\', 'u'] ++ Hex.padded 4 c.toNat else [c] := by
  simp only [lettered, List.mem_cons, not_or] at h
  obtain ⟨hquote, hbackslash, hnewline, hreturn, htab, hbackspace, hfeed, -⟩ := h
  rw [escapeChar, if_neg hquote, if_neg hbackslash, if_neg hnewline, if_neg hreturn,
    if_neg htab, if_neg hbackspace, if_neg hfeed]

/-- A character that needs no escape is plain in each of its bytes. -/
theorem isPlain_of_mem_utf8EncodeChar {c : Char} {b : UInt8} (hquote : c ≠ '"')
    (hbackslash : c ≠ '\\') (hhigh : ¬ c.toNat < 0x20) (hb : b ∈ String.utf8EncodeChar c) :
    Reads.IsPlain b := by
  by_cases hascii : c.toNat < 0x80
  · -- the byte is the code point, so the comparisons go over to the character
    rw [Utf8.utf8EncodeChar_of_lt hascii, List.mem_singleton] at hb
    have hn : b.toNat = c.toNat := by
      rw [hb, UInt8.toNat_ofNat']
      omega
    refine ⟨fun h => hquote ?_, fun h => hbackslash ?_, fun h => ?_⟩
    · rw [h] at hn
      exact Char.toNat_inj.1 hn.symm
    · rw [h] at hn
      exact Char.toNat_inj.1 hn.symm
    · have hlt : b.toNat < 0x20 := UInt8.lt_iff_toNat_lt.1 h
      omega
  · -- all bytes of a longer encoding lie above the signs the reader knows
    have hle : 0x80 ≤ b.toNat :=
      UInt8.le_iff_toNat_le.1 (Utf8.le_of_mem_utf8EncodeChar (Nat.not_lt.1 hascii) hb)
    refine ⟨?_, ?_, fun h => ?_⟩
    · rintro rfl
      exact absurd hle (by decide)
    · rintro rfl
      exact absurd hle (by decide)
    · have hlt : b.toNat < 0x20 := UInt8.lt_iff_toNat_lt.1 h
      omega

/-- A character in a string stands for itself, or it is written as an escape
that is read as the character. -/
theorem escapeChar_cases (c : Char) :
    (escapeChar c = [c] ∧ ∀ b ∈ String.utf8EncodeChar c, Reads.IsPlain b) ∨
    ∃ escape, escapeChar c = '\\' :: escape ∧
      Reads readEscape (Utf8.ofChars escape) (String.utf8EncodeChar c) := by
  by_cases hletter : c ∈ lettered
  · -- it has an escape of its own
    exact .inr (readEscape_lettered hletter)
  have hescape := escapeChar_of_not_mem hletter
  by_cases hlow : c.toNat < 0x20
  · -- it is written with its number
    rw [if_pos hlow] at hescape
    obtain ⟨hl, hv⟩ := hexValue?_padded c.toNat hlow
    have h := Reads.readEscape_hex hl hv (by omega)
    rw [Char.ofNat_toNat] at h
    exact .inr ⟨_, hescape, h⟩
  · -- it is written as it is
    rw [if_neg hlow] at hescape
    refine .inl ⟨hescape, fun b hb => isPlain_of_mem_utf8EncodeChar ?_ ?_ hlow hb⟩
    · rintro rfl
      exact hletter (by decide)
    · rintro rfl
      exact hletter (by decide)

/-- What is left of a string is read up to its closing quotation mark, if it
and what came before make a text. -/
theorem readStringRest_chars {chars : List Char} {done : Bytes} {s : String} {fuel : Nat}
    (hf : (Utf8.ofChars (chars.flatMap escapeChar)).length < fuel)
    (hs : Utf8.decode? (done.reverse ++ Utf8.ofChars chars) = some s) :
    Reads (readStringRest fuel done)
      (Utf8.ofChars (chars.flatMap escapeChar) ++ [quote]) s := by
  induction chars generalizing done fuel with
  | nil =>
    obtain ⟨fuel, rfl⟩ : ∃ n, fuel = n + 1 := ⟨fuel - 1, by omega⟩
    rw [Utf8.ofChars_nil, List.append_nil] at hs
    refine Reads.peek ?_
    simp only [if_true, hs]
    exact Reads.bind_pure (Reads.pass quote) (Reads.pure s)
  | cons c chars ih =>
    rw [List.flatMap_cons, Utf8.ofChars_append, List.length_append] at hf
    rw [List.flatMap_cons, Utf8.ofChars_append, List.append_assoc]
    -- the bytes of the character go over to those that are done
    have hs' : Utf8.decode? (((String.utf8EncodeChar c).reverse ++ done).reverse ++
        Utf8.ofChars chars) = some s := by
      rw [List.reverse_append, List.reverse_reverse, List.append_assoc, ← Utf8.ofChars_cons]
      exact hs
    rcases escapeChar_cases c with ⟨hc, hplain⟩ | ⟨escape, hc, hread⟩
    · rw [hc, Utf8.ofChars_cons, Utf8.ofChars_nil, List.append_nil] at hf ⊢
      obtain ⟨n, hn⟩ : ∃ n, fuel = n + (String.utf8EncodeChar c).length :=
        ⟨fuel - (String.utf8EncodeChar c).length, by omega⟩
      rw [hn]
      exact Reads.readStringRest_plain hplain (ih (by omega) hs')
    · rw [hc, Utf8.ofChars_cons] at hf ⊢
      obtain ⟨n, hn⟩ : ∃ n, fuel = n + 1 := ⟨fuel - 1, by omega⟩
      rw [hn]
      refine Reads.readStringRest_escape hread (ih ?_ hs')
      rw [show String.utf8EncodeChar '\\' = [backslash] by decide, List.length_append,
        List.length_singleton] at hf
      omega

/-- **Strings read back.** Whatever the text, its string is read as the text. -/
theorem reads_quoted (s : String) : Reads readString (Utf8.ofChars (quoted s)) s := by
  have hquote : String.utf8EncodeChar '"' = [quote] := by decide
  have htext : Utf8.ofChars (quoted s) =
      [quote] ++ (Utf8.ofChars (s.toList.flatMap escapeChar) ++ [quote]) := by
    rw [quoted, List.cons_append, Utf8.ofChars_cons, Utf8.ofChars_append, Utf8.ofChars_cons,
      Utf8.ofChars_nil, List.append_nil, hquote]
  rw [htext]
  refine Reads.bind (Reads.pass quote) (Reads.steps fun fuel hf => ?_)
  rw [List.length_append] at hf
  refine readStringRest_chars (by omega) ?_
  rw [List.reverse_nil, List.nil_append, Utf8.decode?_ofChars, String.ofList_toList]

end Json

end Flagpost
