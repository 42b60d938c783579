import Flagpost.Log.Redactor
import Flagpost.Proofs.Log.Redaction
import Flagpost.Proofs.Text.Bytes
import Flagpost.Proofs.Text.Lossy

/-!
# Flagpost — masking line by line

A newline belongs to no shape that is masked: not to a credential, not to the
value of a parameter, not to a generated token, and to no word either. So a
shape that begins before a newline ends before it, nothing that stands behind
the newline decides whether a text before it is a shape, and each of the three
passes goes through a text line by line.

* `Redaction.redact_newline`   — for a text;
* `Redactor.maskBytes_newline` — for bytes, whether or not they are text;
* `Redactor.maskBytes_append`  — for bytes that end a line, and what follows them;
* `Redactor.maskBytes_lines`   — for any lines and what follows the last of them.
-/

namespace List

variable {α : Type} {p : α → Bool} {a : α}

theorem dropWhile_append_cons (h : p a = false) (l more : List α) :
    (l ++ a :: more).dropWhile p = l.dropWhile p ++ a :: more := by
  rw [dropWhile_append]
  split
  · rename_i hempty
    rw [dropWhile_cons_of_neg (by simp [h]), isEmpty_iff.1 hempty, nil_append]
  · rfl

theorem takeWhile_append_cons (h : p a = false) (l more : List α) :
    (l ++ a :: more).takeWhile p = l.takeWhile p := by
  rw [takeWhile_append]
  split
  · rename_i hall
    rw [takeWhile_cons_of_neg (by simp [h]), append_nil, ( takeWhile_prefix p).eq_of_length hall]
  · rfl

end List

namespace Flagpost

namespace Redaction

variable {literal text rest behind : List Char}

-- ---------------------------------------------------------------------------
-- Shapes end before a newline
-- ---------------------------------------------------------------------------

theorem afterIgnoringCase?_newline (h : '\n' ∉ literal) (text behind : List Char) :
    afterIgnoringCase? literal (text ++ '\n' :: behind) =
      (afterIgnoringCase? literal text).map (· ++ '\n' :: behind) := by
  induction literal generalizing text with
  | nil => rfl
  | cons l literal ih =>
    rw [List.mem_cons, not_or] at h
    cases text with
    | nil => exact if_neg h.1
    | cons c text =>
      rw [List.cons_append, afterIgnoringCase?, afterIgnoringCase?]
      split
      · exact ih h.2 text
      · rfl

theorem after?_newline (h : '\n' ∉ literal) (text behind : List Char) :
    after? literal (text ++ '\n' :: behind) = (after? literal text).map (· ++ '\n' :: behind) := by
  induction literal generalizing text with
  | nil => rfl
  | cons l literal ih =>
    rw [List.mem_cons, not_or] at h
    cases text with
    | nil => exact if_neg h.1
    | cons c text =>
      rw [List.cons_append, after?, after?]
      split
      · exact ih h.2 text
      · rfl

theorem afterCredential?_newline (text behind : List Char) :
    afterCredential? (text ++ '\n' :: behind) =
      (afterCredential? text).map (· ++ '\n' :: behind) := by
  have hchar : isCredentialChar '\n' = false := by decide
  have hfree : '\n' ∉ scheme := by decide
  have hscheme := afterIgnoringCase?_newline hfree text behind
  rw [afterCredential?, afterCredential?, hscheme]
  rcases afterIgnoringCase? scheme text with _ | _ | ⟨c, rest⟩
  · rfl
  · simp [hchar]
  · simp only [Option.map_some, List.cons_append]
    split
    · rw [List.dropWhile_append_cons hchar, Option.map_some]
    · rfl

theorem afterParameter?_newline (text behind : List Char) :
    afterParameter? (text ++ '\n' :: behind) =
      (afterParameter? text).map (· ++ '\n' :: behind) := by
  have hchar : isValueChar '\n' = false := by decide
  have hfree : '\n' ∉ parameter := by decide
  have hname := after?_newline hfree text behind
  rw [afterParameter?, afterParameter?, hname]
  rcases after? parameter text with _ | _ | ⟨c, rest⟩
  · rfl
  · simp [hchar]
  · simp only [Option.map_some, List.cons_append]
    split
    · rw [List.dropWhile_append_cons hchar, Option.map_some]
    · rfl

theorem beginsWithWord_newline (text behind : List Char) :
    beginsWithWord (text ++ '\n' :: behind) = beginsWithWord text := by
  have hword : Unicode.isWord '\n' = false := by decide
  cases text with
  | nil => exact hword
  | cons c text => rfl

theorem afterToken?_newline (text behind : List Char) :
    afterToken? (text ++ '\n' :: behind) = (afterToken? text).map (· ++ '\n' :: behind) := by
  have hdigit : Hex.isSmallDigit '\n' = false := by decide
  rw [afterToken?, afterToken?, List.takeWhile_append_cons hdigit,
    List.dropWhile_append_cons hdigit]
  split
  · rcases text.dropWhile Hex.isSmallDigit with _ | ⟨c, rest⟩
    · rfl
    by_cases hc : c = '-'
    · subst hc
      simp only [List.cons_append]
      by_cases hlong : 32 ≤ rest.length
      · rw [List.take_append_of_le_length hlong, List.drop_append_of_le_length hlong,
          beginsWithWord_newline]
        split
        · rfl
        · rfl
      · -- the newline is among the thirty-two characters that would have to be digits
        have hshort : (rest.take 32).length ≠ 32 := by
          rw [List.length_take]
          omega
        have hnewline : '\n' ∈ (rest ++ '\n' :: behind).take 32 := by
          rw [List.take_append, List.take_cons (by omega)]
          simp
        have hall : ¬ ((rest ++ '\n' :: behind).take 32).all Hex.isSmallDigit = true := by
          intro hall
          rw [List.all_eq_true.1 hall _ hnewline] at hdigit
          cases hdigit
        rw [if_neg fun h => hall h.2.1, if_neg fun h => hshort h.1]
        rfl
    · simp [hc]
  · rfl

-- ---------------------------------------------------------------------------
-- The passes
-- ---------------------------------------------------------------------------

theorem maskCredentials_newline (text behind : List Char) :
    maskCredentials (text ++ '\n' :: behind) =
      maskCredentials text ++ '\n' :: maskCredentials behind := by
  have hafter := afterCredential?_newline text behind
  fun_induction maskCredentials text with
  | case1 text rest hrest ih =>
    rw [hrest, Option.map_some] at hafter
    rw [maskCredentials_of_some hafter, ih (afterCredential?_newline rest behind),
      List.append_assoc]
  | case2 hnone =>
    rw [hnone, List.nil_append] at hafter
    rw [List.nil_append, maskCredentials_of_none hafter, List.nil_append]
  | case3 c rest hnone ih =>
    rw [hnone, List.cons_append] at hafter
    rw [List.cons_append, maskCredentials_of_none hafter,
      ih (afterCredential?_newline rest behind), List.cons_append]

theorem maskParameters_newline (text behind : List Char) :
    maskParameters (text ++ '\n' :: behind) =
      maskParameters text ++ '\n' :: maskParameters behind := by
  have hafter := afterParameter?_newline text behind
  fun_induction maskParameters text with
  | case1 text rest hrest ih =>
    rw [hrest, Option.map_some] at hafter
    rw [maskParameters_of_some hafter, ih (afterParameter?_newline rest behind),
      ← List.append_assoc]
  | case2 hnone =>
    rw [hnone, List.nil_append] at hafter
    rw [List.nil_append, maskParameters_of_none hafter, List.nil_append]
  | case3 c rest hnone ih =>
    rw [hnone, List.cons_append] at hafter
    rw [List.cons_append, maskParameters_of_none hafter,
      ih (afterParameter?_newline rest behind), List.cons_append]

/-- Behind a newline a word may begin, whatever came before. -/
theorem maskTokens_newline (inWord : Bool) (text behind : List Char) :
    maskTokens inWord (text ++ '\n' :: behind) =
      maskTokens inWord text ++ '\n' :: maskTokens false behind := by
  have hafter := afterToken?_newline text behind
  fun_induction maskTokens inWord text with
  | case1 inWord =>
    -- the newline itself is no part of a word
    have hword : Unicode.isWord '\n' = false := by decide
    have hnone : afterToken? ('\n' :: behind) = none := hafter
    rw [List.nil_append, maskTokens_of_none hnone, hword, List.nil_append]
  | case2 c rest ih =>
    -- a character inside a word is put out
    rw [List.cons_append, maskTokens, if_pos rfl, ih (afterToken?_newline rest behind),
      List.cons_append]
  | case3 inWord c rest hword found hfound ih =>
    -- a token ends before the newline, as it does without it
    have hfalse : inWord = false := by simpa using hword
    rw [hfound, Option.map_some, List.cons_append] at hafter
    rw [hfalse, List.cons_append, maskTokens_of_some hafter,
      ih (afterToken?_newline found behind), List.append_assoc]
  | case4 inWord c rest hword hnone ih =>
    -- no token begins here, as none does without the newline
    rw [hnone, List.cons_append] at hafter
    rw [List.cons_append, maskTokens_of_none hafter, ih (afterToken?_newline rest behind),
      List.cons_append]

/-- A text is masked line by line. -/
theorem redact_newline (text behind : List Char) :
    redact (text ++ '\n' :: behind) = redact text ++ '\n' :: redact behind := by
  rw [redact, maskCredentials_newline, maskParameters_newline, maskTokens_newline]
  rfl

theorem redactText_newline (a b : String) :
    redactText (a ++ "\n" ++ b) = redactText a ++ "\n" ++ redactText b := by
  have htext : (a ++ "\n" ++ b).toList = a.toList ++ '\n' :: b.toList := by
    rw [String.toList_append, String.toList_append, List.append_assoc]
    rfl
  have hline : "\n" = String.ofList ['\n'] := rfl
  rw [redactText, htext, redact_newline, hline, redactText, redactText, ← String.ofList_append,
    ← String.ofList_append, List.append_assoc, List.singleton_append]

end Redaction

-- ---------------------------------------------------------------------------
-- Bytes
-- ---------------------------------------------------------------------------

/-- Bytes that leave no line unfinished. -/
def Line.Ends (bytes : Bytes) : Prop := bytes = [] ∨ bytes.getLast? = some Line.ending

instance (bytes : Bytes) : Decidable (Line.Ends bytes) := inferInstanceAs (Decidable (_ ∨ _))

namespace Redactor

@[simp] theorem maskBytes_nil : maskBytes [] = [] := by
  have hlossy : Utf8.lossy [] = [] := by rw [Utf8.lossy]
  rw [maskBytes, hlossy, Redaction.redact, Redaction.maskCredentials_nil,
    Redaction.maskParameters_nil, Redaction.maskTokens_nil]
  rfl

/-- Bytes are masked line by line. -/
theorem maskBytes_newline (bytes behind : Bytes) :
    maskBytes (bytes ++ Line.ending :: behind) =
      maskBytes bytes ++ Line.ending :: maskBytes behind := by
  have hlossy := Utf8.lossy_append (b := Line.ending) (by decide) bytes behind
  have hnewline : Char.ofNat Line.ending.toNat = '\n' := by decide
  have hbyte : String.utf8EncodeChar '\n' = [Line.ending] := by decide
  rw [maskBytes, hlossy, hnewline, Redaction.redact_newline, Utf8.encode_ofList,
    Utf8.ofChars_append, Utf8.ofChars_cons, hbyte, ← Utf8.encode_ofList, ← Utf8.encode_ofList]
  rfl

theorem maskBytes_line (line : Bytes) :
    maskBytes (line ++ [Line.ending]) = maskBytes line ++ [Line.ending] := by
  rw [maskBytes_newline, maskBytes_nil]

/-- What follows the end of a line is masked for itself. -/
theorem maskBytes_append {bytes : Bytes} (h : Line.Ends bytes) (behind : Bytes) :
    maskBytes (bytes ++ behind) = maskBytes bytes ++ maskBytes behind := by
  rcases h with rfl | hlast
  · rw [maskBytes_nil, List.nil_append, List.nil_append]
  · obtain ⟨line, rfl⟩ := List.getLast?_eq_some_iff.1 hlast
    rw [List.append_assoc, List.singleton_append, maskBytes_newline, maskBytes_line,
      List.append_assoc, List.singleton_append]

/-- Lines with their newlines, and bytes behind them, are masked each for itself. -/
theorem maskBytes_lines (lines : List Bytes) (rest : Bytes) :
    maskBytes (lines.flatMap (· ++ [Line.ending]) ++ rest) =
      lines.flatMap (maskBytes · ++ [Line.ending]) ++ maskBytes rest := by
  induction lines with
  | nil => rfl
  | cons line lines ih =>
    have hline : Line.Ends (line ++ [Line.ending]) := .inr List.getLast?_concat
    rw [List.flatMap_cons, List.append_assoc, maskBytes_append hline, maskBytes_line, ih,
      List.flatMap_cons, List.append_assoc (maskBytes line ++ [Line.ending])]

end Redactor

end Flagpost
