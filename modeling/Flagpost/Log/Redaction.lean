import Flagpost.Text.Blank
import Flagpost.Text.Hex
import Flagpost.Unicode.Word

/-!
# Flagpost — masking of secrets

Whatever is logged is masked first. Three shapes are masked, one pass each
and in this order:

* a **bearer credential**: the word `bearer` in any case, one space, and a
  run of credential characters; all of it becomes the mask;
* a **token parameter**: `token=` and a value that ends at `&`, a quotation
  mark or white space; the value becomes the mask. A longer parameter name
  that ends in `token=`, such as `admin_token=`, is covered with it;
* a **generated token**: eight or more small hexadecimal digits, a hyphen and
  thirty-two more of them, standing as a word of its own.

Each pass walks the text once from the left: at the first place where its
shape begins, the longest text of that shape is replaced and the walk goes on
behind it.
-/

namespace Flagpost.Redaction

/-- What stands in place of a secret. -/
def mask : List Char := "[REDACTED]".toList

/-- What follows `literal` at the start of a text, the case of the letters
left aside. `literal` is given in small letters. -/
def afterIgnoringCase? : List Char → List Char → Option (List Char)
  | [], text => some text
  | _ :: _, [] => none
  | l :: literal, c :: text => if c.toLower = l then afterIgnoringCase? literal text else none

/-- What follows `literal` at the start of a text. -/
def after? : List Char → List Char → Option (List Char)
  | [], text => some text
  | _ :: _, [] => none
  | l :: literal, c :: text => if c = l then after? literal text else none

theorem afterIgnoringCase?_length {literal text rest : List Char}
    (h : afterIgnoringCase? literal text = some rest) :
    rest.length + literal.length = text.length := by
  induction literal generalizing text with
  | nil => simp only [afterIgnoringCase?, Option.some.injEq] at h; simp [h]
  | cons l literal ih =>
    cases text with
    | nil => simp [afterIgnoringCase?] at h
    | cons c text =>
      simp only [afterIgnoringCase?] at h
      split at h
      · have := ih h; simp only [List.length_cons]; omega
      · simp at h

theorem after?_length {literal text rest : List Char} (h : after? literal text = some rest) :
    rest.length + literal.length = text.length := by
  induction literal generalizing text with
  | nil => simp only [after?, Option.some.injEq] at h; simp [h]
  | cons l literal ih =>
    cases text with
    | nil => simp [after?] at h
    | cons c text =>
      simp only [after?] at h
      split at h
      · have := ih h; simp only [List.length_cons]; omega
      · simp at h

-- ---------------------------------------------------------------------------
-- Bearer credentials
-- ---------------------------------------------------------------------------

/-- The word that introduces a bearer credential, with its space. -/
def scheme : List Char := "bearer ".toList

/-- A character of a bearer credential. Case is left aside in this shape, so
the two characters that fold to `s` and `k` belong to it as well. -/
def isCredentialChar (c : Char) : Bool :=
  c.isAlphanum || "._~+/=-".toList.contains c || c == '\u017F' || c == '\u212A'

/-- What follows the bearer credential at the start of a text. -/
def afterCredential? (text : List Char) : Option (List Char) :=
  match afterIgnoringCase? scheme text with
  | some (c :: rest) => if isCredentialChar c then some (rest.dropWhile isCredentialChar) else none
  | _ => none

theorem afterCredential?_length {text rest : List Char} (h : afterCredential? text = some rest) :
    rest.length < text.length := by
  unfold afterCredential? at h
  split at h
  · rename_i c tail heq
    split at h
    · have h₁ := afterIgnoringCase?_length heq
      have h₂ := (tail.dropWhile_suffix isCredentialChar).length_le
      simp only [Option.some.injEq] at h
      subst h
      simp only [List.length_cons] at h₁
      omega
    · simp at h
  · simp at h

/-- Masks the bearer credentials of a text. -/
def maskCredentials (text : List Char) : List Char :=
  match _h : afterCredential? text with
  | some rest => mask ++ maskCredentials rest
  | none =>
    match text with
    | [] => []
    | c :: rest => c :: maskCredentials rest
termination_by text.length
decreasing_by
  · exact afterCredential?_length _h
  · simp

-- ---------------------------------------------------------------------------
-- Token parameters
-- ---------------------------------------------------------------------------

/-- The end of the name of a token parameter, with the equals sign. -/
def parameter : List Char := "token=".toList

/-- A character of a parameter's value. -/
def isValueChar (c : Char) : Bool := !(c == '&' || c == '"' || isBlank c)

/-- What follows the token parameter at the start of a text. -/
def afterParameter? (text : List Char) : Option (List Char) :=
  match after? parameter text with
  | some (c :: rest) => if isValueChar c then some (rest.dropWhile isValueChar) else none
  | _ => none

theorem afterParameter?_length {text rest : List Char} (h : afterParameter? text = some rest) :
    rest.length < text.length := by
  unfold afterParameter? at h
  split at h
  · rename_i c tail heq
    split at h
    · have h₁ := after?_length heq
      have h₂ := (tail.dropWhile_suffix isValueChar).length_le
      simp only [Option.some.injEq] at h
      subst h
      simp only [List.length_cons] at h₁
      omega
    · simp at h
  · simp at h

/-- Masks the values of the token parameters of a text. -/
def maskParameters (text : List Char) : List Char :=
  match _h : afterParameter? text with
  | some rest => parameter ++ mask ++ maskParameters rest
  | none =>
    match text with
    | [] => []
    | c :: rest => c :: maskParameters rest
termination_by text.length
decreasing_by
  · exact afterParameter?_length _h
  · simp

-- ---------------------------------------------------------------------------
-- Generated tokens
-- ---------------------------------------------------------------------------

/-- Does a text begin in the middle of a word? -/
def beginsWithWord : List Char → Bool
  | [] => false
  | c :: _ => Unicode.isWord c

/-- What follows the generated token at the start of a text. That no word
character comes before the text is the caller's to check. -/
def afterToken? (text : List Char) : Option (List Char) :=
  if 8 ≤ (text.takeWhile Hex.isSmallDigit).length then
    match text.dropWhile Hex.isSmallDigit with
    | '-' :: rest =>
      if (rest.take 32).length = 32 ∧ (rest.take 32).all Hex.isSmallDigit ∧
          !beginsWithWord (rest.drop 32) then
        some (rest.drop 32)
      else none
    | _ => none
  else none

theorem afterToken?_length {text rest : List Char} (h : afterToken? text = some rest) :
    rest.length < text.length := by
  unfold afterToken? at h
  split at h
  · split at h
    · rename_i tail heq
      have h₁ := (text.dropWhile_suffix Hex.isSmallDigit).length_le
      rw [heq] at h₁
      simp only [List.length_cons] at h₁
      split at h
      · simp only [Option.some.injEq] at h
        subst h
        rw [List.length_drop]
        omega
      · simp at h
    · simp at h
  · simp at h

/-- Masks the generated tokens of a text. `inWord` tells whether a word
character stands right before it. -/
def maskTokens (inWord : Bool) (text : List Char) : List Char :=
  match text with
  | [] => []
  | c :: rest =>
    if inWord then c :: maskTokens (Unicode.isWord c) rest
    else
      match _h : afterToken? (c :: rest) with
      | some behind => mask ++ maskTokens true behind
      | none => c :: maskTokens (Unicode.isWord c) rest
termination_by text.length
decreasing_by
  · simp
  · exact afterToken?_length _h
  · simp

-- ---------------------------------------------------------------------------
-- All three
-- ---------------------------------------------------------------------------

/-- The text with its secrets masked. -/
def redact (text : List Char) : List Char :=
  maskTokens false (maskParameters (maskCredentials text))

/-- The same, from text to text. -/
def redactText (text : String) : String := String.ofList (redact text.toList)

end Flagpost.Redaction
