import Flagpost.Json.Cursor
import Flagpost.Text.Hex

/-!
# Flagpost — strings of a document

Between its quotation marks a string has plain bytes and escapes. The bytes
are collected and have to be the encoding of a text as a whole. A character
past U+FFFF may be written as two escapes, one for each surrogate; a
surrogate on its own is refused.

Two readers share the grammar: `readString` gives the text, `skipString`
passes a string nobody asks for, without looking at what its bytes encode.
-/

namespace Flagpost.JsonReader

/-- The byte `"`. -/
def quote : UInt8 := 0x22

/-- The byte `\`. -/
def backslash : UInt8 := 0x5C

/-- The byte `u`. -/
def letterU : UInt8 := 0x75

/-- What a letter stands for behind a backslash. -/
def simpleEscape? (b : UInt8) : Option UInt8 :=
  if b = 0x22 ∨ b = 0x5C ∨ b = 0x2F then some b
  else if b = 0x62 then some 0x08
  else if b = 0x66 then some 0x0C
  else if b = 0x6E then some 0x0A
  else if b = 0x72 then some 0x0D
  else if b = 0x74 then some 0x09
  else none

/-- Passes so many bytes. -/
def passMany : Nat → JsonReader Unit
  | 0 => pure ()
  | count + 1 => do
    pass
    passMany count

/-- The value of four hexadecimal digits. -/
def hexValue? : Bytes → Option Nat
  | [a, b, c, d] => do
    let a ← Hex.byteValue? a
    let b ← Hex.byteValue? b
    let c ← Hex.byteValue? c
    let d ← Hex.byteValue? d
    pure (((a * 16 + b) * 16 + c) * 16 + d)
  | _ => none

/-- Reads four hexadecimal digits. -/
def readHex : JsonReader Nat := do
  let digits ← (fun c => .ok (c.rest.take 4, c) : JsonReader Bytes)
  passMany digits.length
  if digits.length < 4 then failHere .endInString
  else
    match hexValue? digits with
    | some n => pure n
    | none => failHere .escapeInvalid

/-- Takes the next byte of a string. -/
def nextInString : JsonReader UInt8 := do
  match ← next with
  | some b => pure b
  | none => failHere .endInString

/-- Passes one byte of the second half of a character that has to be `b`. -/
def passHalf (b : UInt8) : JsonReader Unit := do
  match ← peek with
  | none => failHere .endInString
  | some found =>
    pass
    if found = b then pure () else failHere .endOfHexEscape

/-- Reads the digits of a `\u` escape, and the second escape if the first is
the first half of a character. -/
def readCodePoint : JsonReader Char := do
  let n ← readHex
  if 0xDC00 ≤ n ∧ n ≤ 0xDFFF then failHere .loneSurrogate
  else if n < 0xD800 ∨ 0xDBFF < n then pure (Char.ofNat n)
  else
    passHalf backslash
    passHalf letterU
    let m ← readHex
    if m < 0xDC00 ∨ 0xDFFF < m then failHere .loneSurrogate
    else pure (Char.ofNat ((n - 0xD800) * 1024 + (m - 0xDC00) + 0x10000))

/-- Reads an escape behind its backslash, as the bytes it stands for. -/
def readEscape : JsonReader Bytes := do
  let b ← nextInString
  match simpleEscape? b with
  | some plain => pure [plain]
  | none =>
    if b = letterU then
      let c ← readCodePoint
      pure (String.utf8EncodeChar c)
    else failHere .escapeInvalid

/-- Fails because the bytes of a string, which all have been passed, are no
text. The place is counted back from the end of the string, as many columns
as bytes follow the sound ones; an escape counts as the bytes it stands for. -/
def failInText (bytes : Bytes) : JsonReader String :=
  fun c => .error ⟨.notText, c.line, c.column + Utf8.soundLength bytes + 1 - bytes.length⟩

/-- Reads the rest of a string, behind its first quotation mark. `done` has
the bytes read so far, the last first. -/
def readStringRest : Nat → Bytes → JsonReader String
  | 0, _ => failHere .endInString
  | fuel + 1, done => do
    match ← peek with
    | none => failHere .endInString
    | some b =>
      if b = quote then
        match Utf8.decode? done.reverse with
        | some text => do
          pass
          pure text
        | none => failInText done.reverse
      else if b = backslash then
        pass
        let bytes ← readEscape
        readStringRest fuel (bytes.reverse ++ done)
      else if b < 0x20 then
        pass
        failHere .controlCharacter
      else
        pass
        readStringRest fuel (b :: done)

/-- Reads a string whose quotation mark comes next. -/
def readString : JsonReader String := do
  pass
  readStringRest (← steps) []

/-- Passes an escape behind its backslash. -/
def skipEscape : JsonReader Unit := do
  let b ← nextInString
  match simpleEscape? b with
  | some _ => pure ()
  | none =>
    if b = letterU then
      let _ ← readHex
      pure ()
    else failHere .escapeInvalid

/-- Passes the rest of a string, behind its first quotation mark. -/
def skipStringRest : Nat → JsonReader Unit
  | 0 => failHere .endInString
  | fuel + 1 => do
    match ← peek with
    | none => failHere .endInString
    | some b =>
      if b = quote then pass
      else if b = backslash then
        pass
        skipEscape
        skipStringRest fuel
      else if b < 0x20 then failHere .controlCharacter
      else
        pass
        skipStringRest fuel

/-- Passes a string whose quotation mark comes next. -/
def skipString : JsonReader Unit := do
  pass
  skipStringRest (← steps)

end Flagpost.JsonReader
