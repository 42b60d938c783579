/-!
# Flagpost — text as bytes

Files, request bodies and log lines are byte sequences; names, tokens and
messages are texts. This module goes between the two:

* `Utf8.encode` writes a text as its bytes;
* `Utf8.decode?` reads bytes strictly: it answers only for a byte sequence
  that *is* the encoding of a text;
* `Utf8.lossy` reads any bytes at all. Each maximal piece that no character
  can begin with becomes one U+FFFD, so a damaged log line is still a line;
* `Utf8.soundLength` says how far bytes are the encoding of a text.

`Utf8.takeFirst` is the step both the lossy reading and its users share: it
takes one character, or one malformed piece, off the front.
-/

namespace Flagpost

/-- A byte sequence. -/
abbrev Bytes := List UInt8

namespace Utf8

/-- The bytes of a text. -/
def encode (text : String) : Bytes := text.toByteArray.data.toList

/-- The text these bytes encode, if they encode one. -/
def decode? (bytes : Bytes) : Option String := String.fromUTF8? ⟨bytes.toArray⟩

/-- What stands for a malformed piece. -/
def replacement : Char := '\uFFFD'

/-- A byte that can only continue a character. -/
def isContinuation (b : UInt8) : Bool := 0x80 ≤ b && b ≤ 0xBF

/-- How many bytes a character with this first byte has; `0` for a byte that
begins none. -/
def width (lead : UInt8) : Nat :=
  if lead < 0x80 then 1
  else if lead < 0xC2 then 0
  else if lead < 0xE0 then 2
  else if lead < 0xF0 then 3
  else if lead < 0xF5 then 4
  else 0

/-- The bytes allowed second after `lead`: the ranges shut out overlong
forms, surrogates and values past U+10FFFF. -/
def allowsSecond (lead second : UInt8) : Bool :=
  if lead = 0xE0 then 0xA0 ≤ second && second ≤ 0xBF
  else if lead = 0xED then 0x80 ≤ second && second ≤ 0x9F
  else if lead = 0xF0 then 0x90 ≤ second && second ≤ 0xBF
  else if lead = 0xF4 then 0x80 ≤ second && second ≤ 0x8F
  else isContinuation second

/-- Six more bits of a code point. -/
def extend (high : Nat) (b : UInt8) : Nat := high * 64 + (b.toNat - 0x80)

/-- Takes one character off the front of `lead :: rest`, or, as `none`, the
longest malformed piece; beside it, what is left. -/
def takeFirst (lead : UInt8) (rest : Bytes) : Option Char × Bytes :=
  match width lead with
  | 1 => (some (Char.ofNat lead.toNat), rest)
  | 2 =>
    match rest with
    | b :: after =>
      if allowsSecond lead b then
        (some (Char.ofNat (extend (lead.toNat - 0xC0) b)), after)
      else (none, rest)
    | [] => (none, rest)
  | 3 =>
    match rest with
    | b :: after =>
      if allowsSecond lead b then
        match after with
        | c :: after' =>
          if isContinuation c then
            (some (Char.ofNat (extend (extend (lead.toNat - 0xE0) b) c)), after')
          else (none, after)
        | [] => (none, after)
      else (none, rest)
    | [] => (none, rest)
  | 4 =>
    match rest with
    | b :: after =>
      if allowsSecond lead b then
        match after with
        | c :: after' =>
          if isContinuation c then
            match after' with
            | d :: after'' =>
              if isContinuation d then
                (some (Char.ofNat (extend (extend (extend (lead.toNat - 0xF0) b) c) d)), after'')
              else (none, after')
            | [] => (none, after')
          else (none, after)
        | [] => (none, after)
      else (none, rest)
    | [] => (none, rest)
  | _ => (none, rest)

/-- What is left is no longer than what followed the first byte. -/
theorem takeFirst_length (lead : UInt8) (rest : Bytes) :
    (takeFirst lead rest).2.length ≤ rest.length := by
  unfold takeFirst
  repeat' split
  all_goals (simp only [List.length_cons]; omega)

/-- Reads any bytes, one U+FFFD for each malformed piece. -/
def lossy : Bytes → List Char
  | [] => []
  | lead :: rest =>
    (takeFirst lead rest).1.getD replacement :: lossy (takeFirst lead rest).2
termination_by bytes => bytes.length
decreasing_by
  have := takeFirst_length lead rest
  simp only [List.length_cons]
  omega

/-- How many bytes stand before the first malformed piece, after so many that
are known to be sound. -/
def soundLengthFrom (sound : Nat) : Bytes → Nat
  | [] => sound
  | lead :: rest =>
    match (takeFirst lead rest).1 with
    | none => sound
    | some _ => soundLengthFrom (sound + width lead) (takeFirst lead rest).2
termination_by bytes => bytes.length
decreasing_by
  have := takeFirst_length lead rest
  simp only [List.length_cons]
  omega

/-- How many bytes stand before the first malformed piece. -/
def soundLength (bytes : Bytes) : Nat := soundLengthFrom 0 bytes

/-- The text of any bytes, malformed pieces replaced. -/
def lossyText (bytes : Bytes) : String := String.ofList (lossy bytes)

/-- Reading what was written gives the text back. -/
theorem decode?_encode (text : String) : decode? (encode text) = some text := by
  simp [decode?, encode, String.fromUTF8?, text.isValidUTF8, String.fromUTF8]

end Utf8

end Flagpost
