import Flagpost.Text.Hex
import Flagpost.Unicode.Identifier

/-!
# Flagpost — the syntax of JSON5

Configuration files are JSON5: comments, unquoted member names, strings in
either kind of quotation marks, commas before a closing bracket, hexadecimal
numbers. Reading goes in two steps. This module takes a document apart and
keeps numbers and escapes as they were written; what they mean, and whether
they mean anything, is settled afterwards. So a fault of syntax anywhere in a
document comes before any fault of meaning.

Each reader takes characters off the front of a text and answers with what it
read and what follows, or with nothing if the text does not begin that way.
-/

namespace Flagpost

/-- A piece of a string as it was written. -/
inductive StringPiece
  /-- A character. -/
  | char (c : Char)
  /-- A character behind a backslash. -/
  | escaped (c : Char)
  /-- Two hexadecimal digits behind `\x`. -/
  | byte (n : Nat)
  /-- Four hexadecimal digits behind `\u`: a sixteen-bit unit. -/
  | unit (n : Nat)
deriving DecidableEq

/-- A document as it was written. -/
inductive Json5
  | null
  | bool (b : Bool)
  | number (text : List Char)
  | string (pieces : List StringPiece)
  | array (items : List Json5)
  | object (members : List (List StringPiece × Json5))

namespace Json5

-- ---------------------------------------------------------------------------
-- What stands between tokens
-- ---------------------------------------------------------------------------

/-- A character that ends a line. -/
def isLineEnd (c : Char) : Bool := c == '\n' || c == '\r' || c == '\u2028' || c == '\u2029'

/-- White space between tokens. -/
def isSpace (c : Char) : Bool :=
  let n := c.toNat
  c == '\t' || n == 0x0B || n == 0x0C || c == ' ' || n == 0xA0 || n == 0xFEFF || n == 0x1680 ||
    (0x2000 ≤ n && n ≤ 0x200A) || n == 0x202F || n == 0x205F || n == 0x3000 || isLineEnd c

/-- Where a walk over white space and comments is. -/
inductive Gap
  /-- Between comments. -/
  | space
  /-- In a comment that ends with the line. -/
  | line
  /-- In a comment that has to be closed, and the text it begins. -/
  | block (opened : List Char)

/-- What follows white space and comments. A comment that is never closed is
none. -/
def skip : Gap → List Char → List Char
  | .space, '/' :: '/' :: rest => skip .line rest
  | .space, '/' :: '*' :: rest => skip (.block ('/' :: '*' :: rest)) rest
  | .space, c :: rest => if isSpace c then skip .space rest else c :: rest
  | .line, c :: rest => if isLineEnd c then skip .space rest else skip .line rest
  | .block _, '*' :: '/' :: rest => skip .space rest
  | .block opened, _ :: rest => skip (.block opened) rest
  | .block opened, [] => opened
  | _, [] => []

/-- What follows white space and comments. -/
def next (text : List Char) : List Char := skip .space text

-- ---------------------------------------------------------------------------
-- Strings and names
-- ---------------------------------------------------------------------------

/-- Reads `count` hexadecimal digits. -/
def readHex : Nat → Nat → List Char → Option (Nat × List Char)
  | 0, n, text => some (n, text)
  | _ + 1, _, [] => none
  | count + 1, n, c :: rest => (Hex.value? c).bind fun d => readHex count (n * 16 + d) rest

theorem readHex_length {count n m : Nat} {text rest : List Char}
    (h : readHex count n text = some (m, rest)) : rest.length ≤ text.length := by
  induction count generalizing n text with
  | zero =>
    simp only [readHex, Option.some.injEq, Prod.mk.injEq] at h
    simp [h.2]
  | succ count ih =>
    cases text with
    | nil => simp [readHex] at h
    | cons c text =>
      obtain ⟨d, _, hd⟩ := Option.bind_eq_some_iff.1 h
      have := ih hd
      simp only [List.length_cons]
      omega

/-- Reads what follows a backslash in a string: a piece, or none for a line
that goes on. -/
def readEscape : List Char → Option (Option StringPiece × List Char)
  | [] => none
  | c :: rest =>
    if c = 'x' then (readHex 2 0 rest).map fun (n, rest) => (some (.byte n), rest)
    else if c = 'u' then (readHex 4 0 rest).map fun (n, rest) => (some (.unit n), rest)
    else if c.isDigit ∧ c ≠ '0' then none
    else if c = '\r' ∧ rest.head? = some '\n' then some (none, rest.tail)
    else if isLineEnd c then some (none, rest)
    else some (some (.escaped c), rest)

theorem readEscape_length {text rest : List Char} {piece? : Option StringPiece}
    (h : readEscape text = some (piece?, rest)) : rest.length < text.length := by
  unfold readEscape at h
  split at h
  · simp at h
  · rename_i c tail
    simp only [List.length_cons]
    split at h
    · obtain ⟨⟨n, r⟩, hr, he⟩ := Option.map_eq_some_iff.1 h
      have := readHex_length hr
      simp only [Prod.mk.injEq] at he
      rw [← he.2]
      omega
    · split at h
      · obtain ⟨⟨n, r⟩, hr, he⟩ := Option.map_eq_some_iff.1 h
        have := readHex_length hr
        simp only [Prod.mk.injEq] at he
        rw [← he.2]
        omega
      · have hr : rest = tail ∨ rest = tail.tail := by
          repeat' split at h
          all_goals simp_all
        have := tail.length_tail
        rcases hr with rfl | rfl <;> omega

/-- Reads the rest of a string up to its closing mark. `done` has the pieces
read so far, the last first. -/
def readStringRest (mark : Char) (done : List StringPiece) (text : List Char) :
    Option (List StringPiece × List Char) :=
  match text with
  | [] => none
  | c :: rest =>
    if c = mark then some (done.reverse, rest)
    else if c = '\\' then
      match _h : readEscape rest with
      | some (piece?, after) => readStringRest mark (piece?.toList ++ done) after
      | none => none
    else if isLineEnd c then none
    else readStringRest mark (.char c :: done) rest
termination_by text.length
decreasing_by
  · have := readEscape_length _h
    simp only [List.length_cons]
    omega
  · simp

/-- A character an unquoted name may begin with. -/
def isNameStart (c : Char) : Bool := c == '$' || c == '_' || Unicode.isLetter c

/-- A character an unquoted name may go on with. -/
def isNamePart (c : Char) : Bool :=
  isNameStart c || Unicode.isNamePart c || c == '\u200C' || c == '\u200D'

/-- Reads one piece of an unquoted name. -/
def readNamePiece (allowed : Char → Bool) : List Char → Option (StringPiece × List Char)
  | '\\' :: 'u' :: rest => (readHex 4 0 rest).map fun (n, rest) => (.unit n, rest)
  | c :: rest => if allowed c then some (.char c, rest) else none
  | [] => none

theorem readNamePiece_length {allowed : Char → Bool} {text rest : List Char} {piece : StringPiece}
    (h : readNamePiece allowed text = some (piece, rest)) : rest.length < text.length := by
  unfold readNamePiece at h
  split at h
  · obtain ⟨⟨n, r⟩, hr, he⟩ := Option.map_eq_some_iff.1 h
    have := readHex_length hr
    simp only [Prod.mk.injEq] at he
    rw [← he.2]
    simp only [List.length_cons]
    omega
  · split at h
    · simp only [Option.some.injEq, Prod.mk.injEq] at h
      simp [h.2]
    · simp at h
  · simp at h

/-- Reads the rest of an unquoted name. `done` has the pieces read so far, the
last first. -/
def readNameRest (done : List StringPiece) (text : List Char) :
    List StringPiece × List Char :=
  match _h : readNamePiece isNamePart text with
  | some (piece, rest) => readNameRest (piece :: done) rest
  | none => (done.reverse, text)
termination_by text.length
decreasing_by exact readNamePiece_length _h

/-- Reads a string in either kind of quotation marks. -/
def readQuoted? : List Char → Option (List StringPiece × List Char)
  | '"' :: rest => readStringRest '"' [] rest
  | '\'' :: rest => readStringRest '\'' [] rest
  | _ => none

/-- Does a text begin with a quotation mark? -/
def isQuoted (text : List Char) : Bool :=
  text.head?.any fun c => c == '"' || c == '\''

/-- Reads the name of a member. -/
def readName (text : List Char) : Option (List StringPiece × List Char) :=
  if isQuoted text then readQuoted? text
  else
    (readNamePiece isNameStart text).map fun (piece, rest) => readNameRest [piece] rest

-- ---------------------------------------------------------------------------
-- Numbers
-- ---------------------------------------------------------------------------

/-- Takes a literal off the front. -/
def take? : List Char → List Char → Option (List Char)
  | [], text => some text
  | _ :: _, [] => none
  | l :: literal, c :: text => if c = l then take? literal text else none

/-- How many characters of a text belong to an exponent. -/
def exponentLength : List Char → Nat
  | [] => 0
  | c :: rest =>
    if c = 'e' ∨ c = 'E' then
      let sign := if rest.head? = some '+' ∨ rest.head? = some '-' then 1 else 0
      let digits := ((rest.drop sign).takeWhile Char.isDigit).length
      if digits = 0 then 0 else 1 + sign + digits
    else 0

/-- How many characters of a text belong to a decimal number. -/
def decimalLength (text : List Char) : Nat :=
  let whole :=
    match text with
    | '0' :: _ => 1
    | _ => (text.takeWhile Char.isDigit).length
  match text.drop whole with
  | '.' :: rest =>
    let digits := (rest.takeWhile Char.isDigit).length
    if whole = 0 ∧ digits = 0 then 0
    else whole + 1 + digits + exponentLength (rest.drop digits)
  | rest => if whole = 0 then 0 else whole + exponentLength rest

/-- How many characters of a text belong to a number without its sign. -/
def unsignedLength (text : List Char) : Nat :=
  let hex :=
    match text with
    | '0' :: x :: rest =>
      if x = 'x' ∨ x = 'X' then (rest.takeWhile fun c => (Hex.value? c).isSome).length else 0
    | _ => 0
  if hex ≠ 0 then 2 + hex
  else if decimalLength text ≠ 0 then decimalLength text
  else if (take? "Infinity".toList text).isSome then 8
  else if (take? "NaN".toList text).isSome then 3
  else 0

/-- Reads a number. -/
def readNumber (text : List Char) : Option (Json5 × List Char) :=
  let sign := if text.head? = some '+' ∨ text.head? = some '-' then 1 else 0
  let length := unsignedLength (text.drop sign)
  if length = 0 then none
  else some (.number (text.take (sign + length)), text.drop (sign + length))

-- ---------------------------------------------------------------------------
-- Values
-- ---------------------------------------------------------------------------

/-- Reads a word, a string or a number. -/
def readSimple (text : List Char) : Option (Json5 × List Char) :=
  if isQuoted text then (readQuoted? text).map fun (s, rest) => (.string s, rest)
  else
    match take? "null".toList text, take? "true".toList text, take? "false".toList text with
    | some rest, _, _ => some (.null, rest)
    | _, some rest, _ => some (.bool true, rest)
    | _, _, some rest => some (.bool false, rest)
    | _, _, _ => readNumber text

mutual

/-- Reads a value. -/
def readValue : Nat → List Char → Option (Json5 × List Char)
  | 0, _ => none
  | fuel + 1, text =>
    match text with
    | '[' :: rest =>
      match next rest with
      | ']' :: rest => some (.array [], rest)
      | rest => (readItems fuel [] rest).map fun (items, rest) => (.array items, rest)
    | '\x7b' :: rest =>
      match next rest with
      | '\x7d' :: rest => some (.object [], rest)
      | rest => (readMembers fuel [] rest).map fun (members, rest) => (.object members, rest)
    | _ => readSimple text

/-- Reads the items of an array up to its end. -/
def readItems : Nat → List Json5 → List Char → Option (List Json5 × List Char)
  | 0, _, _ => none
  | fuel + 1, done, text =>
    match readValue fuel text with
    | none => none
    | some (item, rest) =>
      match next rest with
      | ']' :: rest => some ((item :: done).reverse, rest)
      | ',' :: rest =>
        match next rest with
        | ']' :: rest => some ((item :: done).reverse, rest)
        | rest => readItems fuel (item :: done) rest
      | _ => none

/-- Reads the members of an object up to its end. -/
def readMembers : Nat → List (List StringPiece × Json5) → List Char →
    Option (List (List StringPiece × Json5) × List Char)
  | 0, _, _ => none
  | fuel + 1, done, text =>
    match readName text with
    | none => none
    | some (name, rest) =>
      match next rest with
      | ':' :: rest =>
        match readValue fuel (next rest) with
        | none => none
        | some (value, rest) =>
          match next rest with
          | '\x7d' :: rest => some (((name, value) :: done).reverse, rest)
          | ',' :: rest =>
            match next rest with
            | '\x7d' :: rest => some (((name, value) :: done).reverse, rest)
            | rest => readMembers fuel ((name, value) :: done) rest
          | _ => none
      | _ => none

end

/-- Takes a whole document apart. -/
def ofText? (text : String) : Option Json5 :=
  let chars := text.toList
  match readValue (chars.length + 1) (next chars) with
  | some (value, rest) => if (next rest).isEmpty then some value else none
  | none => none

end Json5

end Flagpost
