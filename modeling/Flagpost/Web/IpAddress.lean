import Flagpost.Text.Decimal
import Flagpost.Text.Hex

/-!
# Flagpost — internet addresses

Addresses of both versions, and an address with a port. Reading is strict:
four decimal numbers without leading zeros, or eight groups of up to four
hexadecimal digits, of which one run of at least one zero group may be left
out and the last two may be written as an address of version 4. Writing is
canonical: the first of the longest runs of two or more zero groups is left
out, and an address that stands for one of version 4 shows it.
-/

namespace Flagpost

/-- An internet address: four bytes, or eight groups of sixteen bits. -/
inductive IpAddress
  | v4 (a b c d : UInt8)
  | v6 (a b c d e f g h : UInt16)
deriving DecidableEq

namespace IpAddress

-- ---------------------------------------------------------------------------
-- Reading
-- ---------------------------------------------------------------------------

/-- The digits at the start of a text that make one number. -/
def digitsOf (isDigit : Char → Bool) (text : List Char) : List Char := text.takeWhile isDigit

/-- Reads a decimal number below 256, without leading zeros. -/
def readByte (text : List Char) : Option (Nat × List Char) :=
  let digits := digitsOf Char.isDigit text
  let n := Decimal.valueOf digits
  if digits.isEmpty ∨ 3 < digits.length ∨ 255 < n ∨ (digits.head? = some '0' ∧ digits.length ≠ 1)
  then none
  else some (n, text.drop digits.length)

/-- Reads a group of up to four hexadecimal digits. -/
def readGroup (text : List Char) : Option (Nat × List Char) :=
  let digits := digitsOf (fun c => (Hex.value? c).isSome) text
  if digits.isEmpty ∨ 4 < digits.length then none
  else some (digits.foldl (fun n c => n * 16 + (Hex.value? c).getD 0) 0, text.drop digits.length)

/-- Passes a separator, unless nothing stands before it. -/
def passSeparator (separator : Char) (first : Bool) (text : List Char) : Option (List Char) :=
  if first then some text
  else
    match text with
    | c :: rest => if c = separator then some rest else none
    | [] => none

/-- Reads so many bytes with points between them. -/
def readBytes : Nat → Bool → List Char → Option (List Nat × List Char)
  | 0, _, text => some ([], text)
  | count + 1, first, text => do
    let text ← passSeparator '.' first text
    let (n, text) ← readByte text
    let (ns, text) ← readBytes count false text
    pure (n :: ns, text)

/-- Reads an address of version 4. -/
def readV4 (text : List Char) : Option (List Nat × List Char) := readBytes 4 true text

/-- Reads at most `most` groups with colons between them. The last two may be
an address of version 4; the answer tells whether they are. -/
def readGroups : Nat → Bool → List Char → List Nat × Bool × List Char
  | 0, _, text => ([], false, text)
  | most + 1, first, text =>
    let embedded :=
      if most = 0 then none else (passSeparator ':' first text).bind readV4
    match embedded with
    | some ([a, b, c, d], rest) => ([a * 256 + b, c * 256 + d], true, rest)
    | _ =>
      match (passSeparator ':' first text).bind readGroup with
      | none => ([], false, text)
      | some (n, rest) =>
        let (ns, isEmbedded, rest) := readGroups most false rest
        (n :: ns, isEmbedded, rest)

/-- Reads an address of version 6. -/
def readV6 (text : List Char) : Option (List Nat × List Char) :=
  let (front, isEmbedded, rest) := readGroups 8 true text
  if front.length = 8 then some (front, rest)
  else if isEmbedded then none
  else
    match rest with
    | ':' :: ':' :: rest =>
      let (back, _, rest) := readGroups (7 - front.length) true rest
      some (front ++ List.replicate (8 - front.length - back.length) 0 ++ back, rest)
    | _ => none

/-- The address with four bytes. -/
def ofBytes? : List Nat → Option IpAddress
  | [a, b, c, d] => some (v4 (.ofNat a) (.ofNat b) (.ofNat c) (.ofNat d))
  | _ => none

/-- The address with eight groups. -/
def ofGroups? : List Nat → Option IpAddress
  | [a, b, c, d, e, f, g, h] =>
    some (v6 (.ofNat a) (.ofNat b) (.ofNat c) (.ofNat d)
      (.ofNat e) (.ofNat f) (.ofNat g) (.ofNat h))
  | _ => none

/-- The address a text is, if it is one. -/
def ofChars? (text : List Char) : Option IpAddress :=
  match readV4 text with
  | some (bytes, []) => ofBytes? bytes
  | some (_, _ :: _) => none
  | none =>
    match readV6 text with
    | some (groups, []) => ofGroups? groups
    | _ => none

/-- The address a text is, if it is one. -/
def ofText? (text : String) : Option IpAddress := ofChars? text.toList

-- ---------------------------------------------------------------------------
-- Writing
-- ---------------------------------------------------------------------------

/-- Texts with a separator between them. -/
def joined (separator : Char) (texts : List (List Char)) : List Char :=
  (texts.intersperse [separator]).flatten

/-- Four bytes with points between them. -/
def bytesText (bytes : List Nat) : List Char := joined '.' (bytes.map Decimal.digits)

/-- Groups with colons between them. -/
def groupsText (groups : List Nat) : List Char := joined ':' (groups.map Hex.ofNat)

/-- How many of the groups are zero before the first that is not. -/
def zeros (groups : List Nat) : Nat := (groups.takeWhile (· == 0)).length

/-- Where the first of the longest runs of zero groups starts, and how long
it is. -/
def longestRun (groups : List Nat) : Nat × Nat :=
  (List.range groups.length).foldl
    (fun best start =>
      let length := zeros (groups.drop start)
      if best.2 < length then (start, length) else best)
    (0, 0)

/-- Eight groups as text. -/
def eightGroupsText (groups : List Nat) : List Char :=
  match groups with
  | [0, 0, 0, 0, 0, 0xFFFF, g, h] =>
    "::ffff:".toList ++ bytesText [g / 256, g % 256, h / 256, h % 256]
  | _ =>
    let (start, length) := longestRun groups
    if length ≤ 1 then groupsText groups
    else groupsText (groups.take start) ++ [':', ':'] ++ groupsText (groups.drop (start + length))

/-- An address as text. -/
def chars : IpAddress → List Char
  | v4 a b c d => bytesText ([a, b, c, d].map UInt8.toNat)
  | v6 a b c d e f g h => eightGroupsText ([a, b, c, d, e, f, g, h].map UInt16.toNat)

/-- An address as text. -/
def text (a : IpAddress) : String := String.ofList a.chars

end IpAddress

/-- An address and a port. -/
structure Endpoint where
  address : IpAddress
  port : Nat
deriving DecidableEq

/-- The address, in brackets if it has colons, and the port. -/
def Endpoint.text (e : Endpoint) : String :=
  let address :=
    match e.address with
    | .v4 .. => e.address.chars
    | .v6 .. => '[' :: e.address.chars ++ [']']
  String.ofList (address ++ ':' :: Decimal.digits e.port)

end Flagpost
