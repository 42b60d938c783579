import Flagpost.Text.Hex

/-!
# Flagpost — percent-encoding

A byte that may not stand in a request target as it is, is written as `%` and
two hexadecimal digits of either case. Decoding leaves a `%` that no two
digits follow as it stands.
-/

namespace Flagpost.Percent

/-- The byte `%`. -/
def sign : UInt8 := 0x25

/-- Replaces every encoded byte by the byte. -/
def decode : Bytes → Bytes
  | a :: b :: c :: rest =>
    if a = sign then
      match Hex.byteValue? b, Hex.byteValue? c with
      | some high, some low => UInt8.ofNat (high * 16 + low) :: decode rest
      | _, _ => a :: decode (b :: c :: rest)
    else a :: decode (b :: c :: rest)
  | short => short

/-- Decodes the value of a form parameter: a plus sign is a space, and bytes
that encode no text are replaced. -/
def decodeFormValue (value : String) : String :=
  let spaced := value.toList.map fun c => if c = '+' then ' ' else c
  Utf8.lossyText (decode (Utf8.encode (String.ofList spaced)))

end Flagpost.Percent
