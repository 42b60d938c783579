import Flagpost.Unicode.Unshown

/-!
# Flagpost — quoted text

An error message that cites a text from outside shows it between quotation
marks, with everything a terminal would not show written out: the usual
backslash forms, and `\u{…}` with the code point in hexadecimal for the rest.
-/

namespace Flagpost.Quoted

/-- One character as it stands inside the quotation marks. -/
def escape (c : Char) : List Char :=
  if c = '\x00' then ['\\', '0']
  else if c = '\t' then ['\\', 't']
  else if c = '\r' then ['\\', 'r']
  else if c = '\n' then ['\\', 'n']
  else if c = '"' then ['\\', '"']
  else if c = '\\' then ['\\', '\\']
  else if Unicode.isUnshown c then
    ['\\', 'u', '\x7b'] ++ Nat.toDigits 16 c.toNat ++ ['\x7d']
  else [c]

/-- The text between quotation marks. -/
def quote (text : String) : String :=
  String.ofList ('"' :: text.toList.flatMap escape ++ ['"'])

end Flagpost.Quoted
