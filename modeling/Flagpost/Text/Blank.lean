import Flagpost.Text.Utf8

/-!
# Flagpost — white space

The characters with the Unicode property `White_Space`, and the trimming of
texts at them. Header values, configured paths and answers at a prompt are
all trimmed by this one rule.
-/

namespace Flagpost

/-- White space, as Unicode has it. -/
def isBlank (c : Char) : Bool :=
  let n := c.toNat
  (9 ≤ n && n ≤ 13) || n == 0x20 || n == 0x85 || n == 0xA0 || n == 0x1680 ||
    (0x2000 ≤ n && n ≤ 0x200A) || n == 0x2028 || n == 0x2029 || n == 0x202F ||
    n == 0x205F || n == 0x3000

/-- A control character: the two blocks C0 and C1 with DEL. -/
def isControl (c : Char) : Bool := c.toNat < 0x20 || (0x7F ≤ c.toNat && c.toNat < 0xA0)

namespace Blank

/-- Drops the white space at the front. -/
def trimStart (text : List Char) : List Char := text.dropWhile isBlank

/-- Drops what satisfies `p` at the end. -/
def dropEndWhile (p : Char → Bool) (text : List Char) : List Char :=
  (text.reverse.dropWhile p).reverse

/-- Drops the white space at the end. -/
def trimEnd (text : List Char) : List Char := dropEndWhile isBlank text

/-- Drops the white space at both ends. -/
def trim (text : List Char) : List Char := trimEnd (trimStart text)

end Blank

/-- The text without the white space at its ends. -/
def trimmed (text : String) : String := String.ofList (Blank.trim text.toList)

/-- A text that is empty or white space throughout. -/
def isBlankText (text : String) : Bool := text.toList.all isBlank

/-- The text with its ASCII capitals made small. -/
def lowercased (text : String) : String := String.ofList (text.toList.map Char.toLower)

end Flagpost
