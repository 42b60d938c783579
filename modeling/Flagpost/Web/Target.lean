import Flagpost.Text.Blank

/-!
# Flagpost — request targets

What a request asks for is its **target**: usually a path with an optional
query, but a whole address (`http://host/path?query`), a bare authority or a
lone `*` are targets too. Only the path and the query matter here; the other
parts are checked and left behind. A fragment is left behind unchecked.

A target arrives as bytes, of which the path and the query have to be text.

* `Target.ofBytes` reads a target or says why it is none.
* `Target.path` is the path as it was written, still encoded.
-/

namespace Flagpost

/-- The parts of a request target that are looked at. -/
structure Target where
  path : String
  query : Option String
deriving DecidableEq

/-- Why bytes are no request target. -/
inductive TargetError
  | character
  | authority
  | format
  | tooLong
  | empty
  | schemeTooLong
deriving DecidableEq

/-- The wording of a refusal. -/
def TargetError.message : TargetError → String
  | .character => "invalid uri character"
  | .authority => "invalid authority"
  | .format => "invalid format"
  | .tooLong => "uri too long"
  | .empty => "empty string"
  | .schemeTooLong => "scheme too long"

namespace Target

/-- The most bytes a target may have. -/
def maxLength : Nat := 65534

/-- The most characters a scheme may have. -/
def maxSchemeLength : Nat := 64

/-- The most colons an authority may have before it is refused outright. -/
def maxColons : Nat := 8

-- ---------------------------------------------------------------------------
-- Path and query
-- ---------------------------------------------------------------------------

/-- The byte `/`. -/
def slash : UInt8 := 0x2F

/-- The byte `?`. -/
def questionMark : UInt8 := 0x3F

/-- The byte `#`. -/
def hash : UInt8 := 0x23

/-- The byte `*`. -/
def star : UInt8 := 0x2A

/-- A byte that may stand in a path. -/
def isPathByte (b : UInt8) : Bool :=
  0x21 ≤ b && b != hash && b != 0x3C && b != 0x3E && b != questionMark && b != 0x60

/-- A byte that may stand in a query. -/
def isQueryByte (b : UInt8) : Bool :=
  0x21 ≤ b && b != 0x22 && b != hash && b != 0x3C && b != 0x3E && b != 0x7F

/-- The text of a path or a query whose bytes are all allowed. -/
def textOf (allowed : UInt8 → Bool) (bytes : Bytes) : Except TargetError String :=
  if !bytes.all allowed then .error .character
  else
    match Utf8.decode? bytes with
    | some text => .ok text
    | none => .error .character

/-- Reads a path and its query, without the fragment. An empty path is the
root. -/
def ofPathAndQuery (bytes : Bytes) : Except TargetError Target := do
  let path := bytes.takeWhile fun b => b != questionMark && b != hash
  let shown ← textOf isPathByte (if path.isEmpty then [slash] else path)
  match bytes.drop path.length with
  | b :: rest =>
    if b = questionMark then
      let query ← textOf isQueryByte (rest.takeWhile (· != hash))
      pure ⟨shown, some query⟩
    else pure ⟨shown, none⟩
  | [] => pure ⟨shown, none⟩

-- ---------------------------------------------------------------------------
-- Scheme and authority
-- ---------------------------------------------------------------------------

/-- Is the byte a letter, a digit or one of some signs? -/
def isAlphanumOr (signs : String) (b : UInt8) : Bool :=
  let c := Char.ofNat b.toNat
  c.isAlphanum || signs.toList.contains c

/-- A byte of a scheme. -/
def isSchemeByte (b : UInt8) : Bool := isAlphanumOr "+-.~" b

/-- A byte of an authority, `%` left aside. -/
def isAuthorityByte (b : UInt8) : Bool := isAlphanumOr "!$&'()*+,-.:;=@[]_~" b

/-- What a scheme ends with. -/
def schemeEnd : Bytes := Utf8.encode "://"

/-- What follows the scheme and its `://`, if there is a scheme. -/
def afterScheme? (bytes : Bytes) : Except TargetError (Option Bytes) :=
  let scheme := bytes.takeWhile isSchemeByte
  let rest := bytes.drop scheme.length
  if !schemeEnd.isPrefixOf rest || bytes.length ≤ schemeEnd.length then .ok none
  else if maxSchemeLength < scheme.length then .error .schemeTooLong
  else .ok (some (rest.drop schemeEnd.length))

/-- What has been seen of an authority so far. -/
structure AuthorityScan where
  colons : Nat := 0
  opened : Bool := false
  closed : Bool := false
  percent : Bool := false
  endsWithAt : Bool := false

/-- Looks at one more byte of an authority. Colons and percent signs before an
`@` or inside brackets do not belong to a port, so they are forgotten. -/
def AuthorityScan.step (s : AuthorityScan) (b : UInt8) : Except TargetError AuthorityScan :=
  let c := Char.ofNat b.toNat
  let s := { s with endsWithAt := c == '@' }
  if c = ':' then
    if maxColons ≤ s.colons then .error .authority else .ok { s with colons := s.colons + 1 }
  else if c = '[' then
    if s.percent || s.opened then .error .authority else .ok { s with opened := true }
  else if c = ']' then
    if !s.opened || s.closed then .error .authority
    else .ok { s with closed := true, colons := 0, percent := false }
  else if c = '@' then .ok { s with colons := 0, percent := false }
  else if c = '%' then .ok { s with percent := true }
  else if isAuthorityByte b then .ok s
  else .error .character

/-- Is the authority complete and well-formed? -/
def AuthorityScan.isAccepted (s : AuthorityScan) : Bool :=
  s.opened == s.closed && s.colons ≤ 1 && !s.endsWithAt && !s.percent

/-- Splits off the authority: up to the first `/`, `?` or `#`. -/
def splitAuthority (bytes : Bytes) : Except TargetError (Bytes × Bytes) := do
  let authority := bytes.takeWhile fun b => b != slash && b != questionMark && b != hash
  let scan ← authority.foldlM AuthorityScan.step {}
  if scan.isAccepted then .ok (authority, bytes.drop authority.length) else .error .authority

-- ---------------------------------------------------------------------------
-- Whole targets
-- ---------------------------------------------------------------------------

/-- The target that is an authority and nothing else. -/
def bare : Target := ⟨"", none⟩

/-- Reads a target that does not begin with a path. -/
def ofAddress (bytes : Bytes) : Except TargetError Target := do
  match ← afterScheme? bytes with
  | none =>
    let (_, rest) ← splitAuthority bytes
    if rest.isEmpty then .ok bare else .error .format
  | some [] => .error .empty
  | some address =>
    let (authority, rest) ← splitAuthority address
    if authority.isEmpty then .error .format else ofPathAndQuery rest

/-- Reads a request target. -/
def ofBytes (bytes : Bytes) : Except TargetError Target :=
  if maxLength < bytes.length then .error .tooLong
  else
    match bytes with
    | [] => .error .empty
    | [b] =>
      if b = slash then ofPathAndQuery [b]
      else if b = star then .ok ⟨"*", none⟩
      else
        match splitAuthority [b] with
        | .error e => .error e
        | .ok (_, rest) => if rest.isEmpty then .ok bare else .error .character
    | b :: _ => if b = slash then ofPathAndQuery bytes else ofAddress bytes

end Target

end Flagpost
