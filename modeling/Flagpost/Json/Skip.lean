import Flagpost.Json.NumberReader
import Flagpost.Json.StringReader

/-!
# Flagpost — values nobody asks for

A member with an unknown name is passed over, but its value still has to be
well-formed. The brackets that are open are kept in a list instead of being
followed by recursion, so that depth is no limit.
-/

namespace Flagpost.JsonReader

/-- A bracket that is open. -/
inductive Bracket
  | square
  | curly
deriving DecidableEq

/-- The byte that closes a bracket. -/
def Bracket.closing : Bracket → UInt8
  | square => 0x5D
  | curly => 0x7D

/-- The byte `,`. -/
def comma : UInt8 := 0x2C

/-- Passes the letters of a word behind its first one. -/
def passWord : List UInt8 → JsonReader Unit
  | [] => pure ()
  | b :: rest => do
    match ← next with
    | none => failHere .endInValue
    | some found => if found = b then passWord rest else failHere .wordExpected

/-- The letters of `null` behind the first. -/
def ull : List UInt8 := [0x75, 0x6C, 0x6C]

/-- The letters of `true` behind the first. -/
def rue : List UInt8 := [0x72, 0x75, 0x65]

/-- The letters of `false` behind the first. -/
def alse : List UInt8 := [0x61, 0x6C, 0x73, 0x65]

/-- Passes a colon. -/
def passColon : JsonReader Unit := do
  match ← peekToken with
  | some 0x3A => pass
  | some _ => failAtNext .colonExpected
  | none => failAtNext .endInObject

/-- Passes a value that has no brackets, or the opening bracket of one that
has. -/
def skipSimple : JsonReader (Option Bracket) := do
  match ← peekToken with
  | none => failAtNext .endInValue
  | some b =>
    if b = 0x6E then
      pass
      passWord ull
      pure none
    else if b = 0x74 then
      pass
      passWord rue
      pure none
    else if b = 0x66 then
      pass
      passWord alse
      pure none
    else if b = 0x2D then
      pass
      skipNumber
      pure none
    else if isDigit b then
      skipNumber
      pure none
    else if b = quote then
      skipString
      pure none
    else if b = 0x5B then
      pass
      pure (some .square)
    else if b = 0x7B then
      pass
      pure (some .curly)
    else failAtNext .valueExpected

/-- Passes closing brackets up to the next item. `filled` tells whether the
innermost bracket already has an item. The answer is the brackets that stay
open. -/
def skipClosing (filled : Bool) : List Bracket → JsonReader (List Bracket)
  | [] => pure []
  | bracket :: outer => do
    match ← peekToken with
    | none =>
      failAtNext (match bracket with | .square => .endInArray | .curly => .endInObject)
    | some b =>
      if filled ∧ b = comma then
        pass
        pure (bracket :: outer)
      else if b = bracket.closing then
        pass
        skipClosing true outer
      else if filled then
        failAtNext
          (match bracket with
            | .square => .commaOrBracketExpected
            | .curly => .commaOrBraceExpected)
      else pure (bracket :: outer)

/-- Passes the name of a member and its colon. -/
def skipName : JsonReader Unit := do
  match ← peekToken with
  | some b => if b = quote then skipString else failAtNext .nameExpected
  | none => failAtNext .endInObject
  passColon

/-- Passes items until no bracket is open. -/
def skipItems : Nat → List Bracket → JsonReader Unit
  | 0, _ => pure ()
  | fuel + 1, stack => do
    let stack ←
      match ← skipSimple with
      | some bracket => skipClosing false (bracket :: stack)
      | none => skipClosing true stack
    match stack with
    | [] => pure ()
    | .square :: _ => skipItems fuel stack
    | .curly :: _ => do
      skipName
      skipItems fuel stack

/-- Passes a value. -/
def skipValue : JsonReader Unit := do
  skipItems (← steps) []

end Flagpost.JsonReader
