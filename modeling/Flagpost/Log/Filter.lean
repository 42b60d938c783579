import Flagpost.Config.Environment
import Flagpost.Log.Event
import Flagpost.Unicode.Alphanumeric

/-!
# Flagpost — log filters

Which events are written. A filter is a list of rules: a rule gives the least
level for the parts of the service whose names begin with a text, or for all
parts, and it may be for those events only that have a certain field. Of the
rules that apply to an event the closest decides: the one with the longest
text, of these one that asks for a field, and of equals the later one.

The text of a filter is a list of rules with commas between them: a level
(`info`, in any case, or `0` to `5`), the name of a part (`hooks`, which lets
everything of that part through), or both (`hooks=debug`). A field stands in
brackets and braces behind the name (`hooks[{id}]=debug`). Rules for spans,
which have a name in the brackets or a value in the braces, are read, but no
event of the service is inside one. A filter without rules lets errors
through.

White space around a rule does not shift where its parts are looked for: the
signs between the parts are found in the rule without it, and the parts are
then cut at those places from the rule as it stands. So a rule that is moved
by white space seldom means anything.
-/

namespace Flagpost

/-- The least level that is let through, or nothing at all. -/
inductive Threshold
  | off
  | atLeast (level : Level)
deriving DecidableEq

/-- Does a threshold let a level through? -/
def Threshold.admits (t : Threshold) (level : Level) : Bool :=
  match t with
  | .off => false
  | .atLeast least => least.weight ≤ level.weight

/-- A rule of a filter. Without a part it is for all parts, and without a
field for all events of them. -/
structure FilterRule where
  part : Option String
  field : Option String
  threshold : Threshold
deriving DecidableEq

/-- A filter. -/
abbrev Filter := List FilterRule

/-- Why a text is no filter. -/
inductive FilterError
  | form
  | level
deriving DecidableEq

/-- The failure as a diagnosis, with its parts named. -/
def FilterError.diagnosis : FilterError → String
  | .form => "ParseError \x7b kind: Other(None) \x7d"
  | .level => "ParseError \x7b kind: Level(ParseLevelFilterError(())) \x7d"

namespace Threshold

/-- The number a text of digits stands for, with or without a plus sign. -/
def number? (text : List Char) : Option Nat :=
  let digits :=
    match text with
    | '+' :: digits => digits
    | digits => digits
  if digits.isEmpty || !digits.all Char.isDigit then none else some (Decimal.valueOf digits)

/-- The threshold with a number: the higher, the more is let through. -/
def ofNumber? : Nat → Option Threshold
  | 0 => some .off
  | 1 => some (.atLeast .error)
  | 2 => some (.atLeast .warn)
  | 3 => some (.atLeast .info)
  | 4 => some (.atLeast .debug)
  | 5 => some (.atLeast .trace)
  | _ => none

/-- The threshold with a name. -/
def ofName? (name : String) : Option Threshold :=
  if name = "" then some (.atLeast .error)
  else if name = "off" then some .off
  else if name = "error" then some (.atLeast .error)
  else if name = "warn" then some (.atLeast .warn)
  else if name = "info" then some (.atLeast .info)
  else if name = "debug" then some (.atLeast .debug)
  else if name = "trace" then some (.atLeast .trace)
  else none

/-- The threshold a text stands for. -/
def ofChars? (text : List Char) : Option Threshold :=
  ((number? text).bind ofNumber?).or (ofName? (lowercased (String.ofList text)))

end Threshold

namespace FilterRule

/-- A character a rule may begin with. -/
def isStart (c : Char) : Bool :=
  c == '-' || c == ':' || c == '_' || c == '[' || Unicode.isAlphanumeric c

/-- The sign before a level. -/
def equalsSign : UInt8 := 0x3D

/-- The sign before a span or a field. -/
def openBracket : UInt8 := 0x5B

/-- The sign behind a span or a field. -/
def closeBracket : UInt8 := 0x5D

/-- The sign before a field. -/
def openBrace : UInt8 := 0x7B

/-- The sign behind a field. -/
def closeBrace : UInt8 := 0x7D

/-- The text of a piece from one byte up to another. -/
def cut (piece : Bytes) (start stop : Nat) : Except FilterError String :=
  match Utf8.decode? ((piece.take stop).drop start) with
  | some text => .ok text
  | none => .error .form

/-- Reads the level from a byte of the piece on; no level means everything. -/
def readLevel (piece : Bytes) (start : Nat) : Except FilterError Threshold := do
  let text ← cut piece start piece.length
  if text.isEmpty then pure (.atLeast .trace)
  else
    match Threshold.ofChars? text.toList with
    | some threshold => pure threshold
    | none => .error .level

/-- Reads what follows a closed bracket: a level, or nothing. `start` is where
it stands. -/
def readBehindBracket (piece : Bytes) (start : Nat) : Bytes → Except FilterError Threshold
  | [] => .ok (.atLeast .trace)
  | b :: _ => if b = equalsSign then readLevel piece (start + 1) else .error .form

/-- Reads what stands in a bracket and what follows it, for a part of the
service; a rule for a span is none for events. `start` is where the bracket
has been opened. -/
def readBracket (piece : Bytes) (part : Option String) (start : Nat) (text : Bytes) :
    Except FilterError (Option FilterRule) := do
  let span := text.takeWhile fun b => b != closeBracket && b != openBrace
  match text.drop span.length with
  | [] => .error .form
  | b :: rest =>
    let start := start + span.length + 1
    if b = closeBracket then
      let _ ← readBehindBracket piece start rest
      pure none
    else
      let field := rest.takeWhile (· != closeBrace)
      let stop := start + field.length
      match rest.drop field.length with
      | _ :: c :: behind =>
        if field.isEmpty || c != closeBracket then .error .form
        else
          let field ← cut piece start stop
          let threshold ← readBehindBracket piece (stop + 2) behind
          if span.isEmpty && !field.toList.contains '=' then
            pure (some ⟨part, some field, threshold⟩)
          else pure none
      | _ => .error .form

/-- Reads a rule; one for a span is none for events. -/
def ofText (piece : String) : Except FilterError (Option FilterRule) := do
  let whole := Utf8.encode piece
  let shown := trimmed piece
  if !shown.toList.head?.any isStart then .error .form
  else
    let text := Utf8.encode shown
    let name := text.takeWhile fun b => b != equalsSign && b != openBracket
    match text.drop name.length with
    | [] =>
      match Threshold.ofChars? piece.toList with
      | some threshold => pure (some ⟨none, none, threshold⟩)
      | none => pure (some ⟨some piece, none, .atLeast .trace⟩)
    | b :: rest =>
      let part ← cut whole 0 name.length
      if b = equalsSign then
        let threshold ← readLevel whole (name.length + 1)
        pure (some ⟨some part, none, threshold⟩)
      else readBracket whole (if name.isEmpty then none else some part) (name.length + 1) rest

/-- Does a rule apply to an event? -/
def appliesTo (rule : FilterRule) (event : Event) : Bool :=
  (rule.part.all fun part => part.toList.isPrefixOf event.origin.name.toList) &&
    rule.field.all fun field => event.fieldNames.contains field

/-- How closely a rule names the parts it is for. -/
def closeness (rule : FilterRule) : Nat :=
  match rule.part with
  | none => 0
  | some part => part.utf8ByteSize + 1

/-- Is the second rule at least as close as the first? Of two that ask for a
field, the one whose field comes later in the alphabet counts as closer. -/
def isAtMostAsCloseAs (a b : FilterRule) : Bool :=
  if a.closeness ≠ b.closeness then a.closeness < b.closeness
  else
    match a.field, b.field with
    | none, _ => true
    | some _, none => false
    | some f, some g => f ≤ g

end FilterRule

namespace Filter

/-- The filter for one least level. -/
def ofLevel (level : Level) : Filter := [⟨none, none, .atLeast level⟩]

/-- Reads a filter. -/
def ofText (text : String) : Except FilterError Filter := do
  let pieces := (text.toList.splitOn ',').filter (!·.isEmpty)
  let rules ← pieces.mapM fun piece => FilterRule.ofText (String.ofList piece)
  if rules.isEmpty then .ok (ofLevel .error) else .ok (rules.filterMap id)

/-- The rule that decides about an event: of the closest rules the last. -/
def decisive? (filter : Filter) (event : Event) : Option FilterRule :=
  (filter.filter (·.appliesTo event)).foldl
    (fun best rule =>
      match best with
      | none => some rule
      | some b => if b.isAtMostAsCloseAs rule then some rule else some b)
    none

/-- Does a filter let an event through? -/
def admits (filter : Filter) (event : Event) : Bool :=
  match filter.decisive? event with
  | some rule => rule.threshold.admits event.level
  | none => false

/-- The environment variable with the filter. -/
def ownVariable : String := "WEBHOOK_FORGE_LOG"

/-- The environment variable with the filter for all programs. -/
def generalVariable : String := "RUST_LOG"

/-- The filter of a service: from the environment, or the configured level. -/
def ofEnvironment (env : Environment) (level : Level) : Except FilterError Filter :=
  match (env.filled? ownVariable).or (env.filled? generalVariable) with
  | some text => ofText text
  | none => .ok (ofLevel level)

end Filter

end Flagpost
