/-!
# Flagpost — the command line

The words the program is called with, understood. Commands lie below one
another (`config show`), and each level has options of its own: `--config`
and `--help` everywhere, `--version` at the top, `--yes` for `admin-token`.

Words are taken from the left and the first fault ends the reading. An
option that waits for its value is settled only when the next option of its
level comes, or when the level ends; a word that no level knows is reported
before it. Behind `--` every word is taken literally, and there is no level
that has a use for one.

A call may also ask for something else than a command: help, or the version.
-/

namespace Flagpost

/-- What the program is asked to do. -/
inductive Command
  | start
  | adminToken (yes : Bool)
  | showConfig
  | showPath
  | version
deriving DecidableEq

/-- A call that has been understood. Without a command the program starts. -/
structure Call where
  command : Option Command
  config : Option String
deriving DecidableEq

/-- Why a call leads to no command. -/
inductive Detour
  | help
  | version
  | unknownArgument (word : String)
  | unknownCommand (word : String)
  | repeated (option : String)
  | valueMissing (option : String)
  | valueUnneeded (option : String)
  | commandMissing
  | helpInstead
deriving DecidableEq

namespace Detour

/-- What a detour says. -/
def message : Detour → String
  | help => "Usage: webhook-forge [--config <PATH>] [start | admin-token [--yes] | " ++
      "config show | config path | version | help]"
  | version => "webhook-forge 0.1.0"
  | unknownArgument word => "unexpected argument '" ++ word ++ "'"
  | unknownCommand word => "unrecognized subcommand '" ++ word ++ "'"
  | repeated option => "the argument '" ++ option ++ "' cannot be used multiple times"
  | valueMissing option => "a value is required for '" ++ option ++ "'"
  | valueUnneeded option => "unexpected value for '" ++ option ++ "'"
  | commandMissing => "'config' requires a subcommand: show, path"
  | helpInstead => "Usage: webhook-forge config <show | path>"

/-- Was the detour asked for? -/
def isAskedFor : Detour → Bool
  | help => true
  | version => true
  | _ => false

end Detour

namespace CommandLine

/-- A level of the command line. -/
inductive Level
  | top
  | start
  | adminToken
  | config
  | showConfig
  | showPath
  | version
deriving DecidableEq

/-- The levels below a level, by name. -/
def below : Level → List (String × Level)
  | .top => [("start", .start), ("admin-token", .adminToken), ("config", .config),
      ("version", .version)]
  | .config => [("show", .showConfig), ("path", .showPath)]
  | _ => []

/-- A word that opens a level, or asks about one. -/
inductive Entry
  | level (level : Level)
  | help
deriving DecidableEq

/-- What a word opens. Levels that have levels below them can be asked for
help by name. -/
def opens? (level : Level) (word : String) : Option Entry :=
  match (below level).lookup word with
  | some inner => some (.level inner)
  | none => if word = "help" ∧ !(below level).isEmpty then some .help else none

/-- What the words behind `help` ask about: a level below this one, and so
on. `help` itself can be asked about, and has nothing below it. -/
def helpAbout (level : Level) : List String → Detour
  | [] => .help
  | word :: rest =>
    match opens? level word with
    | some (.level inner) => helpAbout inner rest
    | some .help =>
      match rest with
      | [] => .help
      | word :: _ => .unknownCommand word
    | none => .unknownCommand word

/-- What has been read on a level. -/
structure Reading where
  /-- The value of `--config`. -/
  config : Option String := none
  /-- Whether `--config` waits to be settled, and the value it has. -/
  pending : Option (Option String) := none
  yes : Bool := false
  /-- Whether `--` has been read. -/
  literal : Bool := false

/-- The option that takes a value. -/
def configOption : String := "--config <PATH>"

/-- Settles `--config` with a value. -/
def Reading.assign (r : Reading) (value : String) : Except Detour Reading :=
  if r.config.isSome then .error (.repeated configOption)
  else if value.isEmpty then .error (.valueMissing configOption)
  else .ok { r with config := some value, pending := none }

/-- Settles what waits to be settled. -/
def Reading.settle (r : Reading) : Except Detour Reading :=
  match r.pending with
  | none => .ok r
  | some none => .error (.valueMissing configOption)
  | some (some value) => r.assign value

/-- Does `--config` wait for the next word? -/
def Reading.isWaiting (r : Reading) : Bool := r.pending == some none

/-- An option without a value. -/
inductive Switch
  | help
  | version
  | yes
deriving DecidableEq

/-- The switches of a level by their long names. -/
def longSwitch? (level : Level) (name : List Char) : Option Switch :=
  if name = "help".toList then some .help
  else if name = "version".toList ∧ level = .top then some .version
  else if name = "yes".toList ∧ level = .adminToken then some .yes
  else none

/-- The switches of a level by their letters. -/
def shortSwitch? (level : Level) (letter : Char) : Option Switch :=
  if letter = 'h' then some .help
  else if letter = 'V' ∧ level = .top then some .version
  else if letter = 'y' ∧ level = .adminToken then some .yes
  else none

/-- Throws a switch. -/
def Reading.throw (r : Reading) (switch : Switch) : Except Detour Reading := do
  let r ← r.settle
  match switch with
  | .help => .error .help
  | .version => .error .version
  | .yes => if r.yes then .error (.repeated "--yes") else .ok { r with yes := true }

/-- Reads a word that begins with two hyphens, from what is behind them. -/
def Reading.long (level : Level) (r : Reading) (word : List Char) : Except Detour Reading :=
  let name := word.takeWhile (· != '=')
  let attached := (word.drop name.length).tail?
  if name = "config".toList then
    match attached with
    | some value => do
      let r ← r.settle
      r.assign (String.ofList value)
    | none => do
      let r ← r.settle
      .ok { r with pending := some none }
  else
    match longSwitch? level name, attached with
    | none, _ => .error (.unknownArgument (String.ofList ('-' :: '-' :: word)))
    | some _, some _ => .error (.valueUnneeded (String.ofList ('-' :: '-' :: name)))
    | some switch, none => r.throw switch

/-- Reads the letters behind one hyphen. -/
def Reading.short (level : Level) (r : Reading) : List Char → Except Detour Reading
  | [] => .ok r
  | letter :: rest =>
    match shortSwitch? level letter with
    | none => .error (.unknownArgument (String.ofList ['-', letter]))
    | some switch => do
      let r ← r.throw switch
      Reading.short level r rest

/-- What a level that cannot use a word says of it. -/
def stray (level : Level) (literal : Bool) (word : String) : Detour :=
  if (below level).isEmpty ∨ (literal ∧ (opens? level word).isSome) then .unknownArgument word
  else .unknownCommand word

/-- The command of a level that has been read to its end. -/
def ending (level : Level) (r : Reading) : Except Detour (Option Command) :=
  match level with
  | .top => .ok none
  | .start => .ok (some .start)
  | .adminToken => .ok (some (.adminToken r.yes))
  | .config => .error (if r.config.isSome then .commandMissing else .helpInstead)
  | .showConfig => .ok (some .showConfig)
  | .showPath => .ok (some .showPath)
  | .version => .ok (some .version)

/-- Reads the words of a level. Of the values that several levels have for
`--config`, the innermost counts. -/
def read (level : Level) (r : Reading) : List String → Except Detour Call
  | [] => do
    let r ← r.settle
    let command ← ending level r
    .ok ⟨command, r.config⟩
  | word :: rest =>
    if r.literal then .error (stray level true word)
    else
      match if r.isWaiting then none else opens? level word with
      | some .help => .error (helpAbout level rest)
      | some (.level inner) => do
        let call ← read inner {} rest
        let r ← r.settle
        .ok { call with config := call.config.or r.config }
      | none =>
        match word.toList with
        | ['-', '-'] => read level { r with literal := true } rest
        | '-' :: '-' :: name => do
          let r ← Reading.long level r name
          read level r rest
        | '-' :: letter :: letters => do
          let r ← Reading.short level r (letter :: letters)
          read level r rest
        | _ =>
          if r.isWaiting then read level { r with pending := some (some word) } rest
          else .error (stray level false word)

/-- Reads the words the program is called with. -/
def ofWords (words : List String) : Except Detour Call := read .top {} words

end CommandLine

end Flagpost
