import Flagpost.Command.TokenDialogue
import Flagpost.Proofs.Config.Reload
import Flagpost.Proofs.Text.Digits
import Flagpost.Proofs.Text.Line

/-!
# Flagpost — the token is saved as the administrator says

The dialogue makes a token and sets it if it is told to (`Told`), beforehand or in the
first line of the input; otherwise it leaves all files as they are. So what it comes to is
what setting the token comes to: `run_of_told` and `run_of_not_told` say how it ends, and
`load_of_setAdminToken` says what is loaded afterwards.

A token that was made has hexadecimal digits and a hyphen in it, so it mentions no
variable, and in no environment is it loaded as anything else.

* `run_as_told`           — what the dialogue leaves, for every input and every tree;
* `run_loses_document`    — the one case in which a configuration is lost.
-/

namespace Flagpost

-- ---------------------------------------------------------------------------
-- Generated tokens
-- ---------------------------------------------------------------------------

theorem Token.mem_generate {nanos : Nat} {random : Option Bytes} {c : Char}
    (h : c ∈ (Token.generate nanos random).toList) : Hex.isSmallDigit c = true ∨ c = '-' := by
  rw [Token.generate, String.toList_ofList] at h
  rcases List.mem_append.1 h with htime | hrandom
  · exact .inl (Hex.isSmallDigit_of_mem_ofNat htime)
  · rcases List.mem_cons.1 hrandom with rfl | hrandom
    · exact .inr rfl
    · exact .inl (Hex.isSmallDigit_of_mem_ofBytes hrandom)

/-- A token that was made mentions no variable. -/
theorem Token.not_mentions_generate (nanos : Nat) (random : Option Bytes) :
    ¬ Environment.Mentions (Token.generate nanos random).toList := by
  rintro ⟨before, name, behind, -, htext⟩
  have hmem : '$' ∈ (Token.generate nanos random).toList := by
    rw [htext]
    exact List.mem_append_right _ List.mem_cons_self
  rcases Token.mem_generate hmem with h | h
  · cases h
  · cases h

namespace TokenDialogue

open Config

variable {m : Moment} {env : Environment} {fs : FileSystem} {path : String} {yes : Bool}
  {input : Bytes}

-- ---------------------------------------------------------------------------
-- The answer
-- ---------------------------------------------------------------------------

/-- The administrator says that the token is to be saved: beforehand, or with `y` or `yes`
in the first line of the input. -/
def Told (yes : Bool) (input : Bytes) : Prop :=
  yes = true ∨ ∃ line rest answer, Line.First input line rest ∧
    Utf8.decode? line = some answer ∧
    (lowercased (trimmed answer) = "y" ∨ lowercased (trimmed answer) = "yes")

theorem isYes_iff (answer : String) : isYes answer = true ↔
    lowercased (trimmed answer) = "y" ∨ lowercased (trimmed answer) = "yes" := by
  rw [isYes, Bool.or_eq_true, beq_iff_eq, beq_iff_eq]

theorem decision_eq_true : (decision yes input).1 = .ok true ↔ Told yes input := by
  cases yes with
  | true => exact iff_of_true rfl (.inl rfl)
  | false =>
    obtain ⟨line, rest, hfirst⟩ : ∃ line rest, firstLine input = (line, rest) := ⟨_, _, rfl⟩
    rw [decision, hfirst, if_neg (by decide)]
    dsimp only
    constructor
    · intro h
      split at h
      · cases h
      · -- a line was read that is a text, and it says yes
        rename_i answer hanswer
        have hyes : isYes answer = true := Except.ok.inj h
        exact .inr ⟨line, rest, answer, Line.first_iff.2 hfirst, hanswer, (isYes_iff answer).1 hyes⟩
    · rintro (h | ⟨line', rest', answer, hfirst', hanswer, hyes⟩)
      · cases h
      · -- there is only one first line
        obtain ⟨rfl, rfl⟩ := Prod.mk.inj (hfirst.symm.trans (Line.first_iff.1 hfirst'))
        rw [hanswer]
        exact congrArg Except.ok ((isYes_iff answer).2 hyes)

/-- At most the first line is taken from the input. -/
theorem decision_unread : (yes = true → (decision yes input).2 = input) ∧
    (yes = false → ∃ line, Line.First input line (decision yes input).2) := by
  constructor
  · rintro rfl
    rfl
  · rintro rfl
    obtain ⟨line, rest, hfirst⟩ : ∃ line rest, firstLine input = (line, rest) := ⟨_, _, rfl⟩
    refine ⟨line, Line.first_iff.2 ?_⟩
    rw [decision, hfirst, if_neg (by decide)]
    dsimp only
    split
    · exact hfirst
    · exact hfirst

-- ---------------------------------------------------------------------------
-- The ways in which the dialogue ends
-- ---------------------------------------------------------------------------

theorem run_unread (m : Moment) (env : Environment) (fs : FileSystem) (path : String) (yes : Bool)
    (input : Bytes) : (run m env fs path yes input).unread = (decision yes input).2 := by
  rw [run]
  split
  · rename_i heq
    rw [heq]
  · rename_i heq
    rw [heq]
  · rename_i heq
    rw [heq]
    split
    · rfl
    · rfl

/-- Nothing is done unasked: the dialogue breaks off, or it says that nothing was saved. -/
theorem run_of_not_told (h : ¬ Told yes input) (m : Moment) (env : Environment) (fs : FileSystem)
    (path : String) : (run m env fs path yes input).files = fs ∧
      ((∃ e, (run m env fs path yes input).result = .error e) ∨
        (run m env fs path yes input).result = .ok ⟨Token.generate m.nanos m.random, false⟩) := by
  rw [← decision_eq_true] at h
  rw [run]
  split
  · exact ⟨rfl, .inl ⟨_, rfl⟩⟩
  · exact ⟨rfl, .inr rfl⟩
  · rename_i heq
    exact absurd (congrArg Prod.fst heq) h

/-- Where the token is to be saved, the dialogue ends as setting the token does. -/
theorem run_of_told (h : Told yes input) (m : Moment) (env : Environment) (fs : FileSystem)
    (path : String) : ∃ events outcome,
      setAdminToken m.faults fs path (Token.generate m.nanos m.random) =
        ((run m env fs path yes input).files, events, outcome) ∧
      (run m env fs path yes input).result =
        (outcome.map fun _ => ⟨Token.generate m.nanos m.random, true⟩).mapError .config := by
  rw [← decision_eq_true] at h
  rw [run]
  split
  · -- the answer is no text, or it is not a yes: neither was told
    rename_i heq
    rw [heq] at h
    cases h
  · rename_i heq
    rw [heq] at h
    cases h
  · split
    · rename_i hset
      exact ⟨_, _, hset, rfl⟩
    · rename_i hset
      exact ⟨_, _, hset, rfl⟩

/-- A dialogue that comes to an end has made a token and saved it as it was told. -/
theorem run_eq_ok {outcome : TokenOutcome}
    (h : (run m env fs path yes input).result = .ok outcome) :
    outcome.token = Token.generate m.nanos m.random ∧ (outcome.saved = true ↔ Told yes input) ∧
      (outcome.saved = true → ∃ events,
        setAdminToken m.faults fs path outcome.token =
          ((run m env fs path yes input).files, events, .ok ())) := by
  by_cases htold : Told yes input
  · obtain ⟨events, result, hset, hresult⟩ := run_of_told htold m env fs path
    rw [hresult] at h
    cases result with
    | error e => cases h
    | ok =>
      cases h
      exact ⟨rfl, iff_of_true rfl htold, fun _ => ⟨events, hset⟩⟩
  · rcases (run_of_not_told htold m env fs path).2 with ⟨e, herror⟩ | hunsaved
    · rw [herror] at h
      cases h
    · rw [hunsaved] at h
      cases h
      exact ⟨rfl, iff_of_false Bool.false_ne_true htold, nofun⟩

/-- A dialogue that breaks off leaves the file as it was, and everything else but for
directories it has made and the file that the new content was written to. -/
theorem run_eq_error {e : DialogueError} (h : (run m env fs path yes input).result = .error e) :
    (∀ content, fs.read path = .ok content →
      (run m env fs path yes input).files.read path = .ok content) ∧
    ∀ l, l ≠ Path.locate (FileSystem.sibling path) →
      (run m env fs path yes input).files.node? l = fs.node? l ∨
        fs.node? l = none ∧ (run m env fs path yes input).files.node? l = some .directory := by
  by_cases htold : Told yes input
  · obtain ⟨events, result, hset, hresult⟩ := run_of_told htold m env fs path
    cases result with
    | ok =>
      rw [hresult] at h
      cases h
    | error cause =>
      -- the file could not be read, or it could not be written
      rcases setAdminToken_cases hset with ⟨hfiles, -⟩ | ⟨new, -, hwritten⟩
      · rw [hfiles]
        exact ⟨fun _ hread => hread, fun _ _ => .inl rfl⟩
      · exact ⟨fun _ hread => read_of_writeDocument_error hwritten hread,
          fun _ hl => node?_of_writeDocument_error hwritten hl⟩
  · rw [(run_of_not_told htold m env fs path).1]
    exact ⟨fun _ hread => hread, fun _ _ => .inl rfl⟩

/-- **The token is saved as the administrator says.** Unless it is told to, the dialogue leaves
all files as they are. If it comes to an end, it has made a token, and has saved it exactly
if it was told to; then whatever is loaded, in any environment, has this token, and what was
loaded before is loaded with this token in it, if the texts in the new document can stand in
a string as they are written, and otherwise nothing is loaded any more. If it breaks off,
the file is as it was. Of the input it takes nothing if it was told beforehand, and
otherwise the first line. -/
theorem run_as_told (m : Moment) (env : Environment) (fs : FileSystem) (path : String) (yes : Bool)
    (input : Bytes) :
    (¬ Told yes input → (run m env fs path yes input).files = fs) ∧
    (∀ outcome, (run m env fs path yes input).result = .ok outcome →
      outcome.token = Token.generate m.nanos m.random ∧
      (outcome.saved = true ↔ Told yes input) ∧
      (outcome.saved = true → ∀ env' : Environment,
        (∀ c, load env' (run m env fs path yes input).files path = .ok c →
          c.server.adminToken = outcome.token) ∧
        ∀ c, load env' fs path = .ok c → ∃ old new, readDocument fs path = .ok old ∧
          withAdminToken outcome.token old = .ok new ∧
          load env' (run m env fs path yes input).files path = if new.All Json.IsLegible
            then .ok { c with server := { c.server with adminToken := outcome.token } }
            else .error (.document path (.json5 .syntaxFault)))) ∧
    (∀ e, (run m env fs path yes input).result = .error e →
      (∀ content, fs.read path = .ok content →
        (run m env fs path yes input).files.read path = .ok content) ∧
      ∀ l, l ≠ Path.locate (FileSystem.sibling path) →
        (run m env fs path yes input).files.node? l = fs.node? l ∨
          fs.node? l = none ∧ (run m env fs path yes input).files.node? l = some .directory) ∧
    (yes = true → (run m env fs path yes input).unread = input) ∧
    (yes = false → ∃ line, Line.First input line (run m env fs path yes input).unread) := by
  refine ⟨fun h => (run_of_not_told h m env fs path).1, fun outcome h => ?ended,
    fun _ => run_eq_error, ?_⟩
  case ended =>
    obtain ⟨htoken, hsaved, hset⟩ := run_eq_ok h
    refine ⟨htoken, hsaved, fun hsaved env' => ?_⟩
    obtain ⟨events, hset⟩ := hset hsaved
    -- a generated token has no reference in it, so it is loaded as it was saved
    exact load_of_setAdminToken (htoken ▸ Token.not_mentions_generate _ _) hset env'
  · rw [run_unread]
    exact decision_unread

/-- A moment at which the medium does not fail. There are no random bytes. -/
def calm : Moment := ⟨Timestamp.epoch, 0, none, {}⟩

/-- An answer with capitals and white space, and a line behind it. -/
def answered : Bytes := Utf8.encode " Yes\r" ++ Line.ending :: Utf8.encode "no\n"

theorem first_answered : Line.First answered (Utf8.encode " Yes\r") (Utf8.encode "no\n") :=
  ⟨.inl rfl, by decide +kernel⟩

/-- After this answer, the token is saved in the file of the default configuration, and what
is loaded is that configuration with the token. -/
theorem run_as_told_answered :
    Told false answered ∧
    (run calm [] (configured "\x7b\x7d") "config.json" false answered).result =
      .ok ⟨Token.generate 0 none, true⟩ ∧
    load [] (configured "\x7b\x7d") "config.json" = .ok {} ∧
    load [] (run calm [] (configured "\x7b\x7d") "config.json" false answered).files "config.json" =
      .ok { server := { adminToken := Token.generate 0 none } } ∧
    (run calm [] (configured "\x7b\x7d") "config.json" false answered).unread =
      Utf8.encode "no\n" := by
  have htold : Told false answered :=
    .inr ⟨_, _, " Yes\r", first_answered, Utf8.decode?_encode _, .inr (by decide +kernel)⟩
  have hread : readDocument (configured "\x7b\x7d") "config.json" = .ok (.object []) :=
    readDocument_eq_ok.2 ⟨_, readText_configured _, rfl⟩
  have hload : load [] (configured "\x7b\x7d") "config.json" = .ok {} :=
    load_eq_ok.2 ⟨_, hread, describes_object.2 ⟨[], rfl, rfl⟩⟩
  obtain ⟨new, hnew⟩ : ∃ new, withAdminToken (Token.generate 0 none) (.object []) = .ok new :=
    ⟨_, rfl⟩
  -- the run was told to save, so it does what saving a token in the file does
  obtain ⟨fs', hwritten⟩ := writeDocument_configured "\x7b\x7d" new
  obtain ⟨events, hset⟩ := setAdminToken_of_readDocument hread hnew hwritten
  obtain ⟨events', result, hset', hresult⟩ :=
    run_of_told htold calm [] (configured "\x7b\x7d") "config.json"
  have hsame := hset.symm.trans hset'
  cases hsame
  -- and so the file that was left is read back
  obtain ⟨-, hended, -, -, hunread⟩ :=
    run_as_told calm [] (configured "\x7b\x7d") "config.json" false answered
  obtain ⟨-, -, hsaved⟩ := hended _ hresult
  obtain ⟨old, new', hread', hnew', hafter⟩ := (hsaved rfl []).2 _ hload
  rw [hread] at hread'
  cases hread'
  have hlegible : new'.All Json.IsLegible := by
    cases hnew'
    decide +kernel
  obtain ⟨line, hfirst⟩ := hunread rfl
  have hparts := (Line.first_iff.1 hfirst).symm.trans (Line.first_iff.1 first_answered)
  exact ⟨htold, hresult, hload, hafter.trans (if_pos hlegible), congrArg Prod.snd hparts⟩

-- ---------------------------------------------------------------------------
-- A configuration that is lost
-- ---------------------------------------------------------------------------

/-- A file is a configuration and is none after the dialogue has saved a token in it: the
file has the character U+2028 in an escape. -/
theorem run_loses_document :
    load [] (configured (String.ofList escaped)) "config.json" = .ok {} ∧
    (run calm [] (configured (String.ofList escaped)) "config.json" true []).result =
      .ok ⟨Token.generate calm.nanos calm.random, true⟩ ∧
    load [] (run calm [] (configured (String.ofList escaped)) "config.json" true []).files
      "config.json" = .error (.document "config.json" (.json5 .syntaxFault)) := by
  obtain ⟨new, hnew⟩ : ∃ new, withAdminToken (Token.generate calm.nanos calm.random)
      (.object [("a", .string "\u2028")]) = .ok new := ⟨_, rfl⟩
  -- the escape is read as the character, which the layout of JSON leaves as it is
  have hill : ¬ new.All Json.IsLegible := by
    intro hall
    have hmem : ("a", Json.string "\u2028") ∈ Json.putMember "server" (.object
      [("admin_token", .string (Token.generate calm.nanos calm.random))])
        [("a", .string "\u2028")] := .head _
    cases hnew
    exact absurd ((Json.all_leaf rfl).1 (Json.all_object.1 hall _ hmem).2) (by decide)
  obtain ⟨hread, fs', events, hset, hafter⟩ :=
    setAdminToken_of_not_legible ofJson5_escaped hnew hill
  have htold : Told true [] := .inl rfl
  obtain ⟨events', result, hset', hresult⟩ :=
    run_of_told htold calm [] (configured (String.ofList escaped)) "config.json"
  have hfaults : calm.faults = {} := rfl
  rw [hfaults, hset] at hset'
  cases hset'
  refine ⟨load_eq_ok.2 ⟨_, hread, describes_object.2 ⟨[("a", .string "\u2028")], ?_, rfl⟩⟩,
    hresult, ?_⟩
  · have hplain : ¬ Environment.Mentions "\u2028".toList := by
      rintro ⟨before, name, behind, -, htext⟩
      have hmem : '$' ∈ "\u2028".toList := htext ▸ List.mem_append_right _ List.mem_cons_self
      exact absurd hmem (by decide)
    rw [Environment.expandMembers, Environment.expand,
      Environment.expandText_of_not_mentions hplain]
    rfl
  · rw [load, hafter]
    rfl

end TokenDialogue

end Flagpost
