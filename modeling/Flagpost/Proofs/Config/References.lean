import Flagpost.Config.Environment
import Flagpost.Proofs.Json5.Layout

/-!
# Flagpost — references in the texts of a configuration

A text is changed by the environment only where it mentions a variable in braces
behind a dollar sign (`Mentions`). A configuration is its document with the texts
in it: to replace the references in the document is to replace them in the texts
(`Config.expanded`), the first that cannot be replaced being the one that is
reported.

* `namesIn_eq_nil`             — a text without references mentions no variable;
* `expandText_of_not_mentions` — and is kept;
* `Config.expand_document`     — references in the document of a configuration.
-/

namespace Flagpost

namespace Environment

variable {env : Environment} {c : Char} {text rest name behind : List Char} {doubled : Bool}

-- ---------------------------------------------------------------------------
-- Texts
-- ---------------------------------------------------------------------------

/-- The name of a variable that a text can refer to. -/
def IsName (name : List Char) : Prop :=
  ∃ c rest, name = c :: rest ∧ isNameStart c = true ∧ ∀ d ∈ rest, isNamePart d = true

/-- A text with a variable in braces behind a dollar sign somewhere in it. -/
def Mentions (text : List Char) : Prop :=
  ∃ before name behind, IsName name ∧ text = before ++ '$' :: '\x7b' :: (name ++ '\x7d' :: behind)

theorem braced?_eq_some (h : braced? text = some (name, behind)) :
    IsName name ∧ text = '\x7b' :: (name ++ '\x7d' :: behind) := by
  unfold braced? at h
  split at h
  · rename_i c rest
    split at h
    · rename_i hc
      split at h
      · rename_i tail hdrop
        cases h
        refine ⟨⟨c, _, rfl, hc, List.all_eq_true.1 List.all_takeWhile⟩, ?_⟩
        rw [List.cons_append, ← hdrop, List.takeWhile_append_dropWhile]
      · cases h
    · cases h
  · cases h

/-- A reference mentions its variable. -/
theorem mentions_of_reference? (h : reference? text = some (doubled, name, behind)) :
    Mentions text := by
  unfold reference? at h
  split at h
  · obtain ⟨⟨n, b⟩, hbraced, heq⟩ := Option.map_eq_some_iff.1 h
    cases heq
    obtain ⟨hname, rfl⟩ := braced?_eq_some hbraced
    exact ⟨['$'], name, behind, hname, rfl⟩
  · obtain ⟨⟨n, b⟩, hbraced, heq⟩ := Option.map_eq_some_iff.1 h
    cases heq
    obtain ⟨hname, rfl⟩ := braced?_eq_some hbraced
    exact ⟨[], name, behind, hname, rfl⟩
  · cases h

/-- A variable in braces behind a dollar sign is a reference. -/
theorem reference?_of_isName (h : IsName name) :
    reference? ('$' :: '\x7b' :: (name ++ '\x7d' :: behind)) = some (false, name, behind) := by
  obtain ⟨c, rest, rfl, hc, hrest⟩ := h
  -- the name ends at the brace, which is no part of a name
  have hend : isNamePart '\x7d' = false := by decide
  have htake : (rest ++ '\x7d' :: behind).takeWhile isNamePart = rest := by
    rw [List.takeWhile_append_of_pos hrest, List.takeWhile_cons, hend]
    exact List.append_nil rest
  have hdrop : (rest ++ '\x7d' :: behind).dropWhile isNamePart = '\x7d' :: behind := by
    rw [List.dropWhile_append_of_pos hrest, List.dropWhile_cons, hend]
    rfl
  have hbraced : braced? ('\x7b' :: (c :: rest ++ '\x7d' :: behind)) =
      some (c :: rest, behind) := by
    rw [List.cons_append, braced?, if_pos hc, hdrop, htake]
    rfl
  rw [reference?, hbraced]
  · rfl
  · -- a dollar sign in front of the brace would be a doubled one
    intro behind heq
    cases heq

/-- A text mentions a variable if it begins with a reference or mentions one later. -/
theorem mentions_cons : Mentions (c :: rest) ↔ (∃ found, reference? (c :: rest) = some found) ∨
    Mentions rest := by
  constructor
  · rintro ⟨before, name, behind, hname, htext⟩
    cases before with
    | nil => exact .inl ⟨_, (congrArg reference? htext).trans (reference?_of_isName hname)⟩
    | cons d before => exact .inr ⟨before, name, behind, hname, (List.cons.inj htext).2⟩
  · rintro (⟨found, href⟩ | ⟨before, name, behind, hname, rfl⟩)
    · exact mentions_of_reference? href
    · exact ⟨c :: before, name, behind, hname, rfl⟩

theorem reference?_of_not_mentions (h : ¬ Mentions (c :: rest)) :
    reference? (c :: rest) = none :=
  Option.eq_none_iff_forall_ne_some.2 fun found href => h (mentions_cons.2 (.inl ⟨found, href⟩))

theorem expandChars_cons (h : reference? (c :: rest) = none) :
    expandChars env (c :: rest) = (expandChars env rest).map (c :: ·) := by
  rw [expandChars]
  split
  · rename_i heq
    rw [h] at heq
    cases heq
  · rename_i heq
    rw [h] at heq
    cases heq
  · rfl

theorem namesIn_cons (h : reference? (c :: rest) = none) : namesIn (c :: rest) = namesIn rest := by
  rw [namesIn]
  split
  · rename_i heq
    rw [h] at heq
    cases heq
  · rfl

/-- The variables a text mentions are those that it refers to. -/
theorem namesIn_eq_nil : namesIn text = [] ↔ ¬ Mentions text := by
  induction text with
  | nil =>
    have hnone : ¬ Mentions [] := by
      rintro ⟨before, name, behind, -, htext⟩
      simp at htext
    exact iff_of_true (by rw [namesIn]; rfl) hnone
  | cons c rest ih =>
    -- no reference begins here, so the rest decides
    cases href : reference? (c :: rest) with
    | none =>
      rw [namesIn_cons href, ih, mentions_cons, href]
      simp
    | some found =>
      -- a reference begins here, and both sides say so
      refine iff_of_false ?_ (not_not.2 (mentions_cons.2 (.inl ⟨found, href⟩)))
      rw [namesIn]
      split
      · simp
      · rename_i heq
        rw [href] at heq
        cases heq

instance (text : List Char) : Decidable (Mentions text) :=
  decidable_of_iff (namesIn text ≠ []) (by rw [ne_eq, namesIn_eq_nil, not_not])

theorem expandChars_of_not_mentions (h : ¬ Mentions text) : expandChars env text = .ok text := by
  induction text with
  | nil =>
    rw [expandChars]
    rfl
  | cons c rest ih =>
    have hrest : ¬ Mentions rest := fun hrest => h (mentions_cons.2 (.inr hrest))
    rw [expandChars_cons (reference?_of_not_mentions h), ih hrest]
    rfl

/-- A text that mentions no variable is kept in every environment. -/
theorem expandText_of_not_mentions {s : String} (h : ¬ Mentions s.toList) :
    env.expandText s = .ok s := by
  rw [expandText, expandChars_of_not_mentions h]
  exact congrArg Except.ok String.ofList_toList

end Environment

-- ---------------------------------------------------------------------------
-- Configurations
-- ---------------------------------------------------------------------------

/-- The settings for hooks with the references in their texts replaced. -/
def HooksSettings.expanded (env : Environment) (s : HooksSettings) :
    Except ConfigError HooksSettings := do
  let flagsDir ← env.expandText s.flagsDir
  let storagePath ← env.expandText s.storagePath
  pure { storagePath, flagsDir }

/-- The log settings with the references in their texts replaced. -/
def LogSettings.expanded (env : Environment) (s : LogSettings) :
    Except ConfigError LogSettings := do
  let filePath ← env.expandText s.filePath
  let format ← env.expandText s.format
  let level ← env.expandText s.level
  pure { s with level, format, filePath }

/-- The server settings with the references in their texts replaced. -/
def ServerSettings.expanded (env : Environment) (s : ServerSettings) :
    Except ConfigError ServerSettings := do
  let adminToken ← env.expandText s.adminToken
  let basePath ← env.expandText s.basePath
  let host ← env.expandText s.host
  pure { s with host, basePath, adminToken }

namespace Config

/-- The configuration with the references in its texts replaced. Its texts are gone
through in the order in which its document has them. -/
def expanded (env : Environment) (c : Config) : Except ConfigError Config := do
  let hooks ← c.hooks.expanded env
  let log ← c.log.expanded env
  let server ← c.server.expanded env
  pure { server, hooks, log }

/-- The texts of a configuration. -/
def texts (c : Config) : List String := [
  c.hooks.flagsDir, c.hooks.storagePath,
  c.log.filePath, c.log.format, c.log.level,
  c.server.adminToken, c.server.basePath, c.server.host]

variable {env : Environment} {c : Config}

/-- A configuration whose texts mention no variable is kept in every environment. -/
theorem expanded_of_not_mentions (h : ∀ s ∈ c.texts, ¬ Environment.Mentions s.toList) :
    c.expanded env = .ok c := by
  have hkept : ∀ s ∈ c.texts, env.expandText s = .ok s := fun s hs =>
    Environment.expandText_of_not_mentions (h s hs)
  simp only [texts, List.forall_mem_cons] at hkept
  obtain ⟨hflags, hstorage, hfile, hformat, hlevel, htoken, hbase, hhost, -⟩ := hkept
  rw [expanded, HooksSettings.expanded, hflags, hstorage, LogSettings.expanded, hfile, hformat,
    hlevel, ServerSettings.expanded, htoken, hbase, hhost]
  rfl

/-- The document of a configuration as it is read back from a file. -/
def document (c : Config) : Json := c.toJson.normal

theorem normal_hooksJson (s : HooksSettings) : (hooksJson s).normal = .object [
    ("flags_dir", .string s.flagsDir), ("storage_path", .string s.storagePath)] := by
  simp only [hooksJson, Json.normal, Json.normalMembers, Json.sorted, List.foldl_cons,
    List.foldl_nil, Json.putMember, String.reduceEq, String.reduceLT, if_false, if_true]

theorem normal_logJson (s : LogSettings) : (logJson s).normal = .object [
    ("file_path", .string s.filePath), ("format", .string s.format), ("level", .string s.level),
    ("max_backups", .whole s.maxBackups), ("max_size", .whole s.maxSize)] := by
  simp only [logJson, Json.normal, Json.normalMembers, Json.sorted, List.foldl_cons,
    List.foldl_nil, Json.putMember, String.reduceEq, String.reduceLT, if_false, if_true, Json.whole]

theorem normal_serverJson (s : ServerSettings) : (serverJson s).normal = .object [
    ("admin_token", .string s.adminToken), ("base_path", .string s.basePath),
    ("host", .string s.host), ("max_body_bytes", .whole s.maxBodyBytes),
    ("port", .whole s.port)] := by
  simp only [serverJson, Json.normal, Json.normalMembers, Json.sorted, List.foldl_cons,
    List.foldl_nil, Json.putMember, String.reduceEq, String.reduceLT, if_false, if_true, Json.whole]

theorem document_eq (c : Config) : c.document = .object [
    ("hooks", (hooksJson c.hooks).normal), ("log", (logJson c.log).normal),
    ("server", (serverJson c.server).normal)] := by
  simp only [document, toJson, Json.normal, Json.normalMembers, Json.sorted, List.foldl_cons,
    List.foldl_nil, Json.putMember, String.reduceEq, String.reduceLT, if_false, if_true]

theorem expand_hooksJson (s : HooksSettings) :
    env.expand (hooksJson s).normal = (s.expanded env).map fun s => (hooksJson s).normal := by
  simp only [normal_hooksJson, Environment.expand, Environment.expandMembers,
    HooksSettings.expanded]
  cases env.expandText s.flagsDir with
  | error e => rfl
  | ok flagsDir =>
    cases env.expandText s.storagePath with
    | error e => rfl
    | ok storagePath => rfl

theorem expand_logJson (s : LogSettings) :
    env.expand (logJson s).normal = (s.expanded env).map fun s => (logJson s).normal := by
  simp only [normal_logJson, Environment.expand, Environment.expandMembers, LogSettings.expanded,
    Json.whole]
  cases env.expandText s.filePath with
  | error e => rfl
  | ok filePath =>
    cases env.expandText s.format with
    | error e => rfl
    | ok format =>
      cases env.expandText s.level with
      | error e => rfl
      | ok level => rfl

theorem expand_serverJson (s : ServerSettings) :
    env.expand (serverJson s).normal = (s.expanded env).map fun s => (serverJson s).normal := by
  simp only [normal_serverJson, Environment.expand, Environment.expandMembers,
    ServerSettings.expanded, Json.whole]
  cases env.expandText s.adminToken with
  | error e => rfl
  | ok adminToken =>
    cases env.expandText s.basePath with
    | error e => rfl
    | ok basePath =>
      cases env.expandText s.host with
      | error e => rfl
      | ok host => rfl

/-- **References in a document.** The document of a configuration with its references
replaced is the document of the configuration with its references replaced. -/
theorem expand_document (c : Config) :
    env.expand c.document = (c.expanded env).map document := by
  simp only [document_eq, Environment.expand, Environment.expandMembers, expand_hooksJson,
    expand_logJson, expand_serverJson, expanded]
  cases c.hooks.expanded env with
  | error e => rfl
  | ok hooks =>
    cases c.log.expanded env with
    | error e => rfl
    | ok log =>
      cases c.server.expanded env with
      | error e => rfl
      | ok server => exact congrArg Except.ok (document_eq ⟨server, hooks, log⟩).symm

end Config

end Flagpost
