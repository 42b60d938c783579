import Flagpost.Config.File
import Flagpost.Proofs.Config.References
import Flagpost.Proofs.File.Replacement
import Flagpost.Proofs.Json5.Settled

/-!
# Flagpost — a saved configuration loads

What is saved is the document of a configuration, laid out as JSON. What is loaded
is JSON5, with the references in its texts replaced. Between the two stand three
conditions at which `save` does not look: the texts can stand in a string of JSON5
as they are written, the numbers fit the sixty-four bits with a sign that JSON5 has
for them (both `Storable`), and no text mentions a variable.

* `decode_document`          — a configuration is what its document describes;
* `readDocument_of_save`     — the document is read back from the file;
* `load_after_save`          — so the configuration loads, its references replaced;
* `load_not_inverse_of_save` — without one of the conditions it does not.
-/

namespace Flagpost

namespace Config

variable {env : Environment} {faults : Faults} {fs fs' : FileSystem} {path : String} {c c' : Config}

-- ---------------------------------------------------------------------------
-- The document
-- ---------------------------------------------------------------------------

/-- The numbers of a configuration are within the bounds of their settings. -/
structure Sized (c : Config) : Prop where
  port : c.server.port ≤ max16
  maxBodyBytes : c.server.maxBodyBytes ≤ max64
  maxSize : c.log.maxSize ≤ max64
  maxBackups : c.log.maxBackups ≤ max64

theorem asNat_whole {bound n : Nat} {expected : String} (h : n ≤ bound) :
    asNat bound expected (.whole n) = .ok n := by
  have hbounds : (0 : Int) ≤ n ∧ (n : Int) ≤ bound := by omega
  rw [Json.whole, asNat, if_pos hbounds]
  rfl

/-- A member that is a setting is stored. -/
theorem storeMembers_cons {σ : Type} {settings : List (Setting σ)} {setting : Setting σ}
    {name : String} {value : Json} {rest : List (String × Json)} {group next : σ}
    (hfind : settings.find? (·.name == name) = some setting)
    (hstore : setting.store value group = .ok next) :
    storeMembers settings ((name, value) :: rest) group = storeMembers settings rest next := by
  rw [storeMembers, hfind]
  dsimp only
  rw [hstore]
  rfl

theorem readGroup_hooksJson (s : HooksSettings) (what : String) :
    readGroup what hooksGroup {} (hooksJson s).normal = .ok s := by
  rw [normal_hooksJson, readGroup, storeMembers_cons rfl rfl, storeMembers_cons rfl rfl]
  rfl

theorem readGroup_logJson {s : LogSettings} (hsize : s.maxSize ≤ max64)
    (hbackups : s.maxBackups ≤ max64) (what : String) :
    readGroup what logGroup {} (logJson s).normal = .ok s := by
  rw [normal_logJson, readGroup, storeMembers_cons rfl rfl, storeMembers_cons rfl rfl,
    storeMembers_cons rfl rfl,
    storeMembers_cons rfl (congrArg (Except.map _) (asNat_whole hbackups)),
    storeMembers_cons rfl (congrArg (Except.map _) (asNat_whole hsize))]
  rfl

theorem readGroup_serverJson {s : ServerSettings} (hport : s.port ≤ max16)
    (hbytes : s.maxBodyBytes ≤ max64) (what : String) :
    readGroup what serverGroup {} (serverJson s).normal = .ok s := by
  rw [normal_serverJson, readGroup, storeMembers_cons rfl rfl, storeMembers_cons rfl rfl,
    storeMembers_cons rfl rfl,
    storeMembers_cons rfl (congrArg (Except.map _) (asNat_whole hbytes)),
    storeMembers_cons rfl (congrArg (Except.map _) (asNat_whole hport))]
  rfl

/-- A configuration is what its document describes. -/
theorem decode_document (h : c.Sized) : ofJson c.document = .ok c := by
  rw [document_eq, ofJson, readGroup,
    storeMembers_cons rfl (congrArg (Except.map _) (readGroup_hooksJson c.hooks _)),
    storeMembers_cons rfl (congrArg (Except.map _) (readGroup_logJson h.maxSize h.maxBackups _)),
    storeMembers_cons rfl
      (congrArg (Except.map _) (readGroup_serverJson h.port h.maxBodyBytes _))]
  rfl

-- ---------------------------------------------------------------------------
-- References
-- ---------------------------------------------------------------------------

theorem expanded_log {s s' : LogSettings} (h : s.expanded env = .ok s') :
    s'.maxSize = s.maxSize ∧ s'.maxBackups = s.maxBackups := by
  obtain ⟨filePath, -, h⟩ := ok_of_bind h
  obtain ⟨format, -, h⟩ := ok_of_bind h
  obtain ⟨level, -, h⟩ := ok_of_bind h
  cases h
  exact ⟨rfl, rfl⟩

theorem expanded_server {s s' : ServerSettings} (h : s.expanded env = .ok s') :
    s'.port = s.port ∧ s'.maxBodyBytes = s.maxBodyBytes := by
  obtain ⟨adminToken, -, h⟩ := ok_of_bind h
  obtain ⟨basePath, -, h⟩ := ok_of_bind h
  obtain ⟨host, -, h⟩ := ok_of_bind h
  cases h
  exact ⟨rfl, rfl⟩

/-- To replace references leaves the numbers as they are. -/
theorem Sized.expanded (h : c.Sized) (hexpanded : c.expanded env = .ok c') : c'.Sized := by
  obtain ⟨hooks, -, hexpanded⟩ := ok_of_bind hexpanded
  obtain ⟨log, hlog, hexpanded⟩ := ok_of_bind hexpanded
  obtain ⟨server, hserver, hexpanded⟩ := ok_of_bind hexpanded
  cases hexpanded
  obtain ⟨hsize, hbackups⟩ := expanded_log hlog
  obtain ⟨hport, hbytes⟩ := expanded_server hserver
  exact ⟨hport ▸ h.port, hbytes ▸ h.maxBodyBytes, hsize ▸ h.maxSize, hbackups ▸ h.maxBackups⟩

-- ---------------------------------------------------------------------------
-- The file
-- ---------------------------------------------------------------------------

/-- A configuration that can be read back: its texts can stand in a string as they are
written, and its numbers fit the reader of numbers. -/
structure Storable (c : Config) : Prop where
  texts : ∀ s ∈ c.texts, Json5.LegibleText s
  port : c.server.port ≤ max16
  maxBodyBytes : c.server.maxBodyBytes ≤ Json5.maxWhole
  maxSize : c.log.maxSize ≤ Json5.maxWhole
  maxBackups : c.log.maxBackups ≤ Json5.maxWhole

theorem Storable.sized (h : c.Storable) : c.Sized where
  port := h.port
  maxBodyBytes := Nat.le_trans h.maxBodyBytes (by decide)
  maxSize := Nat.le_trans h.maxSize (by decide)
  maxBackups := Nat.le_trans h.maxBackups (by decide)

theorem legible_whole {n : Nat} (h : n ≤ Json5.maxWhole) : (Json.whole n).Legible := by
  refine .whole ⟨?_, ?_⟩ <;> omega

theorem legible_toJson (h : c.Storable) : c.toJson.Legible := by
  have htexts := h.texts
  simp only [texts, List.forall_mem_cons] at htexts
  obtain ⟨hflags, hstorage, hfile, hformat, hlevel, htoken, hbase, hhost, -⟩ := htexts
  have hport : c.server.port ≤ Json5.maxWhole := Nat.le_trans h.port (by decide)
  -- in each group the names are in order, and what stands under them is legible
  have hserver : (serverJson c.server).Legible := by
    refine .object ?_ ?_ <;> simp only [List.forall_mem_cons]
    · decide
    · exact ⟨.string hhost, legible_whole hport, .string hbase, .string htoken,
        legible_whole h.maxBodyBytes, List.forall_mem_nil _⟩
  have hhooks : (hooksJson c.hooks).Legible := by
    refine .object ?_ ?_ <;> simp only [List.forall_mem_cons]
    · decide
    · exact ⟨.string hstorage, .string hflags, List.forall_mem_nil _⟩
  have hlog : (logJson c.log).Legible := by
    refine .object ?_ ?_ <;> simp only [List.forall_mem_cons]
    · decide
    · exact ⟨.string hlevel, .string hformat, .string hfile, legible_whole h.maxSize,
        legible_whole h.maxBackups, List.forall_mem_nil _⟩
  refine .object ?_ ?_ <;> simp only [List.forall_mem_cons]
  · decide
  · exact ⟨hserver, hhooks, hlog, List.forall_mem_nil _⟩

/-- A document that has been written is there as it was laid out. -/
theorem readText_of_writeDocument {document : Json}
    (hwritten : writeDocument faults fs path document = (fs', .ok ())) :
    fs'.readText path = .ok (String.ofList (document.pretty ++ ['\n'])) := by
  rw [writeDocument] at hwritten
  split at hwritten
  · rename_i files hreplace
    cases hwritten
    rw [FileSystem.readText, FileSystem.read_of_replace_ok hreplace]
    dsimp only
    rw [Utf8.decode?_encode]
  · cases hwritten

/-- The text that a configuration is saved as. -/
def savedText (c : Config) : String := String.ofList (c.toJson.pretty ++ ['\n'])

theorem readText_of_save (hsaved : save faults fs path c = (fs', .ok ())) :
    fs'.readText path = .ok c.savedText :=
  readText_of_writeDocument hsaved

/-- What was saved is read as the document of the configuration. -/
theorem readDocument_of_save (h : c.Storable)
    (hsaved : save faults fs path c = (fs', .ok ())) : readDocument fs' path = .ok c.document := by
  have hmeaning : Json.ofJson5 c.savedText = .ok c.document :=
    Json.ofJson5_pretty (legible_toJson h)
  rw [readDocument, readText_of_save hsaved]
  dsimp only
  rw [hmeaning]

/-- What is loaded from the document of a configuration is the configuration with the
references in its texts replaced. -/
theorem load_of_document (h : c.Sized) (hread : readDocument fs path = .ok c.document) :
    load env fs path = c.expanded env := by
  simp only [load, hread, bind, Except.bind, expand_document]
  cases hexpanded : c.expanded env with
  | error e => rfl
  | ok c' => simp only [Except.map, decode_document (h.expanded hexpanded)]

/-- What has no meaning as JSON5 is not loaded. -/
theorem load_of_unread (hsaved : save faults fs path c = (fs', .ok ()))
    (hmeaning : (Json.ofJson5 c.savedText).isOk = false) : (load env fs' path).isOk = false := by
  rw [load, readDocument, readText_of_save hsaved]
  dsimp only
  cases htext : Json.ofJson5 c.savedText with
  | ok document =>
    rw [htext] at hmeaning
    cases hmeaning
  | error e => rfl

/-- A document is written as a replacement with any content would end. -/
theorem writeDocument_of_replace {outcome : Except ReplacementError Unit}
    (h : ∀ content, ∃ fs', fs.replace faults path content = (fs', outcome)) (document : Json) :
    ∃ fs', writeDocument faults fs path document =
      (fs', outcome.mapError fun e => .write path e.cause) := by
  obtain ⟨fs', hreplace⟩ := h (Utf8.encode (String.ofList (document.pretty ++ ['\n'])))
  refine ⟨fs', ?_⟩
  rw [writeDocument, hreplace]
  cases outcome with
  | error e => rfl
  | ok => rfl

/-- A file with a name of its own can be saved where there is nothing. -/
theorem save_empty (c : Config) : ∃ fs', save {} .empty "config.json" c = (fs', .ok ()) := by
  have hreplaced : ∀ content, ∃ fs',
      FileSystem.empty.replace {} "config.json" content = (fs', .ok ()) := fun _ => ⟨_, rfl⟩
  exact writeDocument_of_replace hreplaced c.toJson

/-- **A saved configuration loads.** After a configuration has been saved, what is loaded is
the configuration with the references in its texts replaced, in every environment; and it
is the configuration itself if its texts mention no variable. -/
theorem load_after_save (h : c.Storable) (hsaved : save faults fs path c = (fs', .ok ())) :
    load env fs' path = c.expanded env ∧
      ((∀ s ∈ c.texts, ¬ Environment.Mentions s.toList) → load env fs' path = .ok c) := by
  have hload : load env fs' path = c.expanded env :=
    load_of_document h.sized (readDocument_of_save h hsaved)
  exact ⟨hload, fun hplain => hload.trans (expanded_of_not_mentions hplain)⟩

/-- Marks that are escaped, dollar signs and braces that refer to nothing, and numbers at
their bounds. -/
def awkward : Config where
  server := { host := "[::1]", port := 65535, adminToken := "\"a\\\n\u0001\" $5 $\x7bx\x7d é" }
  log := { format := "$ \x7bX\x7d", maxSize := 9223372036854775807, maxBackups := 0 }

theorem load_after_save_awkward :
    awkward.Storable ∧ (∀ s ∈ awkward.texts, ¬ Environment.Mentions s.toList) ∧
      ∃ fs', save {} .empty "config.json" awkward = (fs', .ok ()) ∧
        load [("X", [0x78])] fs' "config.json" = .ok awkward := by
  have hstorable : awkward.Storable :=
    ⟨by decide +kernel, by decide, by decide, by decide, by decide⟩
  have hplain : ∀ s ∈ awkward.texts, ¬ Environment.Mentions s.toList := by decide +kernel
  obtain ⟨fs', hsaved⟩ := save_empty awkward
  exact ⟨hstorable, hplain, fs', hsaved, (load_after_save hstorable hsaved).2 hplain⟩

/-- Three configurations that are saved and do not load as they were: a text that refers
to a variable, a text with a character that ends a line, and a number that does not fit. -/
theorem load_not_inverse_of_save :
    (∃ fs', save {} .empty "config.json" { server := { adminToken := "$\x7bX\x7d" } } =
        (fs', .ok ()) ∧
      load [("X", [0x78])] fs' "config.json" = .ok { server := { adminToken := "x" } }) ∧
    (∃ fs', save {} .empty "config.json" { server := { adminToken := "\u2028" } } = (fs', .ok ()) ∧
      (load [] fs' "config.json").isOk = false) ∧
    (∃ fs', save {} .empty "config.json" { server := { maxBodyBytes := 9223372036854775808 } } =
        (fs', .ok ()) ∧
      (load [] fs' "config.json").isOk = false) := by
  refine ⟨?reference, ?separator, ?size⟩
  case reference =>
    obtain ⟨fs', hsaved⟩ := save_empty { server := { adminToken := "$\x7bX\x7d" } }
    -- it is read as it was saved, and the reference in it is replaced
    have hstorable : Storable { server := { adminToken := "$\x7bX\x7d" } } :=
      ⟨by decide +kernel, by decide, by decide, by decide, by decide⟩
    have hexpanded :
        (expanded [("X", [0x78])] { server := { adminToken := "$\x7bX\x7d" } }).toOption =
          some { server := { adminToken := "x" } } := by decide +kernel
    refine ⟨fs', hsaved, ?_⟩
    rw [load_of_document hstorable.sized (readDocument_of_save hstorable hsaved)]
    revert hexpanded
    cases expanded [("X", [0x78])] { server := { adminToken := "$\x7bX\x7d" } } with
    | error e => exact fun hnone => nomatch hnone
    | ok c => exact fun hsome => congrArg Except.ok (Option.some.inj hsome)
  case separator =>
    obtain ⟨fs', hsaved⟩ := save_empty { server := { adminToken := "\u2028" } }
    refine ⟨fs', hsaved, load_of_unread hsaved ?_⟩
    rw [Json.ofJson5, savedText, Json5.ofText?_ofList]
    decide +kernel
  case size =>
    obtain ⟨fs', hsaved⟩ := save_empty { server := { maxBodyBytes := 9223372036854775808 } }
    refine ⟨fs', hsaved, load_of_unread hsaved ?_⟩
    rw [Json.ofJson5, savedText, Json5.ofText?_ofList]
    decide +kernel

end Config

end Flagpost
