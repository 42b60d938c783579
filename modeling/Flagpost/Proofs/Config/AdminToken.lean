import Flagpost.Proofs.Config.Saved
import Flagpost.Proofs.Json5.Refusal

/-!
# Flagpost — the administrator's token is changed and nothing else

To set the token is to read the document in the file, to put the token into it, and to
write the file anew. References to the environment are not looked at. On the document
this is a change in one place (`onlySet_withAdminToken`); on the file it is all or
nothing, and a failure at any step leaves the file as it was.

Whether the new file says what the new document says is another matter. The printer
writes the characters U+2028 and U+2029 as they are, which end a line in JSON5. So the
new file is read as the new document if no text in it has one of them, and otherwise it
is not read at all, although the old file was.

* `withAdminToken_eq_ok`    — what putting the token into a document does;
* `setAdminToken_cases`     — the ways in which setting it can end;
* `set_token_changes_token` — what is in the file before and after.
-/

namespace Flagpost

namespace Config

variable {faults : Faults} {fs fs' : FileSystem} {path token : String} {old new : Json}
  {events : List Event} {outcome : Except ConfigError Unit} {content : Bytes}

-- ---------------------------------------------------------------------------
-- The document
-- ---------------------------------------------------------------------------

/-- The token gets its place in the group of the server, which is made if there is none. -/
theorem withAdminToken_eq_ok (h : withAdminToken token old = .ok new) :
    ∃ members server, old = .object members ∧
      (Json.member? members "server").getD (.object []) = .object server ∧
      new = .object (Json.putMember "server"
        (.object (Json.putMember "admin_token" (.string token) server)) members) := by
  unfold withAdminToken at h
  split at h
  · rename_i members
    split at h
    · rename_i server hserver
      cases h
      exact ⟨members, server, rfl, hserver, rfl⟩
    · cases h
  · cases h

/-- The token is the only value that differs. -/
theorem onlySet_withAdminToken (h : withAdminToken token old = .ok new) :
    Json.OnlySet ["server", "admin_token"] (.string token) old new := by
  obtain ⟨members, server, rfl, hserver, rfl⟩ := withAdminToken_eq_ok h
  refine .member ?_
  rw [hserver]
  exact .member (.root _ _)

/-- What is in the group of the server is in the document. -/
theorem of_server {P : Json → Prop} {members : List (String × Json)}
    (hvalues : ∀ m ∈ members, P m.2) (hempty : P (.object [])) :
    P ((Json.member? members "server").getD (.object [])) := by
  cases hserver : Json.member? members "server" with
  | none => exact hempty
  | some server => exact hvalues _ (Json.mem_of_member? hserver)

theorem settled_server {members : List (String × Json)} (h : (Json.object members).Settled) :
    ((Json.member? members "server").getD (.object [])).Settled := by
  cases h with
  | object _ hvalues =>
    exact of_server hvalues (.object List.Pairwise.nil (List.forall_mem_nil _))

theorem settled_withAdminToken (hold : old.Settled) (h : withAdminToken token old = .ok new) :
    new.Settled := by
  obtain ⟨members, server, rfl, hserver, rfl⟩ := withAdminToken_eq_ok h
  have hgroup : (Json.object server).Settled := hserver ▸ settled_server hold
  exact hold.putMember (hgroup.putMember (.string token))

-- ---------------------------------------------------------------------------
-- The file
-- ---------------------------------------------------------------------------

theorem readDocument_eq_ok {document : Json} : readDocument fs path = .ok document ↔
    ∃ text, fs.readText path = .ok text ∧ Json.ofJson5 text = .ok document := by
  rw [readDocument]
  constructor
  · intro h
    split at h
    · cases h
    · rename_i text htext
      split at h
      · cases h
      · rename_i hdocument
        cases h
        exact ⟨text, htext, hdocument⟩
  · rintro ⟨text, htext, hdocument⟩
    rw [htext]
    dsimp only
    rw [hdocument]

/-- There is a file where a document is read. -/
theorem hasPath_of_readDocument {document : Json} (h : readDocument fs path = .ok document) :
    fs.hasPath path = true := by
  obtain ⟨text, htext, -⟩ := readDocument_eq_ok.1 h
  rw [FileSystem.readText] at htext
  split at htext
  · cases htext
  · rename_i content hread
    exact FileSystem.hasPath_of_read hread

/-- What is read of a file is a document. -/
theorem settled_readDocument {document : Json} (h : readDocument fs path = .ok document) :
    document.Settled := by
  obtain ⟨text, -, hdocument⟩ := readDocument_eq_ok.1 h
  exact Json.settled_ofJson5 hdocument

/-- A document that could not be written leaves the file as it was. -/
theorem read_of_writeDocument_error {document : Json} {e : ConfigError}
    (h : writeDocument faults fs path document = (fs', .error e))
    (hread : fs.read path = .ok content) : fs'.read path = .ok content := by
  rw [writeDocument] at h
  split at h
  · cases h
  · rename_i hreplace
    cases h
    exact FileSystem.read_of_replace_error hreplace hread

/-- It leaves everything else too, but for directories and for the file the new content was
written to. -/
theorem node?_of_writeDocument_error {document : Json} {e : ConfigError} {l : Location}
    (h : writeDocument faults fs path document = (fs', .error e))
    (hl : l ≠ Path.locate (FileSystem.sibling path)) :
    fs'.node? l = fs.node? l ∨ fs.node? l = none ∧ fs'.node? l = some .directory := by
  rw [writeDocument] at h
  split at h
  · cases h
  · rename_i hreplace
    cases h
    exact FileSystem.node?_of_replace_error hreplace hl

/-- What has been written of a document that a file can have. -/
theorem readDocument_of_writeDocument {document : Json} (hsettled : document.Settled)
    (h : writeDocument faults fs path document = (fs', .ok ())) :
    readDocument fs' path = if document.All Json.IsLegible then .ok document
      else .error (.document path (.json5 .syntaxFault)) := by
  rw [readDocument, readText_of_writeDocument h]
  dsimp only
  rw [Json.ofJson5_layout hsettled]
  by_cases hlegible : document.All Json.IsLegible
  · rw [if_pos hlegible, if_pos hlegible]
  · rw [if_neg hlegible, if_neg hlegible]

/-- To set the token fails without a change, or ends as the writing of the new document
does. -/
theorem setAdminToken_cases (h : setAdminToken faults fs path token = (fs', events, outcome)) :
    (fs' = fs ∧ ∃ e, outcome = .error e) ∨
      ∃ new, (if fs.hasPath path then readDocument fs path else .ok defaultDocument).bind
          (withAdminToken token) = .ok new ∧
        writeDocument faults fs path new = (fs', outcome) := by
  unfold setAdminToken at h
  dsimp only at h
  split at h
  · cases h
    exact .inl ⟨rfl, _, rfl⟩
  · rename_i new hnew
    split at h <;> cases h
    · rename_i hwritten
      exact .inr ⟨new, hnew, hwritten⟩
    · rename_i hwritten
      exact .inr ⟨new, hnew, hwritten⟩

/-- The token is set in a file with a document as the new document is written. -/
theorem setAdminToken_of_readDocument (hold : readDocument fs path = .ok old)
    (hnew : withAdminToken token old = .ok new)
    (hwritten : writeDocument faults fs path new = (fs', outcome)) :
    ∃ events, setAdminToken faults fs path token = (fs', events, outcome) := by
  rw [setAdminToken, if_pos (hasPath_of_readDocument hold), hold]
  simp only [Except.bind, hnew, hwritten]
  cases outcome with
  | error e => exact ⟨_, rfl⟩
  | ok => exact ⟨_, rfl⟩

/-- A token that has been set in a file with a document was written with that document. -/
theorem written_of_setAdminToken (hold : readDocument fs path = .ok old)
    (hset : setAdminToken faults fs path token = (fs', events, .ok ())) :
    ∃ new, withAdminToken token old = .ok new ∧
      writeDocument faults fs path new = (fs', .ok ()) := by
  rcases setAdminToken_cases hset with ⟨-, e, herror⟩ | ⟨new, hnew, hwritten⟩
  · cases herror
  · rw [if_pos (hasPath_of_readDocument hold), hold] at hnew
    exact ⟨new, hnew, hwritten⟩

/-- On a file with a document, the token is set if it has a place in the document and the new
document can be written. -/
theorem setAdminToken_eq_ok (hold : readDocument fs path = .ok old)
    (hset : setAdminToken faults fs path token = (fs', events, outcome)) :
    outcome = .ok () ↔ ∃ new, withAdminToken token old = .ok new ∧
      (writeDocument faults fs path new).2 = .ok () := by
  constructor
  · rintro rfl
    obtain ⟨new, hnew, hwritten⟩ := written_of_setAdminToken hold hset
    exact ⟨new, hnew, by rw [hwritten]⟩
  · rintro ⟨new, hnew, hwritten⟩
    obtain ⟨events', hset'⟩ := setAdminToken_of_readDocument hold hnew
      (rfl : writeDocument faults fs path new = (_, _))
    rw [hset'] at hset
    cases hset
    exact hwritten

/-- **Setting the token.** If it fails, the file is as it was. On a file with a document it
succeeds if the token has a place in the document and the new document can be written. If
it succeeds, the new document differs from the old one in the token only, and it is what the
file is read as if all texts in it can stand in a string as they are written; otherwise the
file is not JSON5 any more. -/
theorem set_token_changes_token
    (hset : setAdminToken faults fs path token = (fs', events, outcome)) :
    (∀ e content, outcome = .error e → fs.read path = .ok content →
      fs'.read path = .ok content) ∧
    ∀ old, readDocument fs path = .ok old →
      (outcome = .ok () ↔ ∃ new, withAdminToken token old = .ok new ∧
        (writeDocument faults fs path new).2 = .ok ()) ∧
      (outcome = .ok () →
        ∃ new, withAdminToken token old = .ok new ∧
          Json.OnlySet ["server", "admin_token"] (.string token) old new ∧
          readDocument fs' path = if new.All Json.IsLegible then .ok new
            else .error (.document path (.json5 .syntaxFault))) := by
  refine ⟨?error, fun old hold => ⟨setAdminToken_eq_ok hold hset, ?success⟩⟩
  case error =>
    rintro e content rfl hread
    -- either nothing was written, or the writing failed
    rcases setAdminToken_cases hset with ⟨rfl, -⟩ | ⟨new, -, hwritten⟩
    · exact hread
    · exact read_of_writeDocument_error hwritten hread
  case success =>
    rintro rfl
    obtain ⟨new, hnew, hwritten⟩ := written_of_setAdminToken hold hset
    -- the new document is settled since the old one is, so it reads back if it can be read at all
    exact ⟨new, hnew, onlySet_withAdminToken hnew, readDocument_of_writeDocument
      (settled_withAdminToken (settled_readDocument hold) hnew) hwritten⟩

/-- A tree with a configuration file. -/
def configured (text : String) : FileSystem :=
  (FileSystem.empty.replace {} "config.json" (Utf8.encode text)).1

theorem readText_configured (text : String) :
    (configured text).readText "config.json" = .ok text := by
  have hread : (configured text).read "config.json" = .ok (Utf8.encode text) := rfl
  rw [FileSystem.readText, hread]
  dsimp only
  rw [Utf8.decode?_encode]

/-- The file can be replaced, -/
theorem writeDocument_configured (text : String) (document : Json) :
    ∃ fs', writeDocument {} (configured text) "config.json" document = (fs', .ok ()) := by
  have hreplaced : ∀ content, ∃ fs',
      (configured text).replace {} "config.json" content = (fs', .ok ()) := fun _ => ⟨_, rfl⟩
  exact writeDocument_of_replace hreplaced document

/-- but not where there is no space for the renaming. -/
theorem writeDocument_configured_full (text : String) (document : Json) :
    ∃ fs', writeDocument { rename := some .noSpace } (configured text) "config.json" document =
      (fs', .error (.write "config.json" .noSpace)) := by
  have hreplaced : ∀ content, ∃ fs',
      (configured text).replace { rename := some .noSpace } "config.json" content =
        (fs', .error (.file .noSpace)) := fun _ => ⟨_, rfl⟩
  exact writeDocument_of_replace hreplaced document

/-- A document with a reference, with a group of another program, and without a token. -/
def borrowed : Json := .object [
  ("extra", .array [.null, .object [("a b", .number (.whole (-7)))]]),
  ("server", .object [("host", .string "$\x7bHOST\x7d"), ("port", .number (.whole 80))])]

theorem settled_borrowed : borrowed.Settled := by
  have hextra : (Json.array [.null, .object [("a b", .number (.whole (-7)))]]).Settled := by
    refine .array (List.forall_mem_cons.2 ⟨.null, List.forall_mem_singleton.2 ?_⟩)
    exact .object (by decide) (List.forall_mem_singleton.2 (.whole (by decide)))
  have hserver : (Json.object
      [("host", .string "$\x7bHOST\x7d"), ("port", .number (.whole 80))]).Settled :=
    .object (by decide) (List.forall_mem_cons.2
      ⟨.string _, List.forall_mem_singleton.2 (.whole (by decide))⟩)
  exact .object (by decide)
    (List.forall_mem_cons.2 ⟨hextra, List.forall_mem_singleton.2 hserver⟩)

theorem legible_withAdminToken_borrowed (h : withAdminToken "$\x7bTOKEN\x7d" borrowed = .ok new) :
    new.All Json.IsLegible := by
  obtain rfl := Except.ok.inj h
  decide

/-- A token is set in a file with such a document, once without a failure and once with no
space for the renaming. -/
theorem set_token_changes_token_borrowed : ∃ fs changed kept content,
    readDocument fs "config.json" = .ok borrowed ∧
    (∃ events new,
      setAdminToken {} fs "config.json" "$\x7bTOKEN\x7d" = (changed, events, .ok ()) ∧
      Json.OnlySet ["server", "admin_token"] (.string "$\x7bTOKEN\x7d") borrowed new ∧
      readDocument changed "config.json" = .ok new) ∧
    (∃ events, setAdminToken { rename := some .noSpace } fs "config.json" "$\x7bTOKEN\x7d" =
        (kept, events, .error (.write "config.json" .noSpace)) ∧
      fs.read "config.json" = .ok content ∧ kept.read "config.json" = .ok content) := by
  have htext := readText_configured (String.ofList (borrowed.pretty ++ ['\n']))
  have hread : readDocument (configured (String.ofList (borrowed.pretty ++ ['\n'])))
      "config.json" = .ok borrowed := by
    refine readDocument_eq_ok.2 ⟨_, htext, ?_⟩
    rw [Json.ofJson5_layout settled_borrowed, if_pos (by decide)]
  -- the file is read, the token is put in, and the new document is written or the medium is full
  obtain ⟨new, hnew⟩ : ∃ new, withAdminToken "$\x7bTOKEN\x7d" borrowed = .ok new := ⟨_, rfl⟩
  obtain ⟨changed, hchanged⟩ :=
    writeDocument_configured (String.ofList (borrowed.pretty ++ ['\n'])) new
  obtain ⟨kept, hkept⟩ :=
    writeDocument_configured_full (String.ofList (borrowed.pretty ++ ['\n'])) new
  obtain ⟨events, hset⟩ := setAdminToken_of_readDocument hread hnew hchanged
  obtain ⟨events', hfailed⟩ := setAdminToken_of_readDocument hread hnew hkept
  obtain ⟨new, hnew, honly, hafter⟩ := ((set_token_changes_token hset).2 _ hread).2 rfl
  rw [if_pos (legible_withAdminToken_borrowed hnew)] at hafter
  exact ⟨_, changed, kept, _, hread, ⟨events, new, hset, honly, hafter⟩, events', hfailed,
    rfl, (set_token_changes_token hfailed).1 _ _ rfl rfl⟩

-- ---------------------------------------------------------------------------
-- A file that is lost
-- ---------------------------------------------------------------------------

/-- A string with the character U+2028 as an escape. -/
def separator : List Char := ['"', '\\', 'u', '2', '0', '2', '8', '"']

/-- An object with that string under a name. -/
def escaped : List Char := ['\x7b', '"', 'a', '"', ':'] ++ separator ++ ['\x7d']

/-- The escape is read as the character. -/
theorem ofJson5_escaped :
    Json.ofJson5 (String.ofList escaped) = .ok (.object [("a", .string "\u2028")]) := by
  -- the name in front of the colon has no escape in it
  have hname : Json5.readName ('"' :: 'a' :: '"' :: ':' :: (separator ++ ['\x7d'])) =
      some ([.char 'a'], ':' :: (separator ++ ['\x7d'])) := by
    show Json5.readStringRest '"' [] ('a' :: '"' :: _) = _
    rw [Json5.readStringRest_char (by decide) (by decide) (by decide), Json5.readStringRest_mark]
    rfl
  have hvalue : Json5.readValue 13 (separator ++ ['\x7d']) =
      some (.string [.unit 0x2028], ['\x7d']) := by
    have hescape : Json5.readEscape ['u', '2', '0', '2', '8', '"', '\x7d'] =
        some (some (.unit 0x2028), ['"', '\x7d']) := rfl
    have hstring : Json5.readStringRest '"' [] ['\\', 'u', '2', '0', '2', '8', '"', '\x7d'] =
        some ([.unit 0x2028], ['\x7d']) := by
      rw [Json5.readStringRest_escape (by decide) hescape, Json5.readStringRest_mark]
      rfl
    exact congrArg (Option.map fun read => (Json5.string read.1, read.2)) hstring
  have hmembers : Json5.readMembers 14 [] ('"' :: 'a' :: '"' :: ':' :: (separator ++ ['\x7d'])) =
      some ([([.char 'a'], .string [.unit 0x2028])], []) :=
    Json5.readMembers_last hname rfl hvalue rfl
  have hobject : Json5.readValue 15 escaped =
      some (.object [([.char 'a'], .string [.unit 0x2028])], []) := by
    show (Json5.readMembers 14 [] ('"' :: 'a' :: '"' :: ':' :: (separator ++ ['\x7d']))).map _ = _
    rw [hmembers]
    rfl
  have hlength : escaped.length + 1 = 15 := rfl
  have hnext : Json5.next escaped = escaped := rfl
  rw [Json.ofJson5, Json5.ofText?_ofList, hlength, hnext, hobject]
  rfl

/-- To set the token where the new document has a text that cannot stand in a string as it
is written. -/
theorem setAdminToken_of_not_legible {text : String} (hold : Json.ofJson5 text = .ok old)
    (hnew : withAdminToken token old = .ok new)
    (hill : ¬ new.All Json.IsLegible) :
    readDocument (configured text) "config.json" = .ok old ∧
      ∃ fs' events, setAdminToken {} (configured text) "config.json" token =
          (fs', events, .ok ()) ∧
        readDocument fs' "config.json" = .error (.document "config.json" (.json5 .syntaxFault)) := by
  have hread := readDocument_eq_ok.2 ⟨_, readText_configured text, hold⟩
  obtain ⟨fs', hwritten⟩ := writeDocument_configured text new
  obtain ⟨events, hset⟩ := setAdminToken_of_readDocument hread hnew hwritten
  refine ⟨hread, fs', events, hset, ?_⟩
  rw [readDocument_of_writeDocument (settled_withAdminToken (Json.settled_ofJson5 hold) hnew)
    hwritten, if_neg hill]

/-- Two files that are documents and are none after the token has been set: one with the
character in an escape, and one that gets it with the token. -/
theorem set_token_loses_document :
    (readDocument (configured (String.ofList escaped)) "config.json" =
        .ok (.object [("a", .string "\u2028")]) ∧
      ∃ fs' events, setAdminToken {} (configured (String.ofList escaped)) "config.json" "t" =
          (fs', events, .ok ()) ∧
        readDocument fs' "config.json" = .error (.document "config.json" (.json5 .syntaxFault))) ∧
    (readDocument (configured "\x7b\x7d") "config.json" = .ok (.object []) ∧
      ∃ fs' events, setAdminToken {} (configured "\x7b\x7d") "config.json" "\u2028" =
          (fs', events, .ok ()) ∧
        readDocument fs' "config.json" = .error (.document "config.json" (.json5 .syntaxFault))) :=
  ⟨setAdminToken_of_not_legible ofJson5_escaped rfl (by decide),
    setAdminToken_of_not_legible rfl rfl (by decide)⟩

end Config

end Flagpost
