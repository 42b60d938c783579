import Flagpost.Config.File
import Flagpost.Proofs.Text.Blank
import Flagpost.Proofs.Web.AdminGate

/-!
# Flagpost — when the administrator is let in

The token of the administrator goes three ways. From the environment it is taken
without the white space around it; in a configuration it is asked to be more than
white space; and from a request it is read without the white space around it, and
only if every character of the header can be shown. The first and the last agree,
so a token from the environment is let in if it can be shown. A token from the file
is kept as it is written, so it may be one that no request can show.

* `Header.text?_ofChars`             — which texts are read from a header;
* `Credential.bearer?_of_sent`       — which token is read from one that was sent;
* `Config.trimmed_overridden`        — a token from the environment is trimmed;
* `Gateway.administrator_admitted`   — so these are the tokens that are let in.
-/

namespace Flagpost

-- ---------------------------------------------------------------------------
-- Texts in a header
-- ---------------------------------------------------------------------------

namespace Header

/-- A character that can be shown in a header: visible ASCII, a space or a tab. -/
def isShown (c : Char) : Bool := (0x20 ≤ c.toNat && c.toNat < 0x7F) || c == '\t'

theorem isVisible_of_lt {c : Char} (h : c.toNat < 0x80) :
    isVisible (UInt8.ofNat c.toNat) = isShown c := by
  have hbyte : (UInt8.ofNat c.toNat).toNat = c.toNat := by
    rw [UInt8.toNat_ofNat', Nat.mod_eq_of_lt (by omega)]
  have htab : (UInt8.ofNat c.toNat == 0x09) = (c == '\t') := by
    rw [Bool.eq_iff_iff, beq_iff_eq, beq_iff_eq, ← UInt8.toNat_inj, ← Char.toNat_inj, hbyte]
    rfl
  rw [isVisible, isShown, htab]
  simp only [UInt8.le_iff_toNat_le, UInt8.lt_iff_toNat_lt, hbyte]
  rfl

theorem lt_of_isShown {c : Char} (h : isShown c = true) : c.toNat < 0x80 := by
  by_contra hle
  have htab : c ≠ '\t' := by
    rintro rfl
    exact hle (by decide)
  simp [isShown, htab] at h
  omega

/-- The bytes of a character can be read as text if it can be shown. -/
theorem all_isVisible_utf8EncodeChar (c : Char) :
    (String.utf8EncodeChar c).all isVisible = isShown c := by
  by_cases hlow : c.toNat < 0x80
  · rw [Utf8.utf8EncodeChar_of_lt hlow, List.all_cons, List.all_nil, Bool.and_true,
      isVisible_of_lt hlow]
  · have hshown : isShown c = false := by
      rw [← Bool.not_eq_true]
      exact fun h => hlow (lt_of_isShown h)
    obtain ⟨b, hb⟩ := List.exists_mem_of_ne_nil (String.utf8EncodeChar c) String.utf8EncodeChar_ne_nil
    have hhigh := Utf8.le_of_mem_utf8EncodeChar (Nat.not_lt.1 hlow) hb
    rw [hshown, List.all_eq_false]
    refine ⟨b, hb, ?_⟩
    rw [UInt8.le_iff_toNat_le] at hhigh
    simp [isVisible, UInt8.le_iff_toNat_le, UInt8.lt_iff_toNat_lt, ← UInt8.toNat_inj] at hhigh ⊢
    omega

/-- A text can be read from a header if all of its characters can be shown. -/
theorem text?_ofChars (text : List Char) :
    text? (Utf8.ofChars text) = if text.all isShown then some text else none := by
  have hall : (Utf8.ofChars text).all isVisible = text.all isShown := by
    rw [Utf8.ofChars, List.all_flatMap]
    exact congrArg text.all (funext all_isVisible_utf8EncodeChar)
  rw [text?, hall]
  split
  · rename_i hshown
    rw [Option.some.injEq]
    clear hall
    induction text with
    | nil => rfl
    | cons c text ih =>
      rw [List.all_cons, Bool.and_eq_true] at hshown
      -- a character that can be shown is one byte
      have hlow := lt_of_isShown hshown.1
      have hchar : Char.ofNat (UInt8.ofNat c.toNat).toNat = c := by
        rw [UInt8.toNat_ofNat', Nat.mod_eq_of_lt (by omega), Char.ofNat_toNat]
      rw [Utf8.ofChars_cons, Utf8.utf8EncodeChar_of_lt hlow, List.singleton_append, List.map_cons,
        hchar, ih hshown.2]
  · rfl

end Header

-- ---------------------------------------------------------------------------
-- The token in a header
-- ---------------------------------------------------------------------------

namespace Credential

variable {header : Header} {token : String}

/-- Every character of a token can be shown in a header. -/
def Shown (token : String) : Prop := token.toList.all Header.isShown = true

instance : DecidablePred Shown := fun token =>
  inferInstanceAs (Decidable (token.toList.all Header.isShown = true))

/-- Behind the scheme, a token is read without the white space around it. -/
theorem bearerOfValue?_scheme (h : isBlankText token = false) :
    bearerOfValue? ("Bearer " ++ token).toList = some (trimmed token) := by
  -- a token of blanks alone would leave the scheme without a space behind it
  have hblank : ¬ ∀ c ∈ token.toList, isBlank c = true := by
    rw [← List.all_eq_true]
    exact Bool.eq_false_iff.1 h
  have hend : Blank.trimEnd token.toList ≠ [] := fun hnil => hblank (Blank.trimEnd_eq_nil_iff.1 hnil)
  have htrim : Blank.trim ("Bearer " ++ token).toList =
      "Bearer".toList ++ ' ' :: Blank.trimEnd token.toList := by
    rw [String.toList_append]
    exact Blank.trimEnd_append hend "Bearer ".toList
  have hscheme : ("Bearer".toList ++ ' ' :: Blank.trimEnd token.toList).takeWhile (· != ' ') =
      "Bearer".toList := rfl
  have htoken : nonEmpty? (Blank.trim (Blank.trimEnd token.toList)) = some (trimmed token) := by
    rw [Blank.trim_trimEnd, nonEmpty?, if_neg]
    · rfl
    · rw [List.isEmpty_iff, Blank.trim_eq_nil_iff]
      exact hblank
  simp only [bearerOfValue?, htrim, hscheme, List.drop_left]
  exact htoken

/-- From a header that a token was sent in, the token is read without the white space around
it, or nothing if it cannot be shown. -/
theorem bearer?_of_sent (h : isBlankText token = false)
    (hsent : header.first? authorization = some (Utf8.encode ("Bearer " ++ token))) :
    bearer? header = if Shown token then some (trimmed token) else none := by
  have hall : ("Bearer " ++ token).toList.all Header.isShown = token.toList.all Header.isShown := by
    rw [String.toList_append, List.all_append]
    rfl
  have htext : Header.text? (Utf8.encode ("Bearer " ++ token)) =
      if Shown token then some ("Bearer " ++ token).toList else none := by
    rw [← String.ofList_toList (s := "Bearer " ++ token), Utf8.encode_ofList, String.ofList_toList,
      Header.text?_ofChars, hall]
    rfl
  rw [bearer?, Header.firstText?, hsent, Option.bind_some, htext]
  split
  · exact bearerOfValue?_scheme h
  · rfl

end Credential

-- ---------------------------------------------------------------------------
-- The administrator
-- ---------------------------------------------------------------------------

namespace Config

theorem isBlankText_of_issues {c : Config} (h : c.issues = []) :
    isBlankText c.server.adminToken = false := by
  rw [← Bool.not_eq_true]
  intro hblank
  simp [issues, issueIf, hblank] at h

/-- A token that the environment overrides has no white space around it. -/
theorem trimmed_overridden {env : Environment} (c : Config)
    (h : (env.filled? adminTokenVariable).isSome = true) :
    trimmed (c.overridden env).server.adminToken = (c.overridden env).server.adminToken := by
  obtain ⟨token, htoken⟩ := Option.isSome_iff_exists.1 h
  rw [overridden, htoken]
  simp only [trimmed, String.toList_ofList, Blank.trim_trim]

end Config

namespace Gateway

variable {g : Gateway} {r : Request} {now : Timestamp} {env : Environment} {file c : Config}

/-- What the gate makes of the token of a configuration without issues. -/
theorem admission_of_sent (hvalid : c.issues = []) (hopen : open? (.ofServer c.server) now = some g)
    {header : Header} (hsent : header.first? Credential.authorization =
      some (Utf8.encode ("Bearer " ++ c.server.adminToken))) :
    g.admission header = if Credential.Shown c.server.adminToken then
      if Sha256.ofText (trimmed c.server.adminToken) = Sha256.ofText c.server.adminToken
      then .admitted else .wrong
    else .missing := by
  obtain ⟨routes, -, rfl⟩ := Option.map_eq_some_iff.1 hopen
  have hblank := Config.isBlankText_of_issues hvalid
  have hne : c.server.adminToken.isEmpty = false := by
    rw [← Bool.not_eq_true, String.isEmpty_iff]
    intro hempty
    rw [hempty] at hblank
    cases hblank
  rw [admission, Credential.bearer?_of_sent hblank hsent]
  by_cases hshown : Credential.Shown c.server.adminToken
  · -- the token arrives without the white space around it, so its digest decides
    rw [if_pos hshown, if_pos hshown]
    simp only [GatewaySettings.ofServer, hne, Bool.false_or, Bool.not_eq_true',
      ← Token.sameDigest_iff]
    cases Token.sameDigest (trimmed c.server.adminToken) c.server.adminToken <;> rfl
  · -- the header cannot be read, so there is no token
    rw [if_neg hshown, if_neg hshown]

/-- **Letting the administrator in.** Take a configuration that was read from a file and
overridden by the environment, and that has no issues, and a request whose authorization
is the scheme and exactly its token. The request is let in if and only if every character of the
token can be shown in a header and the token has the digest of what is left of it when it is
trimmed. So a token that can be shown and has no white space around it is let in; if it
cannot be shown, it counts as missing. A token from the environment has no white space
around it. -/
theorem administrator_admitted (hvalid : (file.overridden env).issues = [])
    (hopen : open? (.ofServer (file.overridden env).server) now = some g)
    (hsent : r.header.first? Credential.authorization =
      some (Utf8.encode ("Bearer " ++ (file.overridden env).server.adminToken))) :
    let token := (file.overridden env).server.adminToken
    (g.admission r.header = .admitted ↔ Credential.Shown token ∧
      Sha256.ofText (trimmed token) = Sha256.ofText token) ∧
    (Credential.Shown token → trimmed token = token → ∀ inside, g.throughGate r inside = inside) ∧
    (¬ Credential.Shown token → g.admission r.header = .missing) ∧
    ((env.filled? Config.adminTokenVariable).isSome = true → trimmed token = token) := by
  intro token
  have hadmission : g.admission r.header = if Credential.Shown token then
      if Sha256.ofText (trimmed token) = Sha256.ofText token then .admitted else .wrong
      else .missing := admission_of_sent hvalid hopen hsent
  refine ⟨?_, fun hshown htrim inside => ?_, fun hshown => ?_, Config.trimmed_overridden file⟩
  · rw [hadmission]
    by_cases hshown : Credential.Shown token
    · by_cases hdigest : Sha256.ofText (trimmed token) = Sha256.ofText token
      · rw [if_pos hshown, if_pos hdigest]
        exact iff_of_true rfl ⟨hshown, hdigest⟩
      · rw [if_pos hshown, if_neg hdigest]
        exact iff_of_false (by decide) fun h => hdigest h.2
    · rw [if_neg hshown]
      exact iff_of_false (by decide) fun h => hshown h.1
  · rw [throughGate, hadmission, if_pos hshown, htrim, if_pos rfl]
  · rw [hadmission, if_neg hshown]

/-- A token that is set in the environment with white space around it. -/
theorem administrator_admitted_overridden :
    let env : Environment := [("WEBHOOK_FORGE_ADMIN_TOKEN", Utf8.encode " secret\n")]
    let header : Header := [⟨"authorization", Utf8.encode "Bearer secret"⟩]
    let r : Request := ⟨.get, ⟨"/api/hooks", none⟩, header, [], none⟩
    ∃ g, open? (.ofServer (({} : Config).overridden env).server) Timestamp.epoch = some g ∧
      ∀ inside, g.throughGate r inside = inside := by
  intro env header r
  have hvalid : (({} : Config).overridden env).issues = [] := by decide
  have hplain : Routes.IsPlain
      (GatewaySettings.ofServer (({} : Config).overridden env).server).basePath :=
    ⟨by decide, by decide⟩
  have hopen := open?_of_plain hplain Timestamp.epoch
  have hsent : r.header.first? Credential.authorization = some (Utf8.encode
      ("Bearer " ++ (({} : Config).overridden env).server.adminToken)) := by decide
  have hall := administrator_admitted hvalid hopen hsent
  exact ⟨_, hopen, hall.2.1 (by decide) (hall.2.2.2 (by decide))⟩

/-- Two tokens that are read from a file and are not let in when they are sent: one has
white space around it, and one a character that cannot be shown. -/
theorem administrator_shut_out :
    let written (token : String) : FileSystem := FileSystem.empty.addFile ["config.json"]
      (Utf8.encode ("\x7bserver:\x7badmin_token:\"" ++ token ++ "\"\x7d\x7d"))
    let configured (token : String) : Config := { server := { adminToken := token } }
    let header (token : String) : Header := [⟨"authorization", Utf8.encode ("Bearer " ++ token)⟩]
    (∀ token ∈ [" secret ", "sécret"],
      (Config.load [] (written token) "config.json").toOption = some (configured token) ∧
      ((configured token).overridden []).issues = []) ∧
    (∃ g, open? (.ofServer ((configured " secret ").overridden []).server) Timestamp.epoch = some g ∧
      g.admission (header " secret ") = .wrong) ∧
    ∃ g, open? (.ofServer ((configured "sécret").overridden []).server) Timestamp.epoch = some g ∧
      g.admission (header "sécret") = .missing := by
  intro written configured header
  have hplain : ∀ token, Routes.IsPlain
      (GatewaySettings.ofServer ((configured token).overridden []).server).basePath := by
    intro token
    have hroot : Routes.IsPlain "" := ⟨by decide, by decide⟩
    exact hroot.normalize
  -- the one token arrives without its blanks, the other in a header that cannot be read
  refine ⟨by decide +kernel, ⟨_, open?_of_plain (hplain " secret ") Timestamp.epoch, ?_⟩,
    ⟨_, open?_of_plain (hplain "sécret") Timestamp.epoch, ?_⟩⟩
  · decide +kernel
  · decide +kernel

end Gateway

end Flagpost
