import Flagpost.Proofs.Access.Credential
import Flagpost.Proofs.Hook.Containment
import Flagpost.Proofs.Time.RoundTrip
import Flagpost.Proofs.Web.Routing
import Flagpost.Web.Gateway

/-!
# Flagpost — requests that trigger a hook

A request for the trigger of a hook is answered by the permission of the hook
service, after a token has been found in it (`Gateway.answer_trigger`). What
this means for a caller is put together in `Gateway.Triggered`: when the
request is granted and what is then in the flag file, why it is refused and in
which order, and what stays as it is in any case.

`Gateway.trigger_authorised` says that it holds of every such request, in every
state of the site. A stored hook is not trusted for having been saved: each of
its fields is what it is, so the theorem covers stores that were edited by hand.
-/

namespace Flagpost

namespace Gateway

variable {s : GatewaySettings} {now : Timestamp} {g : Gateway} {r : Request} {id : String}
  {m : Moment} {site : Site}

-- ---------------------------------------------------------------------------
-- From the request to the service
-- ---------------------------------------------------------------------------

/-- The request is for the trigger of the hook with this identifier: its path
is that of triggers and one more segment, which is the identifier in percent
encoding. -/
structure AsksTrigger (s : GatewaySettings) (r : Request) (id : String) : Prop where
  method : r.method = .post
  path : ∃ segment : List Char, segment ≠ [] ∧ '/' ∉ segment ∧
    r.target.path = BasePath.normalize s.basePath ++ "/webhook/" ++ String.ofList segment ∧
    Utf8.decode? (Percent.decode (Utf8.encode (String.ofList segment))) = some id

theorem AsksTrigger.id_ne (h : AsksTrigger s r id) : id ≠ "" := by
  obtain ⟨segment, hne, _, _, hid⟩ := h.path
  have hbytes : Utf8.encode (String.ofList segment) ≠ [] := by
    rw [Utf8.encode_ofList]
    intro hnil
    have hlength := Utf8.length_le_ofChars segment
    rw [hnil, List.length_nil, Nat.le_zero, List.length_eq_zero_iff] at hlength
    exact hne hlength
  rintro rfl
  exact Percent.decode_ne_nil hbytes (Utf8.encode_of_decode? hid).symm

/-- The routes lead the request to the trigger with exactly this identifier. -/
def LeadsToTrigger (g : Gateway) (r : Request) (id : String) : Prop :=
  ∃ filling, g.routes.find? r.target.path = some (.trigger, filling) ∧ filling.identifier = .ok id

/-- A request that is led to the trigger is answered by it. -/
theorem respond_of_leadsToTrigger (hmethod : r.method = .post) (h : g.LeadsToTrigger r id)
    (m : Moment) (site : Site) : (g.respond r m site).site = (triggerHook r id m site).site ∧
      (g.respond r m site).result = (triggerHook r id m site).result := by
  obtain ⟨filling, hfind, hidentifier⟩ := h
  have hmethods : ∀ reply, withMethods .trigger r reply = reply := fun reply => by
    rw [withMethods, hmethod]
    rfl
  have hinside : g.atResource .trigger filling r = triggerHook r id := by
    unfold atResource
    rw [hmethod]
    simp only [withIdentifier, hidentifier]
  rw [respond, hfind]
  simp only [isGuarded, Bool.false_eq_true, if_false, hinside, Action.bind_site, Action.bind_result,
    hmethods]
  cases (triggerHook r id m site).result <;> exact ⟨rfl, rfl⟩

/-- A request for a trigger is answered by the trigger of the hook. -/
theorem respond_trigger (hplain : Routes.IsPlain s.basePath) (hopen : open? s now = some g)
    (h : AsksTrigger s r id) (m : Moment) (site : Site) :
    (g.respond r m site).site = (triggerHook r id m site).site ∧
      (g.respond r m site).result = (triggerHook r id m site).result := by
  obtain ⟨segment, hne, hslash, hpath, hid⟩ := h.path
  obtain ⟨routes, hroutes, rfl⟩ := Option.map_eq_some_iff.1 hopen
  have hfind := Routes.find?_trigger hplain hroutes hslash hne
  rw [← hpath] at hfind
  exact respond_of_leadsToTrigger h.method ⟨_, hfind, Filling.identifier_of_decode? hid⟩ m site

/-- The site that a request for a trigger leaves, and the reply to it. -/
def triggerOutcome (m : Moment) (site : Site) (r : Request) (id : String) : Site × Reply :=
  match Credential.trigger? r.header r.target with
  | none => (site, Reply.refused .badRequest "bad_request" "missing token")
  | some token =>
    match Service.permission site.registry id token with
    | .error e => (site, Reply.ofError e)
    | .ok hook =>
      ({ site with files := (Service.raised m site hook).1 },
        match (Service.raised m site hook).2 with
        | .error e => Reply.ofError e
        | .ok _ => Reply.granted .ok (.object [("status", .string "success")]))

theorem answer_trigger (hplain : Routes.IsPlain s.basePath) (hopen : open? s now = some g)
    (h : AsksTrigger s r id) (m : Moment) (site : Site) :
    (g.answer m site r).site = (triggerOutcome m site r id).1 ∧
      (g.answer m site r).reply = (triggerOutcome m site r id).2 := by
  obtain ⟨hsite, hresult⟩ := respond_trigger hplain hopen h m site
  have hid : id.isEmpty = false := by simpa using h.id_ne
  have hmethod : (r.method == .head) = false := by rw [h.method]; rfl
  simp only [answer, hsite, hresult, hmethod]
  rw [triggerHook, hid, if_neg (by decide), triggerOutcome]
  -- a token, the permission and the writing decide, in this order
  cases Credential.trigger? r.header r.target with
  | none => exact ⟨rfl, rfl⟩
  | some token =>
    dsimp only
    rw [Action.bind_site, Action.bind_result, Service.trigger_site, Service.trigger_result]
    cases Service.permission site.registry id token with
    | error e => exact ⟨rfl, rfl⟩
    | ok hook =>
      dsimp only
      cases (Service.raised m site hook).2 with
      | error e => exact ⟨rfl, rfl⟩
      | ok written => exact ⟨rfl, rfl⟩

-- ---------------------------------------------------------------------------
-- What a caller is told
-- ---------------------------------------------------------------------------

/-- A token has the digest of the token of a hook, which is not empty. -/
def Opens (token : String) (hook : Hook) : Prop :=
  hook.token ≠ "" ∧ Sha256.ofText token = Sha256.ofText hook.token

theorem authorises_iff_opens {token : String} (htoken : token ≠ "") (hook : Hook) :
    Token.authorises token hook.token = true ↔ Opens token hook := by
  rw [Token.authorises_iff, Opens, and_iff_right htoken]

/-- What a request for the trigger of a hook is answered with. -/
structure Triggered (m : Moment) (site : Site) (r : Request) (id : String) (x : Exchange) :
    Prop where
  /-- The request is granted if and only if it shows the token of the hook, which
  is there, is enabled and has a token, and its flag can be written. -/
  granted_iff : x.reply.status = .ok ↔ ∃ token hook,
    Credential.trigger? r.header r.target = some token ∧
    site.registry.hooks.find? id = some hook ∧ hook.enabled = true ∧ Opens token hook ∧
    FlagFile.fault? hook.flagFile = none ∧
    Service.CanWrite m site.files (Path.join site.flagsDir hook.flagFile)
  /-- After a granted request the flag file is one line, which says when. -/
  flag : x.reply.status = .ok → ∃ hook, site.registry.hooks.find? id = some hook ∧
    x.site.files.read (Path.join site.flagsDir hook.flagFile) =
      .ok (Utf8.encode ("Hook triggered at " ++ m.now.textToSecond ++ "\n")) ∧
    '\n' ∉ m.now.textToSecond.toList ∧
    Timestamp.read m.now.textToSecond = .ok m.now.toWholeSecond
  /-- The first reason to refuse the request that applies is the one that is
  told, and the site is left as it was. -/
  missingToken : Credential.trigger? r.header r.target = none →
    x.site = site ∧ x.reply = Reply.refused .badRequest "bad_request" "missing token" ∧
      x.reply.status.number = 400
  notFound : ∀ token, Credential.trigger? r.header r.target = some token →
    site.registry.hooks.find? id = none →
    x.site = site ∧ x.reply = Reply.ofError (.notFound id) ∧ x.reply.status.number = 404
  disabled : ∀ token hook, Credential.trigger? r.header r.target = some token →
    site.registry.hooks.find? id = some hook → hook.enabled = false →
    x.site = site ∧ x.reply = Reply.ofError (.disabled id) ∧ x.reply.status.number = 403
  invalidToken : ∀ token hook, Credential.trigger? r.header r.target = some token →
    site.registry.hooks.find? id = some hook → hook.enabled = true → ¬ Opens token hook →
    x.site = site ∧ x.reply = Reply.ofError (.invalidToken id) ∧ x.reply.status.number = 401
  invalidFile : ∀ token hook fault, Credential.trigger? r.header r.target = some token →
    site.registry.hooks.find? id = some hook → hook.enabled = true → Opens token hook →
    FlagFile.fault? hook.flagFile = some fault →
    x.site = site ∧ x.reply = Reply.ofError (.invalid fault) ∧ x.reply.status.number = 400
  /-- Nothing of the registry changes, and no file that is not strictly below the
  flags directory is made, changed or removed. -/
  registry : x.site.registry = site.registry
  files : ∀ l, ¬ Service.Below (Path.locate site.flagsDir) l → ∀ number content,
    x.site.files.node? l = some (.file number content) ↔
      site.files.node? l = some (.file number content)
  /-- A store that is not below the flags directory reads the same. -/
  store : ∀ path content, site.registry.storage = some path →
    ¬ Service.Below (Path.locate site.flagsDir) (Path.locate path) →
    site.files.read path = .ok content → x.site.files.read path = .ok content

theorem permission_eq_ok_iff {registry : Registry} {token : String} (htoken : token ≠ "")
    (hook : Hook) : Service.permission registry id token = .ok hook ↔
      registry.hooks.find? id = some hook ∧ hook.enabled = true ∧ Opens token hook := by
  rw [Service.permission_eq_ok_iff, authorises_iff_opens htoken]

/-- A failure is never told with the status of a success. -/
theorem ofError_status_ne (e : HookError) : (Reply.ofError e).status ≠ .ok := by
  intro h
  cases e <;> cases h

/-- When a request for a trigger is granted. -/
theorem triggerOutcome_ok_iff : (triggerOutcome m site r id).2.status = .ok ↔
    ∃ token hook, Credential.trigger? r.header r.target = some token ∧
      site.registry.hooks.find? id = some hook ∧ hook.enabled = true ∧ Opens token hook ∧
      FlagFile.fault? hook.flagFile = none ∧
      Service.CanWrite m site.files (Path.join site.flagsDir hook.flagFile) := by
  rw [triggerOutcome]
  constructor
  · intro h
    split at h
    · cases h
    · rename_i token htoken
      split at h
      · exact absurd h (ofError_status_ne _)
      · rename_i hook hpermission
        obtain ⟨hfind, henabled, hopens⟩ :=
          (permission_eq_ok_iff (Credential.trigger?_ne htoken) hook).1 hpermission
        cases hfault : FlagFile.fault? hook.flagFile with
        | some fault =>
          rw [Service.raised, hfault] at h
          exact absurd h (ofError_status_ne _)
        | none =>
          -- all that is left to fail is the writing of the flag
          rcases Service.writeFlag_cases m site.files (Path.join site.flagsDir hook.flagFile) with
            ⟨hwrite, _, _⟩ | ⟨_, context, cause, herror⟩
          · exact ⟨token, hook, htoken, hfind, henabled, hopens, hfault, hwrite⟩
          · simp only [Service.raised_of_fault? hfault, herror] at h
            exact absurd h (ofError_status_ne _)
  · rintro ⟨token, hook, htoken, hfind, henabled, hopens, hfault, hwrite⟩
    have hpermission :=
      (permission_eq_ok_iff (Credential.trigger?_ne htoken) hook).2 ⟨hfind, henabled, hopens⟩
    simp only [htoken, hpermission, Service.raised_of_fault? hfault]
    rcases Service.writeFlag_cases m site.files (Path.join site.flagsDir hook.flagFile) with
      ⟨_, ⟨written, hok⟩, _⟩ | ⟨hwrite', _⟩
    · rw [hok]
      rfl
    · exact absurd hwrite hwrite'

/-- After a request was granted, the flag file is the flag line. -/
theorem triggerOutcome_flag (h : (triggerOutcome m site r id).2.status = .ok) :
    ∃ hook, site.registry.hooks.find? id = some hook ∧
      (triggerOutcome m site r id).1.files.read (Path.join site.flagsDir hook.flagFile) =
        .ok (Utf8.encode (Service.flagLine m.now)) := by
  obtain ⟨token, hook, htoken, hfind, henabled, hopens, hfault, hwrite⟩ :=
    triggerOutcome_ok_iff.1 h
  have hpermission :=
    (permission_eq_ok_iff (Credential.trigger?_ne htoken) hook).2 ⟨hfind, henabled, hopens⟩
  refine ⟨hook, hfind, ?_⟩
  simp only [triggerOutcome, htoken, hpermission, Service.raised_of_fault? hfault]
  rcases Service.writeFlag_cases m site.files (Path.join site.flagsDir hook.flagFile) with
    ⟨_, _, hread⟩ | ⟨hwrite', _⟩
  · exact hread
  · exact absurd hwrite hwrite'

/-- The files that a request for a trigger leaves are those that were there, or
those that the writing of a flag leaves. -/
theorem triggerOutcome_files (m : Moment) (site : Site) (r : Request) (id : String) :
    (triggerOutcome m site r id).1 = site ∨
    ∃ hook : Hook, FlagFile.Accepted hook.flagFile ∧ (triggerOutcome m site r id).1 =
      { site with files :=
        (Service.writeFlag m site.files (Path.join site.flagsDir hook.flagFile)).1 } := by
  rw [triggerOutcome]
  split
  · exact .inl rfl
  · split
    · exact .inl rfl
    · rename_i hook _
      rw [Service.raised]
      split
      · exact .inl rfl
      · rename_i hfault
        exact .inr ⟨hook, FlagFile.accepted_of_fault? hfault, rfl⟩

/-- Files that are not strictly below a directory are none of the files that a
flag in it is written to. -/
theorem file_writeFlag_iff {file : String} (h : FlagFile.Accepted file) (m : Moment)
    (fs : FileSystem) (directory : String) {l : Location}
    (hl : ¬ Service.Below (Path.locate directory) l) (number : Nat) (content : Bytes) :
    (Service.writeFlag m fs (Path.join directory file)).1.node? l = some (.file number content) ↔
      fs.node? l = some (.file number content) := by
  by_cases hsame : (Service.writeFlag m fs (Path.join directory file)).1.node? l = fs.node? l
  · rw [hsame]
  · -- what the writing of a flag changes is below the directory, or was missing and is a directory
    rcases Service.writeFlag_contained h m fs directory l hsame with
      hbelow | ⟨hnone, hmade, _⟩
    · exact absurd hbelow hl
    · rw [hnone, hmade]
      simp

theorem triggerOutcome_registry (m : Moment) (site : Site) (r : Request) (id : String) :
    (triggerOutcome m site r id).1.registry = site.registry := by
  rcases triggerOutcome_files m site r id with h | ⟨hook, _, h⟩
  · rw [h]
  · rw [h]

theorem file_triggerOutcome_iff {l : Location}
    (hl : ¬ Service.Below (Path.locate site.flagsDir) l) (number : Nat) (content : Bytes) :
    (triggerOutcome m site r id).1.files.node? l = some (.file number content) ↔
      site.files.node? l = some (.file number content) := by
  rcases triggerOutcome_files m site r id with h | ⟨hook, haccepted, h⟩
  · rw [h]
  · rw [h]
    exact file_writeFlag_iff haccepted m site.files site.flagsDir hl number content

theorem triggerOutcome_keepsOpen (m : Moment) (site : Site) (r : Request) (id : String) :
    FileSystem.KeepsOpen site.files (triggerOutcome m site r id).1.files := by
  rcases triggerOutcome_files m site r id with h | ⟨hook, _, h⟩
  · rw [h]
    exact .refl _
  · rw [h]
    exact Service.writeFlag_keepsOpen m site.files _

theorem triggerOutcome_missing (h : Credential.trigger? r.header r.target = none) :
    triggerOutcome m site r id =
      (site, Reply.refused .badRequest "bad_request" "missing token") := by
  rw [triggerOutcome, h]

theorem triggerOutcome_refused {token : String} {e : HookError}
    (htoken : Credential.trigger? r.header r.target = some token)
    (h : Service.permission site.registry id token = .error e) :
    triggerOutcome m site r id = (site, Reply.ofError e) := by
  simp only [triggerOutcome, htoken, h]

/-- A request for a trigger is answered as `Triggered` says. -/
theorem triggered_of_outcome {x : Exchange} (hsite : x.site = (triggerOutcome m site r id).1)
    (hreply : x.reply = (triggerOutcome m site r id).2) : Triggered m site r id x where
  granted_iff := by
    rw [hreply]
    exact triggerOutcome_ok_iff
  -- each refusal is read off the permission, in the order in which the permission is asked
  flag h := by
    rw [hreply] at h
    obtain ⟨hook, hfind, hread⟩ := triggerOutcome_flag h
    exact ⟨hook, hfind, hsite ▸ hread, Timestamp.newline_not_mem_textToSecond m.now,
      Timestamp.read_textToSecond m.now⟩
  missingToken htoken := by
    rw [hsite, hreply, triggerOutcome_missing htoken]
    exact ⟨rfl, rfl, rfl⟩
  notFound token htoken hfind := by
    have hpermission : Service.permission site.registry id token = .error (.notFound id) := by
      rw [Service.permission, hfind]
    rw [hsite, hreply, triggerOutcome_refused htoken hpermission]
    exact ⟨rfl, rfl, rfl⟩
  disabled token hook htoken hfind hdisabled := by
    have hpermission : Service.permission site.registry id token = .error (.disabled id) := by
      simp [Service.permission, hfind, hdisabled]
    rw [hsite, hreply, triggerOutcome_refused htoken hpermission]
    exact ⟨rfl, rfl, rfl⟩
  invalidToken token hook htoken hfind henabled hopens := by
    have hauthorises : Token.authorises token hook.token = false := by
      rw [← Bool.not_eq_true, authorises_iff_opens (Credential.trigger?_ne htoken)]
      exact hopens
    have hpermission : Service.permission site.registry id token = .error (.invalidToken id) := by
      simp [Service.permission, hfind, henabled, hauthorises]
    rw [hsite, hreply, triggerOutcome_refused htoken hpermission]
    exact ⟨rfl, rfl, rfl⟩
  invalidFile token hook fault htoken hfind henabled hopens hfault := by
    have hpermission :=
      (permission_eq_ok_iff (Credential.trigger?_ne htoken) hook).2 ⟨hfind, henabled, hopens⟩
    have h : triggerOutcome m site r id = (site, Reply.ofError (.invalid fault)) := by
      simp only [triggerOutcome, htoken, hpermission, Service.raised, hfault]
    rw [hsite, hreply, h]
    exact ⟨rfl, rfl, rfl⟩
  registry := by
    rw [hsite]
    exact triggerOutcome_registry m site r id
  files l hl number content := by
    rw [hsite]
    exact file_triggerOutcome_iff hl number content
  store path content _ hbelow hread := by
    rw [hsite]
    refine FileSystem.read_of_keepsOpen (triggerOutcome_keepsOpen m site r id) ?_ hread
    intro number hn
    exact (file_triggerOutcome_iff hbelow number content).2 hn

/-- **Authorisation of triggers.** Below a base path without colons and stars,
every request for the trigger of a hook is answered as `Triggered` says, in
every state of the registry and of the file system. -/
theorem trigger_authorised (hplain : Routes.IsPlain s.basePath) (now : Timestamp) :
    ∃ g, open? s now = some g ∧ ∀ (r : Request) (id : String), AsksTrigger s r id →
      ∀ (m : Moment) (site : Site), Triggered m site r id (g.answer m site r) := by
  -- without colons and stars the base path gives routes
  obtain ⟨routes, hroutes⟩ := Routes.ofBase?_plain hplain
  have hopen : open? s now = some ⟨routes, s.adminToken, s.maxBodyBytes, now⟩ := by
    rw [open?, hroutes, Option.map_some]
  refine ⟨_, hopen, fun r id h m site => ?_⟩
  obtain ⟨hsite, hreply⟩ := answer_trigger hplain hopen h m site
  exact triggered_of_outcome hsite hreply

/-- A request that shows the token of a hook below a base path. -/
theorem trigger_authorised_granted :
    let s : GatewaySettings := ⟨"forge/", "", 1024⟩
    let header : Header := [⟨"authorization", Utf8.encode "Bearer secret"⟩]
    let r : Request := ⟨.post, ⟨"/forge/webhook/ci", none⟩, header, [], none⟩
    let hook : Hook :=
      ⟨"ci", "CI", "", "secret", "ci.flag", true, Timestamp.epoch, Timestamp.epoch⟩
    let site : Site :=
      ⟨FileSystem.empty.addDirectory ["flags"], ⟨Collection.empty.insert hook, none⟩, "flags"⟩
    let m : Moment := ⟨Timestamp.epoch, 0, none, {}⟩
    ∃ g, open? s Timestamp.epoch = some g ∧ (g.answer m site r).reply.status = .ok ∧
      (g.answer m site r).site.files.read "flags/ci.flag" =
        .ok (Utf8.encode "Hook triggered at 1970-01-01T00:00:00Z\n") := by
  intro s header r hook site m
  have hplain : Routes.IsPlain s.basePath := ⟨by decide, by decide⟩
  have hasks : AsksTrigger s r "ci" :=
    ⟨rfl, "ci".toList, by decide, by decide, by decide, by decide⟩
  obtain ⟨g, hopen, hall⟩ := trigger_authorised hplain Timestamp.epoch
  have htriggered := hall r "ci" hasks m site
  -- the directory is there already, and the system opens and writes the file
  have hdirectory : Service.makeFlagDirectory m site.files "flags/ci.flag" = (site.files, .ok ()) := by
    have hthere : site.files.isDirectory "flags" = true := by decide
    have hparent : Path.parent? "flags/ci.flag" = some "flags" := by decide
    rw [Service.makeFlagDirectory, hparent]
    simp only [show m.faults.makeDirectory = none from rfl,
      FileSystem.makeDirectories_of_isDirectory hthere]
  have hwrite : Service.CanWrite m site.files "flags/ci.flag" := by
    rw [Service.CanWrite, hdirectory]
    exact ⟨rfl, _, rfl⟩
  have hpath : Path.join site.flagsDir hook.flagFile = "flags/ci.flag" := by decide
  rw [← hpath] at hwrite
  have hok : (g.answer m site r).reply.status = .ok :=
    htriggered.granted_iff.2 ⟨"secret", hook, by decide, by decide, rfl, ⟨by decide, rfl⟩,
      by decide, hwrite⟩
  obtain ⟨found, hfind, hread, -, -⟩ := htriggered.flag hok
  cases hfind.symm.trans (show site.registry.hooks.find? "ci" = some hook by decide)
  have hline : "Hook triggered at " ++ m.now.textToSecond ++ "\n" =
      "Hook triggered at 1970-01-01T00:00:00Z\n" := by decide
  rw [hpath, hline] at hread
  exact ⟨g, hopen, hok, hread⟩

end Gateway

end Flagpost
