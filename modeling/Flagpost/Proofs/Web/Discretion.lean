import Flagpost.Proofs.Hook.Alike
import Flagpost.Proofs.Hook.Store
import Flagpost.Proofs.Web.Management
import Mathlib.Data.List.Forall2

/-!
# Flagpost — events do not tell secrets

Take two runs of a service over requests that differ in nothing but secrets: the
administrator's token, the tokens of hooks that are stored or sent, and the tokens
that requests show. Secrets decide what is allowed, so the two runs may part. But
where they part, a client is told so: by the status, or by the code in the reply.
As long as both runs tell their clients the same, they report the same events, field
by field, before any masking of the log (`Gateway.events_discreet`).

The world around the two runs is the same: the clock, the failures of the medium, and
whether the random source has bytes. Which bytes it has is a secret like the tokens that
are made of them. Only in two fields the words are not the service's own, and there
`FieldValue.ofPlatform` stands for them.

An action is **discreet** (`Action.Discreet`) if alike sites on which clients are
told the same have the same events and are alike afterwards. Actions that do not
look at secrets are alike and so discreet; one that does has two ways to go, and
what is to be shown is that clients are told them apart:

* `Gateway.throughGate_discreet` — what the gate says is said by nothing behind it;
* `Gateway.addHook_discreet`, `replaceHook_discreet` — a body that is refused is
  refused with a code of its own;
* `Gateway.triggerHook_discreet` — and so is a trigger that lacks the token or has
  a wrong one.
-/

namespace Flagpost

-- ---------------------------------------------------------------------------
-- Requests
-- ---------------------------------------------------------------------------

/-- Requests that differ in nothing but secrets: in the fields and the part of the
target that carry tokens, and in the token of the hook that is sent. -/
structure Request.Alike (r r' : Request) : Prop where
  method : r.method = r'.method
  path : r.target.path = r'.target.path
  peer : r.peer = r'.peer
  header : ∀ name, name ≠ Credential.authorization → name ≠ Credential.webhookToken →
    r.header.first? name = r'.header.first? name
  body : ∀ hook hook', Hook.ofRequest r.body = .ok hook → Hook.ofRequest r'.body = .ok hook' →
    hook.veiled = hook'.veiled

theorem Request.Alike.clientLabel {r r' : Request} (h : r.Alike r') :
    r.clientLabel = r'.clientLabel := by
  have hforwarded := h.header "x-forwarded-for" (by decide) (by decide)
  have hreal := h.header "x-real-ip" (by decide) (by decide)
  rw [Request.clientLabel, Request.clientLabel, Request.client?, Request.client?,
    Header.firstText?, Header.firstText?, Header.firstText?, Header.firstText?, hforwarded, hreal,
    h.peer]

-- ---------------------------------------------------------------------------
-- What a client is told
-- ---------------------------------------------------------------------------

namespace Reply

/-- The code in the body of a reply. -/
def code? (r : Reply) : Option String :=
  if r.headOnly then none
  else
    match r.content with
    | .document (.object members) =>
      match Json.member? members "code" with
      | some (.string code) => some code
      | _ => none
    | _ => none

/-- The status and the code of a reply. -/
def verdict (r : Reply) : Status × Option String := (r.status, r.code?)

end Reply

namespace Gateway

/-- What a client is told of the end of an action; without its content, if it asked
for the head only. -/
def told (head : Bool) (result : Except HookError Reply) : Status × Option String :=
  { replyOf result with headOnly := head }.verdict

variable {α : Type} {head : Bool} {status : Status} {code message : String} {value : Json}

theorem told_granted : told head (.ok (Reply.granted status value)) = (status, none) := by
  cases head <;> rfl

/-- What an action of the service tells that is put into words by a reply of this
status: the status, or a failure. -/
theorem told_map (word : α → Reply) (hword : ∀ a, told false (.ok (word a)) = (status, none))
    (result : Except HookError α) : told false (result.map word) = (status, none) ∨
      ∃ e, result = .error e ∧ told false (result.map word) = (Reply.statusOf e, some e.code) := by
  cases result with
  | ok a => exact .inl (hword a)
  | error e => exact .inr ⟨e, rfl, rfl⟩

end Gateway

-- ---------------------------------------------------------------------------
-- Discreet actions
-- ---------------------------------------------------------------------------

namespace Action

variable {α : Type} {head : Bool} {R : α → α → Prop} {a a' : Action Reply}

/-- On sites that are alike, and if clients are told the same, the events are the
same and the sites are alike afterwards. -/
structure Discreet (head : Bool) (a a' : Action Reply) : Prop where
  run : ∀ {m m' : Moment} {site site' : Site}, m.Alike m' → site.Alike site' →
    Gateway.told head (a m site).result = Gateway.told head (a' m' site').result →
    (a m site).events ++ Gateway.endEvents (a m site).result =
      (a' m' site').events ++ Gateway.endEvents (a' m' site').result ∧
    (a m site).site.Alike (a' m' site').site

theorem endEvents_eq {R : Reply → Reply → Prop} {result result' : Except HookError Reply}
    (h : Agree R result result') : Gateway.endEvents result = Gateway.endEvents result' := by
  cases h <;> rfl

theorem Alike.discreet {R : Reply → Reply → Prop} (h : Alike R a a') : Discreet head a a' := by
  refine ⟨fun hm hsite _ => ?_⟩
  have ho := h.run hm hsite
  rw [ho.events, endEvents_eq ho.result]
  exact ⟨rfl, ho.site⟩

/-- Actions of which clients are never told the same. -/
theorem discreet_of_told_ne (h : ∀ m m' site site',
    Gateway.told head (a m site).result ≠ Gateway.told head (a' m' site').result) :
    Discreet head a a' := ⟨fun _ _ htold => absurd htold (h _ _ _ _)⟩

end Action

namespace Gateway

open Flagpost.Action (Alike Discreet)

variable {α : Type} {g g' : Gateway} {r r' : Request} {m m' : Moment} {site site' : Site}
  {sent : Hook}
variable {id token : String}

/-- Whatever two answers are. -/
def Any (_ _ : Reply) : Prop := True

-- ---------------------------------------------------------------------------
-- Actions that look at no secret
-- ---------------------------------------------------------------------------

theorem storeIsUp_alike : Alike (· = ·) storeIsUp storeIsUp := by
  refine ⟨fun {m m' site site'} hm hsite => ?_⟩
  rw [storeIsUp, storeIsUp, ← hsite.registry.storage]
  cases site.registry.storage with
  | none => exact ⟨rfl, hsite, .ok rfl⟩
  | some path =>
    dsimp only
    -- a store is up if it is a file, whatever is in it
    have hfind : (site.files.find path).map (fun found => (found.1, found.2.emptied)) =
        (site'.files.find path).map fun found => (found.1, found.2.emptied) := by
      rw [← FileSystem.find_outline, hsite.files, FileSystem.find_outline]
    rcases map_eq_map hfind with ⟨e, he, he'⟩ | ⟨⟨l, node⟩, ⟨l', node'⟩, h, h', hsame⟩
    · rw [he, he']
      exact ⟨rfl, hsite, .ok rfl⟩
    · rw [h, h']
      obtain ⟨-, hnode⟩ := Prod.mk.inj hsame
      cases node <;> cases node' <;>
        first | exact ⟨rfl, hsite, .ok rfl⟩ | cases hnode

theorem health_alike (g g' : Gateway) : Alike Any g.health g'.health :=
  storeIsUp_alike.bind fun _ _ _ => Action.look_alike fun _ _ => trivial

theorem listHooks_alike : Alike Any listHooks listHooks :=
  Service.allHooks_alike.bind fun _ _ _ => Action.pure_alike trivial

theorem showHook_alike (id : String) : Alike Any (showHook id) (showHook id) :=
  (Service.find_alike _ id).bind fun _ _ _ => Action.pure_alike trivial

theorem removeHook_alike (id : String) : Alike Any (removeHook id) (removeHook id) :=
  (Service.deleteHook_alike id).bind fun _ _ _ => Action.pure_alike trivial

-- ---------------------------------------------------------------------------
-- Hooks that are sent
-- ---------------------------------------------------------------------------

theorem hookSent_veiled (h : r.Alike r') {sent' : Hook} (hsent : g.hookSent r = .ok sent)
    (hsent' : g'.hookSent r' = .ok sent') : sent.veiled = sent'.veiled := by
  have decoded : ∀ {g : Gateway} {r : Request} {sent : Hook}, g.hookSent r = .ok sent →
      Hook.ofRequest r.body = .ok sent := by
    intro g r sent hsent
    rw [hookSent] at hsent
    split at hsent
    · cases hsent
    · split at hsent
      · rename_i hdecode
        cases hsent
        exact hdecode
      · cases hsent
  exact h.body sent sent' (decoded hsent) (decoded hsent')

/-- The codes of the failures of the service. -/
def serviceCodes : List String :=
  ["not_found", "already_exists", "invalid_token", "hook_disabled", "validation_failed", "io_error"]

theorem code_mem (e : HookError) : e.code ∈ serviceCodes := by
  cases e <;> simp [HookError.code, serviceCodes]

/-- A code that no failure of the service has. -/
def Foreign (code : String) : Prop := code ∉ serviceCodes

instance (code : String) : Decidable (Foreign code) :=
  inferInstanceAs (Decidable (code ∉ serviceCodes))

/-- A body is refused with a code that no failure of the service has. -/
theorem hookSent_error {reply : Reply} (h : g.hookSent r = .error reply) :
    ∃ status code, Foreign code ∧ told false (.ok reply) = (status, some code) := by
  rw [hookSent] at h
  split at h
  · cases h
    exact ⟨_, "payload_too_large", by decide, rfl⟩
  · split at h
    · cases h
    · cases h
      exact ⟨_, "bad_request", by decide, rfl⟩

/-- What the service answers is told from a refusal with a code of its own. -/
theorem told_map_ne {word : α → Reply} (hword : ∀ a, told false (.ok (word a)) = (status, none))
    {code : String} (hcode : Foreign code) (result : Except HookError α) (refusal : Status) :
    told false (result.map word) ≠ (refusal, some code) := by
  rcases told_map _ hword result with h | ⟨e, -, h⟩
  · rw [h]
    intro hsame
    cases hsame
  · rw [h]
    intro hsame
    have hsameCode : e.code = code := Option.some.inj (Prod.mk.inj hsame).2
    exact hcode (hsameCode ▸ code_mem e)

/-- What is done with the hook that was sent, if it is taken. -/
def withSent (g : Gateway) (r : Request) (take : Hook → Action Reply) : Action Reply :=
  match g.hookSent r with
  | .error reply => pure reply
  | .ok sent => take sent

/-- An action that answers with replies of one status and without a code, unless the
service fails. -/
def Serves (action : Action Reply) : Prop :=
  ∀ m site, ∃ (β : Type) (word : β → Reply) (status : Status) (result : Except HookError β),
    (∀ b, told false (.ok (word b)) = (status, none)) ∧ (action m site).result = result.map word

theorem Serves.told_ne {action : Action Reply} (h : Serves action) {code : String}
    (hcode : Foreign code) (m : Moment) (site : Site) (refusal : Status) :
    told false (action m site).result ≠ (refusal, some code) := by
  obtain ⟨β, word, status, result, hword, hresult⟩ := h m site
  rw [hresult]
  exact told_map_ne hword hcode result refusal

/-- Either both hooks are taken or both are refused, or clients are told which was. -/
theorem withSent_discreet {take take' : Hook → Action Reply} (h : r.Alike r')
    (htake : ∀ sent sent', sent.veiled = sent'.veiled → Alike Any (take sent) (take' sent'))
    (hserves : ∀ sent, Serves (take sent)) (hserves' : ∀ sent, Serves (take' sent)) :
    Discreet false (g.withSent r take) (g'.withSent r' take') := by
  rw [withSent, withSent]
  cases hsent : g.hookSent r with
  | error reply =>
    obtain ⟨status, code, hforeign, hreply⟩ := hookSent_error hsent
    cases hsent' : g'.hookSent r' with
    | error reply' => exact Alike.discreet (R := Any) (Action.pure_alike trivial)
    | ok sent' =>
      -- one hook is refused and the other is taken, and clients are told which
      refine Action.discreet_of_told_ne fun m m' site site' hsame => ?_
      exact (hserves' sent').told_ne hforeign m' site' status (hsame.symm.trans hreply)
  | ok sent =>
    cases hsent' : g'.hookSent r' with
    | error reply' =>
      obtain ⟨status, code, hforeign, hreply⟩ := hookSent_error hsent'
      refine Action.discreet_of_told_ne fun m m' site site' hsame => ?_
      exact (hserves sent).told_ne hforeign m site status (hsame.trans hreply)
    | ok sent' => exact (htake sent sent' (hookSent_veiled h hsent hsent')).discreet

-- ---------------------------------------------------------------------------
-- Adding and replacing hooks
-- ---------------------------------------------------------------------------

/-- Adds a hook that is taken. -/
def addSent (sent : Hook) : Action Reply := do
  let hook ← giveToken sent
  let created ← Service.createHook hook
  pure (Reply.granted .created created.toJson)

/-- Replaces a hook by one that is taken. -/
def replaceSent (id : String) (sent : Hook) : Action Reply := do
  let hook ← keepToken { sent with id := id }
  let updated ← Service.updateHook hook
  pure (Reply.granted .ok updated.toJson)

theorem addHook_eq (g : Gateway) (r : Request) : g.addHook r = g.withSent r addSent := rfl

theorem replaceHook_eq (g : Gateway) (r : Request) (id : String) :
    g.replaceHook r id = g.withSent r (replaceSent id) := rfl

/-- A fresh token is all that is different in hooks that are added without one. -/
theorem giveToken_alike {sent' : Hook} (h : sent.veiled = sent'.veiled) :
    Alike SameButToken (giveToken sent) (giveToken sent') := by
  rw [giveToken, giveToken, ← isEmpty_of_veil (Hook.token_of_veiled h)]
  split
  · refine Service.generateToken_alike.bind fun fresh fresh' hfresh => ?_
    exact Action.pure_alike (Hook.withToken_veiled h hfresh)
  · exact Action.pure_alike h

theorem addSent_alike {sent' : Hook} (h : sent.veiled = sent'.veiled) :
    Alike Any (addSent sent) (addSent sent') := by
  refine (giveToken_alike h).bind fun hook hook' hhook => ?_
  exact (Service.createHook_alike hhook).bind fun _ _ _ => Action.pure_alike trivial

theorem keepToken_alike {sent' : Hook} (h : sent.veiled = sent'.veiled) :
    Alike SameButToken (keepToken sent) (keepToken sent') := by
  have hfind : Alike SameButToken (Service.getHook sent.id) (Service.getHook sent'.id) := by
    rw [← Hook.id_of_veiled h]
    exact Service.find_alike _ sent.id
  rw [keepToken, keepToken, ← isEmpty_of_veil (Hook.token_of_veiled h)]
  split
  · refine hfind.bind fun kept kept' hkept => ?_
    exact Action.pure_alike (Hook.withToken_veiled h (Hook.token_of_veiled hkept))
  · exact Action.pure_alike h

theorem replaceSent_alike (id : String) {sent' : Hook} (h : sent.veiled = sent'.veiled) :
    Alike Any (replaceSent id sent) (replaceSent id sent') := by
  have hnamed : ({ sent with id := id } : Hook).veiled = ({ sent' with id := id } : Hook).veiled :=
    congrArg (fun hook : Hook => { hook with id := id }) h
  refine (keepToken_alike hnamed).bind fun hook hook' hhook => ?_
  exact (Service.updateHook_alike hhook).bind fun _ _ _ => Action.pure_alike trivial

theorem addSent_serves (sent : Hook) : Serves (addSent sent) := by
  intro m site
  refine ⟨Hook, fun hook => Reply.granted .created hook.toJson, .created,
    (Service.createHook (freshened m sent) m site).result, fun _ => told_granted, ?_⟩
  rw [addSent, Action.bind_result, giveToken_site, giveToken_result]
  exact Action.bind_pure_result _ _

theorem replaceSent_serves (id : String) (sent : Hook) : Serves (replaceSent id sent) := by
  intro m site
  refine ⟨Hook, fun hook => Reply.granted .ok hook.toJson, .ok,
    ((keepToken { sent with id := id } >>= Service.updateHook) m site).result,
    fun _ => told_granted, ?_⟩
  rw [replaceSent, Action.bind_result, Action.bind_result]
  cases (keepToken { sent with id := id } m site).result with
  | error e => rfl
  | ok hook => exact Action.bind_pure_result _ _

theorem addHook_discreet (h : r.Alike r') : Discreet false (g.addHook r) (g'.addHook r') := by
  rw [addHook_eq, addHook_eq]
  exact withSent_discreet h (fun _ _ => addSent_alike) addSent_serves addSent_serves

theorem replaceHook_discreet (h : r.Alike r') (id : String) :
    Discreet false (g.replaceHook r id) (g'.replaceHook r' id) := by
  rw [replaceHook_eq, replaceHook_eq]
  exact withSent_discreet h (fun _ _ => replaceSent_alike id) (replaceSent_serves id)
    (replaceSent_serves id)

-- ---------------------------------------------------------------------------
-- Triggers
-- ---------------------------------------------------------------------------

theorem raised_error {hook : Hook} {e : HookError} (h : (Service.raised m site hook).2 = .error e) :
    e.code ≠ "invalid_token" := by
  rw [Service.raised] at h
  split at h
  · cases h
    show "validation_failed" ≠ "invalid_token"
    decide
  · rcases Service.writeFlag_cases m site.files (Path.join site.flagsDir hook.flagFile) with
      ⟨-, ⟨written, hok⟩, -⟩ | ⟨-, context, cause, herror⟩
    · rw [hok] at h
      cases h
    · rw [herror] at h
      cases h
      show "io_error" ≠ "invalid_token"
      decide

/-- What a client is told of a trigger that shows a token. -/
def granting (_ : FlagWrite) : Reply := Reply.granted .ok (.object [("status", .string "success")])

/-- A trigger with a wrong token is told from one that is permitted. -/
theorem told_trigger_ne {token' : String} {hook : Hook}
    (hok : Service.permission site.registry id token = .ok hook)
    (hwrong : Service.permission site'.registry id token' = .error (.invalidToken id)) :
    told false ((Service.trigger id token m site).result.map granting) ≠
      told false ((Service.trigger id token' m' site').result.map granting) := by
  rw [Service.trigger_result, Service.trigger_result, hok, hwrong]
  dsimp only
  rcases told_map granting (fun _ => told_granted) (Service.raised m site hook).2 with
    h | ⟨e, he, h⟩
  · rw [h]
    intro hsame
    cases hsame
  · rw [h]
    intro hsame
    exact raised_error he (Option.some.inj (Prod.mk.inj hsame).2)

/-- What a request that shows a token does. -/
def triggerWith (r : Request) (id token : String) : Action Reply := do
  let _ ← Service.trigger id token
  Action.report ⟨.info, .http, "webhook accepted",
    [("ip", .shown r.clientLabel), ("id", .shown id)]⟩
  pure (Reply.granted .ok (.object [("status", .string "success")]))

theorem triggerWith_result (r : Request) (id token : String) :
    (triggerWith r id token m site).result =
      (Service.trigger id token m site).result.map granting := by
  rw [triggerWith, Action.bind_result]
  cases (Service.trigger id token m site).result <;> rfl

theorem triggerWith_discreet (h : r.Alike r') (id token token' : String) :
    Discreet false (triggerWith r id token) (triggerWith r' id token') := by
  refine ⟨fun {m m' site site'} hm hsite htold => ?_⟩
  rw [triggerWith_result, triggerWith_result] at htold
  rcases Service.permission_cases hsite.registry id token token' with
    hagree | ⟨hook, hok, hwrong⟩ | ⟨hook, hwrong, hok⟩
  · have htrigger := Service.trigger_alike hm hsite hagree
    have ho : (triggerWith r id token m site).Alike Any (triggerWith r' id token' m' site') := by
      refine Action.bind_alike hm htrigger fun _ _ _ => ?_
      rw [h.clientLabel]
      exact (Action.report_alike _).bind fun _ _ _ => Action.pure_alike trivial
    rw [ho.events, Action.endEvents_eq ho.result]
    exact ⟨rfl, ho.site⟩
  · exact absurd htold (told_trigger_ne hok hwrong)
  · exact absurd htold.symm (told_trigger_ne hok hwrong)

theorem triggerWith_serves (r : Request) (id token : String) : Serves (triggerWith r id token) :=
  fun m site => ⟨FlagWrite, granting, .ok, (Service.trigger id token m site).result,
    fun _ => told_granted, triggerWith_result r id token⟩

theorem triggerHook_discreet (h : r.Alike r') (id : String) :
    Discreet false (triggerHook r id) (triggerHook r' id) := by
  rw [triggerHook, triggerHook, ← h.clientLabel, ← h.path]
  split
  · -- the identifier is empty in both requests
    exact ((Action.report_alike _).bind fun _ _ _ =>
      Action.pure_alike (R := Any) trivial).discreet
  · -- a request without a token and one with a token are told different things
    cases htoken : Credential.trigger? r.header r.target with
    | none =>
      cases htoken' : Credential.trigger? r'.header r'.target with
      | none => exact ((Action.report_alike _).bind fun _ _ _ =>
          Action.pure_alike (R := Any) trivial).discreet
      | some token' =>
        refine Action.discreet_of_told_ne fun m m' site site' hsame => ?_
        exact (triggerWith_serves r id token').told_ne (by decide) m' site' _ hsame.symm
    | some token =>
      cases htoken' : Credential.trigger? r'.header r'.target with
      | none =>
        refine Action.discreet_of_told_ne fun m m' site site' hsame => ?_
        exact (triggerWith_serves r id token).told_ne (by decide) m site _ hsame
      | some token' =>
        -- both have a token, and the hook decides
        have hboth := triggerWith_discreet h id token token'
        rw [triggerWith, triggerWith, ← h.clientLabel] at hboth
        exact hboth

-- ---------------------------------------------------------------------------
-- The gate
-- ---------------------------------------------------------------------------

/-- Nothing that the gate tells those it turns away. -/
def PastGate (head : Bool) (action : Action Reply) : Prop :=
  ∀ m site header, told head (action m site).result ≠ told head (.ok (refusal header))

/-- The statuses with which the gate turns away. -/
def gateStatuses : List Status := [.unauthorized, .forbidden]

theorem told_refusal (header : Header) : ∃ status code, status ∈ gateStatuses ∧ Foreign code ∧
    told true (.ok (refusal header)) = (status, none) ∧
      told false (.ok (refusal header)) = (status, some code) := by
  rw [refusal]
  cases Credential.bearer? header with
  | none => exact ⟨.unauthorized, "unauthorized", by decide, by decide, rfl, rfl⟩
  | some token => exact ⟨.forbidden, "forbidden", by decide, by decide, rfl, rfl⟩

theorem pastGate_of_serves {action : Action Reply} (h : Serves action) : PastGate false action := by
  intro m site header hsame
  obtain ⟨status, code, -, hforeign, -, hrefusal⟩ := told_refusal header
  exact h.told_ne hforeign m site status (hsame.trans hrefusal)

theorem pastGate_of_status {action : Action Reply}
    (h : ∀ m site, ∃ status, (replyOf (action m site).result).status = status ∧
      status ∉ gateStatuses) : PastGate head action := by
  intro m site header hsame
  obtain ⟨status, code, hmem, -, hhead, hwhole⟩ := told_refusal header
  obtain ⟨found, hfound, hnot⟩ := h m site
  have hstatus : (replyOf (action m site).result).status = status := by
    cases head with
    | true => exact congrArg Prod.fst (hsame.trans hhead)
    | false => exact congrArg Prod.fst (hsame.trans hwhole)
  exact hnot (hfound ▸ hstatus ▸ hmem)

theorem withSent_pastGate {take : Hook → Action Reply} (hserves : ∀ sent, Serves (take sent)) :
    PastGate false (g.withSent r take) := by
  rw [withSent]
  cases hsent : g.hookSent r with
  | ok sent => exact pastGate_of_serves (hserves sent)
  | error reply =>
    refine pastGate_of_status fun _ _ => ?_
    rw [hookSent] at hsent
    split at hsent
    · cases hsent
      exact ⟨.payloadTooLarge, rfl, by decide⟩
    · split at hsent
      · cases hsent
      · cases hsent
        exact ⟨.badRequest, rfl, by decide⟩

theorem withIdentifier_pastGate (filling : Filling) {go : String → Action Reply}
    (h : ∀ id, PastGate head (go id)) : PastGate head (withIdentifier filling go) := by
  rw [withIdentifier]
  split
  · exact h _
  · rename_i fault _
    refine pastGate_of_status fun _ _ => ?_
    cases fault with
    | notText name => exact ⟨.badRequest, rfl, by decide⟩
    | count holes => exact ⟨.internalError, rfl, by decide⟩

theorem removeHook_serves (id : String) : Serves (removeHook id) :=
  fun _ _ => ⟨Unit, fun _ => { status := .noContent }, .noContent, _, fun _ => rfl,
    removeHook_result id⟩

theorem listHooks_pastGate : PastGate head listHooks :=
  pastGate_of_status fun _ _ => ⟨.ok, congrArg (fun x => (replyOf x).status) listHooks_result,
    by decide⟩

theorem showHook_pastGate (id : String) : PastGate head (showHook id) := by
  refine pastGate_of_status fun m site => ?_
  rw [showHook_result, Registry.find]
  cases site.registry.hooks.find? id with
  | none => exact ⟨.notFound, rfl, by decide⟩
  | some hook => exact ⟨.ok, rfl, by decide⟩

/-- What is behind the gate tells nothing that the gate does. -/
theorem atResource_pastGate (g : Gateway) {resource : Resource}
    (hguarded : isGuarded resource = true)
    (filling : Filling) (r : Request) :
    PastGate (r.method == .head) (g.atResource resource filling r) := by
  have hother : PastGate (r.method == .head)
      (pure { status := .methodNotAllowed } : Action Reply) :=
    pastGate_of_status fun _ _ => ⟨.methodNotAllowed, rfl, by decide⟩
  unfold atResource
  -- health and the trigger are not behind the gate
  split
  · cases hguarded
  · cases hguarded
  · cases hguarded
  · exact listHooks_pastGate
  · exact listHooks_pastGate
  · rename_i hmethod
    rw [hmethod]
    exact withSent_pastGate addSent_serves
  · exact withIdentifier_pastGate filling showHook_pastGate
  · exact withIdentifier_pastGate filling showHook_pastGate
  · rename_i hmethod
    rw [hmethod]
    exact withIdentifier_pastGate filling fun id => withSent_pastGate (replaceSent_serves id)
  · rename_i hmethod
    rw [hmethod]
    exact withIdentifier_pastGate filling fun id => pastGate_of_serves (removeHook_serves id)
  · exact hother

/-- What the gate does with a request that it turns away. -/
def turnedAway (r : Request) : Action Reply := do
  Action.report
    (match Credential.bearer? r.header with
    | none => ⟨.warn, .auth, "missing admin token", [("path", .shown r.target.path)]⟩
    | some _ => ⟨.warn, .auth, "admin authentication failed", [("path", .shown r.target.path)]⟩)
  pure (refusal r.header)

theorem throughGate_cases (g : Gateway) (r : Request) (inside : Action Reply) :
    g.throughGate r inside = inside ∨ g.throughGate r inside = turnedAway r := by
  rw [throughGate, admission, turnedAway, refusal]
  cases Credential.bearer? r.header with
  | none => exact .inr rfl
  | some token =>
    dsimp only
    split
    · exact .inl rfl
    · rename_i h
      split at h <;> cases h
    · exact .inr rfl

/-- A request that shows no token and one that shows a wrong token are told apart. -/
theorem turnedAway_discreet (hpath : r.target.path = r'.target.path) :
    Discreet head (turnedAway r) (turnedAway r') := by
  rw [turnedAway, turnedAway, refusal, refusal, ← hpath]
  cases Credential.bearer? r.header <;> cases Credential.bearer? r'.header
  · exact ((Action.report_alike _).bind fun _ _ _ => Action.pure_alike (R := Any) trivial).discreet
  · refine Action.discreet_of_told_ne fun _ _ _ _ hsame => ?_
    cases head <;> cases hsame
  · refine Action.discreet_of_told_ne fun _ _ _ _ hsame => ?_
    cases head <;> cases hsame
  · exact ((Action.report_alike _).bind fun _ _ _ => Action.pure_alike (R := Any) trivial).discreet

/-- The gate lets both requests through, or turns both away with the same words, or
clients are told of the difference. -/
theorem throughGate_discreet {inside inside' : Action Reply}
    (hpath : r.target.path = r'.target.path)
    (hinside : Discreet head inside inside') (hpast : PastGate head inside)
    (hpast' : PastGate head inside') :
    Discreet head (g.throughGate r inside) (g'.throughGate r' inside') := by
  rcases throughGate_cases g r inside with h | h <;>
    rcases throughGate_cases g' r' inside' with h' | h' <;> rw [h, h']
  · exact hinside
  · exact Action.discreet_of_told_ne fun m _ site _ => hpast m site r'.header
  · exact Action.discreet_of_told_ne fun _ m' _ site' hsame => hpast' m' site' r.header hsame.symm
  · exact turnedAway_discreet hpath

-- ---------------------------------------------------------------------------
-- Whole requests
-- ---------------------------------------------------------------------------

theorem withIdentifier_discreet (filling : Filling) {go go' : String → Action Reply}
    (h : ∀ id, Discreet head (go id) (go' id)) :
    Discreet head (withIdentifier filling go) (withIdentifier filling go') := by
  rw [withIdentifier, withIdentifier]
  cases filling.identifier with
  | ok id => exact h id
  | error fault => exact (Action.pure_alike (R := Any) trivial).discreet

/-- What resources do for requests that differ in secrets alone is discreet. -/
theorem atResource_discreet (h : r.Alike r') (resource : Resource) (filling : Filling) :
    Discreet (r.method == .head) (g.atResource resource filling r)
      (g'.atResource resource filling r') := by
  unfold atResource
  rw [← h.method]
  split
  · -- health is told alike at any two gateways
    exact (health_alike g g').discreet
  · exact (health_alike g g').discreet
  · -- a trigger, an addition and a replacement carry secrets; the others carry none
    rename_i hmethod
    rw [hmethod]
    exact withIdentifier_discreet filling (triggerHook_discreet h)
  · exact listHooks_alike.discreet
  · exact listHooks_alike.discreet
  · rename_i hmethod
    rw [hmethod]
    exact addHook_discreet h
  · exact withIdentifier_discreet filling fun id => (showHook_alike id).discreet
  · exact withIdentifier_discreet filling fun id => (showHook_alike id).discreet
  · rename_i hmethod
    rw [hmethod]
    exact withIdentifier_discreet filling (replaceHook_discreet h)
  · exact withIdentifier_discreet filling fun id => (removeHook_alike id).discreet
  · exact (Action.pure_alike (R := Any) trivial).discreet

/-- What clients are told does not depend on the methods that are named to them. -/
theorem told_withMethods (resource : Resource) (r : Request) (result : Except HookError Reply) :
    told head (result.map (withMethods resource r)) = told head result := by
  cases result with
  | error e => rfl
  | ok reply =>
    show Reply.verdict { withMethods resource r reply with headOnly := head } =
      Reply.verdict { reply with headOnly := head }
    rw [withMethods]
    split <;> rfl

theorem endEvents_map (word : Reply → Reply) (result : Except HookError Reply) :
    endEvents (result.map word) = endEvents result := by
  cases result <;> rfl

theorem named_discreet {action action' : Action Reply} (h : Discreet head action action')
    (resource : Resource) : Discreet head
      (action >>= fun reply => pure (withMethods resource r reply))
      (action' >>= fun reply => pure (withMethods resource r' reply)) := by
  refine ⟨fun hm hsite htold => ?_⟩
  rw [Action.bind_pure_result, Action.bind_pure_result, told_withMethods, told_withMethods] at htold
  rw [Action.bind_pure_events, Action.bind_pure_events, Action.bind_pure_result, Action.bind_pure_result,
    endEvents_map, endEvents_map, Action.bind_pure_site, Action.bind_pure_site]
  exact h.run hm hsite htold

/-- What is done for requests that differ in secrets alone is discreet, whatever the
administrator's tokens are. -/
theorem respond_discreet (hroutes : g.routes = g'.routes) (h : r.Alike r') :
    Discreet (r.method == .head) (g.respond r) (g'.respond r') := by
  cases hfind : g.routes.find? r.target.path with
  | none =>
    have hfind' : g'.routes.find? r'.target.path = none := by rw [← hroutes, ← h.path, hfind]
    rw [respond, respond, hfind, hfind']
    exact (Action.pure_alike (R := Any) trivial).discreet
  | some found =>
    obtain ⟨resource, filling⟩ := found
    have hfind' : g'.routes.find? r'.target.path = some (resource, filling) := by
      rw [← hroutes, ← h.path, hfind]
    have hinside : Discreet (r.method == .head) (g.atResource resource filling r)
        (g'.atResource resource filling r') := atResource_discreet h resource filling
    rw [respond_of_find hfind, respond_of_find hfind']
    -- the gate decides first, and behind it the resource
    refine named_discreet ?_ resource
    split
    · rename_i hguarded
      have hpast' := atResource_pastGate g' hguarded filling r'
      rw [← h.method] at hpast'
      exact throughGate_discreet h.path hinside (atResource_pastGate g hguarded filling r) hpast'
    · exact hinside

/-- If clients are told the same of requests that differ in secrets alone, the same
is reported of them, and the sites are alike afterwards. -/
theorem answer_discreet (hroutes : g.routes = g'.routes) (hm : m.Alike m')
    (hsite : site.Alike site') (h : r.Alike r')
    (hverdict : (g.answer m site r).reply.verdict = (g'.answer m' site' r').reply.verdict) :
    (g.answer m site r).events = (g'.answer m' site' r').events ∧
      (g.answer m site r).site.Alike (g'.answer m' site' r').site := by
  have htold : told (r.method == .head) (g.respond r m site).result =
      told (r'.method == .head) (g'.respond r' m' site').result := hverdict
  rw [← h.method] at htold
  obtain ⟨hevents, hafter⟩ := (respond_discreet hroutes h).run hm hsite htold
  have hstatus : (g.answer m site r).reply.status = (g'.answer m' site' r').reply.status :=
    congrArg Prod.fst hverdict
  have hrequest : ∀ status, requestEvent r status = requestEvent r' status := by
    intro status
    rw [requestEvent, requestEvent, h.method, h.path, h.clientLabel]
  refine ⟨?_, hafter⟩
  show _ ++ _ ++ [requestEvent r (g.answer m site r).reply.status] =
    _ ++ _ ++ [requestEvent r' (g'.answer m' site' r').reply.status]
  rw [hevents, hstatus, hrequest]

-- ---------------------------------------------------------------------------
-- Runs
-- ---------------------------------------------------------------------------

/-- Requests that differ in secrets alone, at the same time. -/
def AskedAlike (asked asked' : Moment × Request) : Prop :=
  asked.1.Alike asked'.1 ∧ asked.2.Alike asked'.2

/-- What the clients of a run are told, one after the other. -/
def verdicts (handled : List Handled) : List (Status × Option String) :=
  handled.map (·.exchange.reply.verdict)

/-- What is reported in a run. -/
def eventsOf (handled : List Handled) : List Event := handled.flatMap (·.exchange.events)

theorem run_discreet (hroutes : g.routes = g'.routes) {requests requests' : List (Moment × Request)}
    (hsite : site.Alike site') (hrequests : List.Forall₂ AskedAlike requests requests')
    (hverdicts : verdicts (g.run site requests) = verdicts (g'.run site' requests')) :
    eventsOf (g.run site requests) = eventsOf (g'.run site' requests') := by
  induction hrequests generalizing site site' with
  | nil => rfl
  | @cons asked asked' rest rest' hasked hrest ih =>
    obtain ⟨hfirst, hlater⟩ := List.cons.inj hverdicts
    obtain ⟨hevents, hafter⟩ := answer_discreet hroutes hasked.1 hsite hasked.2 hfirst
    exact congrArg₂ (· ++ ·) hevents (ih hafter hlater)

/-- **Events do not tell secrets.** Take two gateways below one base path, whatever
tokens their administrators have.

* Stores whose hooks differ in the values of tokens alone are opened with the same
  events and lead to sites that are alike.
* Runs on sites that are alike, over requests that differ in secrets alone, report
  the same events if they tell their clients the same. -/
theorem events_discreet {s s' : GatewaySettings} {now now' : Timestamp}
    (hbase : s.basePath = s'.basePath) (hopen : open? s now = some g)
    (hopen' : open? s' now' = some g') :
    (∀ {faults : Faults} {fs fs' files files' : FileSystem} {path : String}
      {events events' : List Event} {registry registry' : Registry},
      fs.outline = fs'.outline →
      (∀ hooks hooks', Registry.Stored fs path hooks → Registry.Stored fs' path hooks' →
        hooks.map Hook.veiled = hooks'.map Hook.veiled) →
      Registry.openAt faults fs path = (files, events, .ok registry) →
      Registry.openAt faults fs' path = (files', events', .ok registry') →
      events = events' ∧ ∀ flagsDir,
        Site.Alike ⟨files, registry, flagsDir⟩ ⟨files', registry', flagsDir⟩) ∧
    ∀ {site site' : Site} {requests requests' : List (Moment × Request)}, site.Alike site' →
      List.Forall₂ AskedAlike requests requests' →
      verdicts (g.run site requests) = verdicts (g'.run site' requests') →
      eventsOf (g.run site requests) = eventsOf (g'.run site' requests') := by
  -- the routes come from the base path, and nothing else of the settings is in them
  have hroutes : g.routes = g'.routes := by
    obtain ⟨routes, hof, rfl⟩ := Option.map_eq_some_iff.1 hopen
    obtain ⟨routes', hof', rfl⟩ := Option.map_eq_some_iff.1 hopen'
    rw [← hbase, hof] at hof'
    exact Option.some.inj hof'
  refine ⟨fun hfs hstored hload hload' => ?_, fun hsite hrequests hverdicts =>
    run_discreet hroutes hsite hrequests hverdicts⟩
  obtain ⟨hevents, hfiles, hregistry⟩ := Registry.openAt_alike hfs hstored hload hload'
  exact ⟨hevents, fun flagsDir => ⟨hfiles, hregistry, rfl⟩⟩

/-- Two services with different tokens, of their administrators, in their stores and
of their hooks: a trigger is granted, another is refused, the hook is shown, and two
hooks are added that get fresh tokens, the second one when there are no random bytes. -/
theorem events_discreet_other_tokens :
    let hook (token : String) : Hook :=
      ⟨"ci", "CI", "", token, "ci.flag", true, Timestamp.epoch, Timestamp.epoch⟩
    let store (hooks : List Hook) : FileSystem :=
      FileSystem.empty.addFile ["hooks"] (Utf8.encode (Hook.listText hooks))
    let site (token : String) : Site :=
      ⟨FileSystem.empty, ⟨Collection.empty.insert (hook token), none⟩, "flags"⟩
    let bearer (token : String) : Header := [⟨"authorization", Utf8.encode ("Bearer " ++ token)⟩]
    let m (random : Option Bytes) : Moment := ⟨Timestamp.epoch, 0, random, {}⟩
    let first := Utf8.encode "\x7b\"id\":\"a\",\"name\":\"A\",\"flag_file\":\"a.flag\"\x7d"
    let second := Utf8.encode "\x7b\"id\":\"b\",\"name\":\"B\",\"flag_file\":\"b.flag\"\x7d"
    let requests (admin token : String) (random : Bytes) : List (Moment × Request) := [
      (m none, ⟨.post, ⟨"/forge/webhook/ci", none⟩, bearer token, [], none⟩),
      (m none, ⟨.post, ⟨"/forge/webhook/ci", some ("token=" ++ token ++ "!")⟩, [], [], none⟩),
      (m none, ⟨.get, ⟨"/forge/api/hooks/ci", none⟩, bearer admin, [], none⟩),
      (m (some random), ⟨.post, ⟨"/forge/api/hooks", none⟩, bearer admin, first, none⟩),
      (m none, ⟨.post, ⟨"/forge/api/hooks", none⟩, bearer admin, second, none⟩)]
    let g (admin : String) : Gateway :=
      ⟨(Routes.ofBase? "forge/").getD [], admin, 1024, Timestamp.epoch⟩
    let run (admin token : String) (random : Bytes) : List Handled :=
      (g admin).run (site token) (requests admin token random)
    let told := [(Status.ok, none), (.unauthorized, some "invalid_token"), (.ok, none),
      (.created, none), (.created, none)]
    (∃ files files' events registry registry',
      Registry.openAt {} (store [hook "secret"]) "hooks" = (files, events, .ok registry) ∧
      Registry.openAt {} (store [hook "x"]) "hooks" = (files', events, .ok registry')) ∧
      verdicts (run "adm" "secret" [1]) = told ∧ verdicts (run "boss" "x" [2]) = told ∧
      Token.generationEvents none ⊆ eventsOf (run "adm" "secret" [1]) ∧
      eventsOf (run "adm" "secret" [1]) = eventsOf (run "boss" "x" [2]) := by
  intro hook store site bearer m first second requests g run told
  have hplain : Routes.IsPlain "forge/" := ⟨by decide, by decide⟩
  have hopen : ∀ admin, open? ⟨"forge/", admin, 1024⟩ Timestamp.epoch = some (g admin) :=
    fun admin => open?_of_plain (s := ⟨"forge/", admin, 1024⟩) hplain Timestamp.epoch
  have hbase : (⟨"forge/", "adm", 1024⟩ : GatewaySettings).basePath =
      (⟨"forge/", "boss", 1024⟩ : GatewaySettings).basePath := rfl
  obtain ⟨hstores, hruns⟩ := events_discreet hbase (hopen "adm") (hopen "boss")
  -- only the random bytes of the fourth request differ, and both runs have some
  have hm : (m none).Alike (m none) := ⟨rfl, rfl, rfl⟩
  have hrandom : (m (some [1])).Alike (m (some [2])) := ⟨rfl, rfl, rfl⟩
  have hsites : (site "secret").Alike (site "x") :=
    ⟨rfl, ⟨Collection.insert_veiled rfl (by decide), rfl⟩, rfl⟩
  have hbearer : ∀ token token' name, name ≠ Credential.authorization →
      (bearer token).first? name = (bearer token').first? name := by
    intro token token' name hname
    have hother : ("authorization" == name) = false := beq_false_of_ne (Ne.symm hname)
    simp [bearer, Header.first?, List.find?, hother]
  have hbody : ∀ body sent sent', Hook.ofRequest body = .ok sent →
      Hook.ofRequest body = .ok sent' → sent.veiled = sent'.veiled := by
    intro body sent sent' h h'
    cases h.symm.trans h'
    rfl
  have hrequests : List.Forall₂ AskedAlike (requests "adm" "secret" [1])
      (requests "boss" "x" [2]) :=
    .cons ⟨hm, rfl, rfl, rfl, fun _ h _ => hbearer _ _ _ h, hbody _⟩
      (.cons ⟨hm, rfl, rfl, rfl, fun _ _ _ => rfl, hbody _⟩
        (.cons ⟨hm, rfl, rfl, rfl, fun _ h _ => hbearer _ _ _ h, hbody _⟩
          (.cons ⟨hrandom, rfl, rfl, rfl, fun _ h _ => hbearer _ _ _ h, hbody _⟩
            (.cons ⟨hm, rfl, rfl, rfl, fun _ h _ => hbearer _ _ _ h, hbody _⟩ .nil))))
  have hverdicts : verdicts (run "adm" "secret" [1]) = told := by decide +kernel
  have hverdicts' : verdicts (run "boss" "x" [2]) = told := by decide +kernel
  have hfailure : Token.generationEvents none ⊆ eventsOf (run "adm" "secret" [1]) := by
    decide +kernel
  -- each of the two stores has the one list of hooks in it
  have hread : ∀ hooks, (store hooks).read "hooks" = .ok (Utf8.encode (Hook.listText hooks)) :=
    fun _ => rfl
  have hopened : ∀ hooks, ∃ events, Registry.openAt {} (store hooks) "hooks" =
      (store hooks, events, .ok ⟨Collection.ofList hooks, some "hooks"⟩) := fun hooks =>
    Registry.openAt_again ⟨rfl, hooks, Registry.load_of_read (hread hooks), rfl⟩ rfl
  have hstored : ∀ hooks found, Registry.Stored (store hooks) "hooks" found → found = hooks := by
    rintro hooks found ⟨number, content, text, hnode, hdecode, hfound⟩
    have hfile : (store hooks).node? (Path.locate "hooks") =
        some (.file 0 (Utf8.encode (Hook.listText hooks))) := rfl
    cases hfile.symm.trans hnode
    cases (Utf8.decode?_encode _).symm.trans hdecode
    exact Except.ok.inj (hfound.symm.trans (Registry.hooksOfText_listText hooks))
  have houtline : ∀ hooks hooks', (store hooks).outline = (store hooks').outline := fun _ _ => rfl
  have hveiled : [hook "secret"].map Hook.veiled = [hook "x"].map Hook.veiled := by decide
  obtain ⟨events, hsecret⟩ := hopened [hook "secret"]
  obtain ⟨events', hx⟩ := hopened [hook "x"]
  obtain ⟨rfl, -⟩ := hstores (houtline [hook "secret"] [hook "x"])
    (fun _ _ h h' => by rw [hstored _ _ h, hstored _ _ h', hveiled]) hsecret hx
  exact ⟨⟨_, _, events, _, _, hsecret, hx⟩, hverdicts, hverdicts', hfailure,
    hruns hsites hrequests (hverdicts.trans hverdicts'.symm)⟩

end Gateway

end Flagpost
