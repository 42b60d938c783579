import Flagpost.Proofs.Access.Credential
import Flagpost.Proofs.Hook.Containment
import Flagpost.Web.Gateway

/-!
# Flagpost — what a request does

A request is handed to one action, and what the action leaves and answers is
what the exchange leaves and answers. For each of the actions that manage hooks
one lemma says what it leaves of the site and one what it answers.

`Gateway.Effect` is everything that a request can do to a site, whatever it is
for and whatever it says (`Gateway.answer_effect`): nothing, one change of the
registry with a hook that has been checked and has a token, or the writing of a
flag. What holds of a site and is kept by these is kept by every request.
-/

namespace Flagpost

namespace Gateway

variable {g : Gateway} {r : Request} {m : Moment} {site : Site} {sent : Hook} {id : String}

-- ---------------------------------------------------------------------------
-- Hooks as they are to be kept
-- ---------------------------------------------------------------------------

/-- A hook that is added without a token gets a fresh one. -/
def freshened (m : Moment) (sent : Hook) : Hook :=
  { sent with token := if sent.token.isEmpty then Token.generate m.nanos m.random else sent.token }

theorem freshened_token_ne (m : Moment) (sent : Hook) : (freshened m sent).token ≠ "" := by
  show (if sent.token.isEmpty then Token.generate m.nanos m.random else sent.token) ≠ ""
  split
  · exact Token.generate_ne m.nanos m.random
  · rename_i hne
    exact fun h => hne (String.isEmpty_iff.2 h)

theorem giveToken_site (sent : Hook) : (giveToken sent m site).site = site := by
  rw [giveToken]
  split
  · rw [Action.bind_pure_site]
    rfl
  · rfl

theorem giveToken_result (sent : Hook) :
    (giveToken sent m site).result = .ok (freshened m sent) := by
  rw [giveToken, freshened]
  split
  · rw [Action.bind_pure_result]
    rfl
  · rfl

/-- A hook that is sent without a token keeps the one it has, if it is there. -/
def tokenKept (registry : Registry) (sent : Hook) : Except HookError Hook :=
  if sent.token.isEmpty then
    (registry.find sent.id).map fun kept => { sent with token := kept.token }
  else .ok sent

theorem keepToken_site (sent : Hook) : (keepToken sent m site).site = site := by
  rw [keepToken]
  split
  · rw [Action.bind_pure_site, Service.getHook, Service.find_site]
  · rfl

theorem keepToken_result (sent : Hook) :
    (keepToken sent m site).result = tokenKept site.registry sent := by
  rw [keepToken, tokenKept]
  split
  · rw [Action.bind_pure_result, Service.getHook, Service.find_result]
  · rfl

-- ---------------------------------------------------------------------------
-- Actions
-- ---------------------------------------------------------------------------

theorem addHook_site (h : g.hookSent r = .ok sent) :
    (g.addHook r m site).site = (Service.createHook (freshened m sent) m site).site := by
  rw [addHook, h]
  show ((giveToken sent >>= fun hook => _) m site).site = _
  rw [Action.bind_site, giveToken_site, giveToken_result]
  exact Action.bind_pure_site _ _

theorem addHook_result (h : g.hookSent r = .ok sent) :
    (g.addHook r m site).result =
      (Service.createHook (freshened m sent) m site).result.map
        fun hook => Reply.granted .created hook.toJson := by
  rw [addHook, h]
  show ((giveToken sent >>= fun hook => _) m site).result = _
  rw [Action.bind_result, giveToken_site, giveToken_result]
  exact Action.bind_pure_result _ _

theorem replaceHook_site (h : g.hookSent r = .ok sent) (id : String) :
    (g.replaceHook r id m site).site =
      match tokenKept site.registry { sent with id := id } with
      | .error _ => site
      | .ok hook => (Service.updateHook hook m site).site := by
  rw [replaceHook, h]
  show ((keepToken _ >>= fun hook => _) m site).site = _
  rw [Action.bind_site, keepToken_site, keepToken_result]
  cases tokenKept site.registry { sent with id := id } with
  | error e => rfl
  | ok hook => exact Action.bind_pure_site _ _

theorem replaceHook_result (h : g.hookSent r = .ok sent) (id : String) :
    (g.replaceHook r id m site).result =
      match tokenKept site.registry { sent with id := id } with
      | .error e => .error e
      | .ok hook => (Service.updateHook hook m site).result.map
          fun updated => Reply.granted .ok updated.toJson := by
  rw [replaceHook, h]
  show ((keepToken _ >>= fun hook => _) m site).result = _
  rw [Action.bind_result, keepToken_site, keepToken_result]
  cases tokenKept site.registry { sent with id := id } with
  | error e => rfl
  | ok hook => exact Action.bind_pure_result _ _

theorem removeHook_site (id : String) :
    (removeHook id m site).site = site.changed (site.registry.delete m site.files id) := by
  rw [removeHook, ← Service.deleteHook_site]
  exact Action.bind_pure_site _ _

theorem removeHook_result (id : String) : (removeHook id m site).result =
    (site.registry.delete m site.files id).result.map fun _ => { status := .noContent } := by
  rw [removeHook, ← Service.deleteHook_result]
  exact Action.bind_pure_result _ _

theorem showHook_site (id : String) : (showHook id m site).site = site := by
  rw [showHook, Action.bind_pure_site, Service.getHook, Service.find_site]

theorem showHook_result (id : String) : (showHook id m site).result =
    (site.registry.find id).map fun hook => Reply.granted .ok hook.toJson := by
  rw [showHook, Action.bind_pure_result, Service.getHook, Service.find_result]

theorem listHooks_site : (listHooks m site).site = site := by
  rw [listHooks, Action.bind_pure_site]
  rfl

theorem listHooks_result : (listHooks m site).result =
    .ok (Reply.granted .ok (.array (site.registry.hooks.hooks.map Hook.toJson))) := by
  rw [listHooks, Action.bind_pure_result]
  rfl

theorem health_site (g : Gateway) : (g.health m site).site = site := by
  have hup : (storeIsUp m site).site = site := by
    rw [storeIsUp]
    split
    · rfl
    · split <;> rfl
  rw [health, Action.bind_site, hup]
  split <;> rfl

/-- A request for a trigger leaves what the trigger leaves, or nothing happens. -/
theorem triggerHook_site (m : Moment) (site : Site) (r : Request) (id : String) :
    (triggerHook r id m site).site = site ∨
      ∃ token, (triggerHook r id m site).site = (Service.trigger id token m site).site := by
  rw [triggerHook]
  split
  · exact .inl rfl
  · cases Credential.trigger? r.header r.target with
    | none => exact .inl rfl
    | some token =>
      refine .inr ⟨token, ?_⟩
      show ((Service.trigger id token >>= fun _ => _) m site).site = _
      rw [Action.bind_site]
      split <;> rfl

/-- A request for a resource is answered by what the resource does, behind the
gate if that is where it is. -/
theorem respond_of_find {resource : Resource} {filling : Filling}
    (h : g.routes.find? r.target.path = some (resource, filling)) :
    g.respond r =
      (if isGuarded resource then g.throughGate r (g.atResource resource filling r)
        else g.atResource resource filling r) >>= fun reply =>
          pure (withMethods resource r reply) := by
  rw [respond, h]
  dsimp only
  split <;> rfl

-- ---------------------------------------------------------------------------
-- Effects
-- ---------------------------------------------------------------------------

/-- What a request can do to a site at a moment. A hook that is replaced has a
token of its own or the token of the record it replaces. -/
inductive Effect (m : Moment) (site : Site) : Site → Prop
  | nothing : Effect m site site
  | created (hook : Hook) (hvalid : hook.fault? = none) (htoken : hook.token ≠ "") :
      Effect m site (site.changed (site.registry.create m site.files hook))
  | updated (hook : Hook) (hvalid : hook.fault? = none)
      (htoken : hook.token ≠ "" ∨ ∃ kept, site.registry.hooks.find? hook.id = some kept ∧
        hook.token = kept.token) :
      Effect m site (site.changed (site.registry.update m site.files hook))
  | deleted (id : String) : Effect m site (site.changed (site.registry.delete m site.files id))
  | raised (hook : Hook) : Effect m site { site with files := (Service.raised m site hook).1 }

/-- An action that has one of the few effects, whenever and wherever it is run. -/
def Tame {α : Type} (action : Action α) : Prop := ∀ m site, Effect m site (action m site).site

theorem tame_pure {α : Type} (a : α) : Tame (pure a : Action α) := fun _ _ => .nothing

theorem tame_of_site {α : Type} {action : Action α} (h : ∀ m site, (action m site).site = site) :
    Tame action := by
  intro m site
  rw [h]
  exact .nothing

theorem addHook_tame (g : Gateway) (r : Request) : Tame (g.addHook r) := by
  intro m site
  cases hsent : g.hookSent r with
  | error reply =>
    rw [addHook, hsent]
    exact .nothing
  | ok sent =>
    rw [addHook_site hsent, Service.createHook_site]
    split
    · exact .nothing
    · rename_i hvalid
      exact .created _ hvalid (freshened_token_ne m sent)

theorem tokenKept_eq_ok {registry : Registry} {sent hook : Hook}
    (h : tokenKept registry sent = .ok hook) : hook.token ≠ "" ∨
      ∃ kept, registry.hooks.find? hook.id = some kept ∧ hook.token = kept.token := by
  rw [tokenKept] at h
  split at h
  · rw [Registry.find] at h
    cases hfind : registry.hooks.find? sent.id with
    | none =>
      rw [hfind] at h
      cases h
    | some kept =>
      rw [hfind] at h
      cases h
      -- no token was sent, and the one of the record stays
      exact .inr ⟨kept, hfind, rfl⟩
  · rename_i hne
    cases h
    -- a token was sent
    exact .inl fun he => hne (String.isEmpty_iff.2 he)

theorem replaceHook_tame (g : Gateway) (r : Request) (id : String) : Tame (g.replaceHook r id) := by
  intro m site
  cases hsent : g.hookSent r with
  | error reply =>
    rw [replaceHook, hsent]
    exact .nothing
  | ok sent =>
    rw [replaceHook_site hsent]
    split
    · exact .nothing
    · rename_i hook hkept
      rw [Service.updateHook_site]
      split
      · exact .nothing
      · rename_i hvalid
        exact .updated hook hvalid (tokenKept_eq_ok hkept)

theorem removeHook_tame (id : String) : Tame (removeHook id) := by
  intro m site
  rw [removeHook_site]
  exact .deleted id

theorem triggerHook_tame (r : Request) (id : String) : Tame (triggerHook r id) := by
  intro m site
  rcases triggerHook_site m site r id with hsame | ⟨token, htrigger⟩
  · rw [hsame]
    exact .nothing
  · rw [htrigger, Service.trigger_site]
    split
    · exact .nothing
    · exact .raised _

theorem withIdentifier_tame (filling : Filling) {go : String → Action Reply}
    (h : ∀ id, Tame (go id)) : Tame (withIdentifier filling go) := by
  rw [withIdentifier]
  split
  · exact h _
  · exact tame_pure _

/-- Whatever resource a request is for and whatever its method, its effect is
one of the few. -/
theorem atResource_tame (g : Gateway) (resource : Resource) (filling : Filling) (r : Request) :
    Tame (g.atResource resource filling r) := by
  -- health, the list and a single hook change nothing
  have hlist : Tame listHooks := tame_of_site fun _ _ => listHooks_site
  have hshow : ∀ id, Tame (showHook id) := fun id => tame_of_site fun _ _ => showHook_site id
  have hhealth : Tame g.health := tame_of_site fun _ _ => health_site g
  unfold atResource
  split
  · exact hhealth
  · exact hhealth
  · exact withIdentifier_tame filling (triggerHook_tame r)
  · exact hlist
  · exact hlist
  · exact addHook_tame g r
  · exact withIdentifier_tame filling hshow
  · exact withIdentifier_tame filling hshow
  · exact withIdentifier_tame filling (replaceHook_tame g r)
  · exact withIdentifier_tame filling removeHook_tame
  · exact tame_pure _

theorem throughGate_tame (g : Gateway) (r : Request) {inside : Action Reply} (h : Tame inside) :
    Tame (g.throughGate r inside) := by
  rw [throughGate]
  split
  · exact h
  · exact fun _ _ => .nothing
  · exact fun _ _ => .nothing

theorem respond_tame (g : Gateway) (r : Request) : Tame (g.respond r) := by
  cases hfind : g.routes.find? r.target.path with
  | none =>
    rw [respond, hfind]
    exact tame_pure _
  | some found =>
    obtain ⟨resource, filling⟩ := found
    have hinside := atResource_tame g resource filling r
    intro m site
    rw [respond_of_find hfind, Action.bind_pure_site]
    split
    · exact throughGate_tame g r hinside m site
    · exact hinside m site

/-- **What a request can do.** Every request, whatever it is for and whatever
it says, has one of the few effects. -/
theorem answer_effect (g : Gateway) (m : Moment) (site : Site) (r : Request) :
    Effect m site (g.answer m site r).site := respond_tame g r m site

end Gateway

end Flagpost
