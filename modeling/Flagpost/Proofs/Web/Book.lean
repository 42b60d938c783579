import Flagpost.Proofs.Web.Exchange
import Mathlib.Logic.Function.Basic

/-!
# Flagpost — the map of hooks

To the administrator the hooks are a map from identifiers to records (`Book`).
What is demanded of it, and how each demand is answered and changes it, is said
by rules that know nothing of registries and files (`Gateway.Answered`). Which
refusal wins when several are due is in the premises of the rules.

The actions that manage hooks keep to the rules (`Gateway.Meets`): whenever the
store can be written, what an action leaves and answers is one of them.
-/

namespace Flagpost

/-- The hooks as the administrator knows them. -/
abbrev Book : Type := String → Option Hook

/-- The hooks of a site. -/
def Site.book (site : Site) : Book := site.registry.hooks.find?

namespace Gateway

-- ---------------------------------------------------------------------------
-- Demands and their answers
-- ---------------------------------------------------------------------------

/-- What is demanded of the map of hooks. -/
inductive Demand
  | list
  | get (id : String)
  | add (sent : Hook)
  | replace (id : String) (sent : Hook)
  | remove (id : String)
  /-- A hook was to be read from the body, but there is none in it. -/
  | unreadable (error : JsonError)
  /-- The resource has no such method. -/
  | unsupported (resource : Resource)

/-- The record that a hook gets when it is added. -/
def added (m : Moment) (sent : Hook) : Hook := (freshened m sent).stamped m.now m.now

/-- The record that a hook gets when it replaces another: the identifier is not
the one that was sent, the token is the old one if none was sent, and the time
of creation stays. -/
def replacing (id : String) (sent kept : Hook) (time : Timestamp) : Hook :=
  { sent with
    id := id
    token := if sent.token.isEmpty then kept.token else sent.token
    createdAt := kept.createdAt
    updatedAt := time }

/-- The reply when there is no such hook. -/
def unknown (id : String) : Reply :=
  Reply.refused .notFound "not_found" ("hook not found: " ++ id)

/-- The reply when a hook is not accepted. -/
def faulty (fault : HookFault) : Reply :=
  Reply.refused .badRequest "validation_failed" ("invalid hook configuration: " ++ fault.message)

/-- How a demand on the map is answered at a moment: the reply, the records that
are shown in it, and the map afterwards. -/
inductive Answered (m : Moment) (book : Book) : Demand → Reply → List Hook → Book → Prop
  | listed {hooks : List Hook} (hall : ∀ hook, hook ∈ hooks ↔ book hook.id = some hook)
      (honce : hooks.Pairwise fun a b => a.id < b.id) :
      Answered m book .list (Reply.granted .ok (.array (hooks.map Hook.toJson))) hooks book
  | found {id : String} {hook : Hook} (hfind : book id = some hook) :
      Answered m book (.get id) (Reply.granted .ok hook.toJson) [hook] book
  | notFound {id : String} (hfind : book id = none) :
      Answered m book (.get id) (unknown id) [] book
  | added {sent : Hook} (hvalid : sent.fault? = none) (hnew : book sent.id = none)
      (htoken : (added m sent).token ≠ "") :
      Answered m book (.add sent) (Reply.granted .created (added m sent).toJson) [added m sent]
        (Function.update book sent.id (some (added m sent)))
  | addedFaulty {sent : Hook} {fault : HookFault} (hfault : sent.fault? = some fault) :
      Answered m book (.add sent) (faulty fault) [] book
  | addedTwice {sent kept : Hook} (hvalid : sent.fault? = none) (hfind : book sent.id = some kept) :
      Answered m book (.add sent)
        (Reply.refused .conflict "already_exists" ("hook already exists: " ++ sent.id)) [] book
  | replaced {id : String} {sent kept : Hook} {time : Timestamp} (hfind : book id = some kept)
      (hvalid : { sent with id := id }.fault? = none)
      (htime : Registry.nextChange? m.now kept.updatedAt = some time) :
      Answered m book (.replace id sent) (Reply.granted .ok (replacing id sent kept time).toJson)
        [replacing id sent kept time]
        (Function.update book id (some (replacing id sent kept time)))
  | replacedUnknown {id : String} {sent : Hook} (hfind : book id = none)
      (hfirst : sent.token = "" ∨ { sent with id := id }.fault? = none) :
      Answered m book (.replace id sent) (unknown id) [] book
  | replacedFaulty {id : String} {sent : Hook} {fault : HookFault}
      (hfault : { sent with id := id }.fault? = some fault)
      (hfirst : sent.token ≠ "" ∨ book id ≠ none) :
      Answered m book (.replace id sent) (faulty fault) [] book
  /-- There is no later time, on the clock or at all, to change the record at. -/
  | replacedTooLate {id : String} {sent kept : Hook} (hfind : book id = some kept)
      (hvalid : { sent with id := id }.fault? = none) (hclock : ¬ kept.updatedAt < m.now)
      (hlast : kept.updatedAt.next? = none) :
      Answered m book (.replace id sent)
        (Reply.refused .internalError "io_error" "internal server error") [] book
  | removed {id : String} {kept : Hook} (hfind : book id = some kept) :
      Answered m book (.remove id) { status := .noContent } [] (Function.update book id none)
  | removedUnknown {id : String} (hfind : book id = none) :
      Answered m book (.remove id) (unknown id) [] book
  | unreadable (error : JsonError) :
      Answered m book (.unreadable error)
        (Reply.refused .badRequest "bad_request" ("invalid request body: " ++ error.message)) []
        book
  | unsupported (resource : Resource) :
      Answered m book (.unsupported resource)
        { status := .methodNotAllowed, allow := methods resource } [] book

variable {g : Gateway} {r : Request} {m : Moment} {site : Site} {book book' : Book}
  {shown : List Hook} {reply : Reply} {demand : Demand} {id : String} {sent : Hook}

/-- The list of the records of a map is the only one that is in order. -/
theorem listed_unique {hooks hooks' : List Hook}
    (hall : ∀ hook, hook ∈ hooks ↔ book hook.id = some hook)
    (honce : hooks.Pairwise fun a b => a.id < b.id)
    (hall' : ∀ hook, hook ∈ hooks' ↔ book hook.id = some hook)
    (honce' : hooks'.Pairwise fun a b => a.id < b.id) : hooks = hooks' := by
  have hfind : ∀ c : Collection, (∀ hook, hook ∈ c.hooks ↔ book hook.id = some hook) →
      ∀ id hook, c.find? id = some hook ↔ book hook.id = some hook ∧ hook.id = id := by
    intro c hc id hook
    constructor
    · exact fun h => ⟨(hc hook).1 (Collection.mem_of_find? h), Collection.find?_id h⟩
    · rintro ⟨hbook, rfl⟩
      exact Collection.find?_of_mem ((hc hook).2 hbook)
  have hsame : (⟨hooks, honce⟩ : Collection) = ⟨hooks', honce'⟩ := by
    refine Collection.ext_find? fun id => Option.ext fun hook => ?_
    rw [hfind ⟨hooks, honce⟩ hall, hfind ⟨hooks', honce'⟩ hall']
  exact congrArg Collection.hooks hsame

/-- The rules leave no choice: no two of them answer the same demand on the same
map at the same moment differently. -/
theorem Answered.unique {reply' : Reply} {shown' : List Hook} {book'' : Book}
    (h : Answered m book demand reply shown book')
    (h' : Answered m book demand reply' shown' book'') :
    reply = reply' ∧ shown = shown' ∧ book' = book'' := by
  cases h with
  | listed hall honce =>
    cases h' with
    | listed hall' honce' =>
      rw [listed_unique hall honce hall' honce']
      exact ⟨rfl, rfl, rfl⟩
  | _ => cases h' <;> simp_all [Registry.nextChange?]

/-- A demand that is not granted changes nothing and shows nothing. -/
theorem Answered.refused (h : Answered m book demand reply shown book')
    (hstatus : 300 ≤ reply.status.number) : book' = book ∧ shown = [] := by
  cases h with
  | listed | found | added | replaced | removed =>
    simp [Reply.granted, Status.number] at hstatus
  | _ => exact ⟨rfl, rfl⟩

/-- A record that is shown is in the map afterwards. -/
theorem Answered.shown_mem (h : Answered m book demand reply shown book')
    (hids : ∀ id hook, book id = some hook → hook.id = id) :
    ∀ hook ∈ shown, book' hook.id = some hook := by
  intro hook hmem
  cases h with
  | listed hall => exact (hall hook).1 hmem
  | found hfind =>
    cases List.mem_singleton.1 hmem
    rw [hids _ _ hfind, hfind]
  | added =>
    cases List.mem_singleton.1 hmem
    exact Function.update_self _ _ _
  | replaced =>
    cases List.mem_singleton.1 hmem
    exact Function.update_self _ _ _
  | _ => cases hmem

theorem Answered.reply_of_get {hook : Hook} (h : Answered m book (.get id) reply shown book')
    (hbook : book id = some hook) : reply = Reply.granted .ok hook.toJson := by
  cases h with
  | found hfind =>
    rw [hbook] at hfind
    cases hfind
    rfl
  | notFound hfind =>
    rw [hbook] at hfind
    cases hfind

-- ---------------------------------------------------------------------------
-- Actions
-- ---------------------------------------------------------------------------

/-- What an action does is an answer to the demand. -/
def Meets (action : Action Reply) (m : Moment) (site : Site) (demand : Demand) : Prop :=
  ∃ shown, Answered m site.book demand (replyOf (action m site).result) shown
    (action m site).site.book

theorem book_of_insert {α : Type} {c : Registry.Change α} {hook : Hook} (h : c.registry =
    { site.registry with hooks := site.registry.hooks.insert hook }) :
    (site.changed c).book = Function.update site.book hook.id (some hook) := by
  funext id
  show c.registry.hooks.find? id = _
  rw [h, Collection.find?_insert, Function.update_apply]
  simp only [eq_comm, Site.book]

theorem book_of_erase {α : Type} {c : Registry.Change α} {id : String} (h : c.registry =
    { site.registry with hooks := site.registry.hooks.erase id }) :
    (site.changed c).book = Function.update site.book id none := by
  funext other
  show c.registry.hooks.find? other = _
  rw [h, Collection.find?_erase, Function.update_apply, Site.book]

theorem listHooks_meets (m : Moment) (site : Site) : Meets listHooks m site .list := by
  rw [Meets, listHooks_site, listHooks_result]
  refine ⟨_, .listed (fun hook => ⟨Collection.find?_of_mem, Collection.mem_of_find?⟩) ?_⟩
  exact site.registry.hooks.ascending

theorem showHook_meets (m : Moment) (site : Site) (id : String) :
    Meets (showHook id) m site (.get id) := by
  rw [Meets, showHook_site, showHook_result, Registry.find]
  cases hfind : site.registry.hooks.find? id with
  | some hook => exact ⟨_, .found hfind⟩
  | none => exact ⟨_, .notFound hfind⟩

theorem addHook_meets (hstore : Registry.CanStore m.faults site.files site.registry)
    (hsent : g.hookSent r = .ok sent) : Meets (g.addHook r) m site (.add sent) := by
  have hfault : (freshened m sent).fault? = sent.fault? := rfl
  rw [Meets, addHook_site hsent, addHook_result hsent, Service.createHook_site,
    Service.createHook_result, hfault]
  -- what was sent is checked first, then the identifier, and then the hook is stored
  cases hsentFault : sent.fault? with
  | some fault => exact ⟨_, .addedFaulty hsentFault⟩
  | none =>
    cases hfind : site.registry.hooks.find? sent.id with
    | some kept =>
      have hrefused : site.registry.create m site.files (freshened m sent) =
          Registry.refuse site.files site.registry (.alreadyExists sent.id) :=
        Registry.create_of_some hfind
      dsimp only
      rw [hrefused]
      exact ⟨_, .addedTwice hsentFault hfind⟩
    | none =>
      have hnew : site.registry.hooks.find? (freshened m sent).id = none := hfind
      obtain ⟨hresult, hregistry⟩ := Registry.create_of_canStore hstore hnew
      dsimp only
      rw [hresult, book_of_insert hregistry]
      exact ⟨_, .added hsentFault hfind (freshened_token_ne m sent)⟩

theorem removeHook_meets (hstore : Registry.CanStore m.faults site.files site.registry)
    (id : String) : Meets (removeHook id) m site (.remove id) := by
  rw [Meets, removeHook_site, removeHook_result]
  cases hfind : site.registry.hooks.find? id with
  | none =>
    rw [Registry.delete_of_none hfind]
    exact ⟨_, .removedUnknown hfind⟩
  | some kept =>
    obtain ⟨hresult, hregistry⟩ := Registry.delete_of_canStore hstore hfind
    rw [hresult, book_of_erase hregistry]
    exact ⟨_, .removed hfind⟩

theorem nextChange?_eq_none {now previous : Timestamp}
    (h : Registry.nextChange? now previous = none) : ¬ previous < now ∧ previous.next? = none := by
  rw [Registry.nextChange?] at h
  split at h
  · cases h
  · rename_i hclock
    exact ⟨hclock, h⟩

/-- The hook that replaces a record, once its token is settled. -/
theorem updateHook_meets {kept : Hook}
    (hstore : Registry.CanStore m.faults site.files site.registry)
    (hfind : site.registry.hooks.find? id = some kept) :
    let hook := { sent with
      id := id, token := if sent.token.isEmpty then kept.token else sent.token }
    ∃ shown, Answered m site.book (.replace id sent)
      (replyOf ((Service.updateHook hook m site).result.map
        fun updated => Reply.granted .ok updated.toJson)) shown
      (Service.updateHook hook m site).site.book := by
  intro hook
  have hfault : hook.fault? = { sent with id := id }.fault? := rfl
  -- what was sent is checked first, and then a time above the last one is looked for
  rw [Service.updateHook_site, Service.updateHook_result, hfault]
  cases hsentFault : { sent with id := id }.fault? with
  | some fault =>
    have hthere : site.book id ≠ none := by
      rw [Site.book, hfind]
      exact Option.some_ne_none kept
    exact ⟨_, .replacedFaulty hsentFault (.inr hthere)⟩
  | none =>
    have hhook : site.registry.hooks.find? hook.id = some kept := hfind
    cases htime : Registry.nextChange? m.now kept.updatedAt with
    | none =>
      obtain ⟨hclock, hlast⟩ := nextChange?_eq_none htime
      dsimp only
      rw [Registry.update_of_endOfTime hhook htime]
      exact ⟨_, .replacedTooLate hfind hsentFault hclock hlast⟩
    | some time =>
      obtain ⟨hresult, hregistry⟩ := Registry.update_of_canStore hstore hhook htime
      dsimp only
      rw [hresult, book_of_insert hregistry]
      exact ⟨_, .replaced hfind hsentFault htime⟩

theorem replaceHook_meets (hstore : Registry.CanStore m.faults site.files site.registry)
    (hsent : g.hookSent r = .ok sent) (id : String) :
    Meets (g.replaceHook r id) m site (.replace id sent) := by
  rw [Meets, replaceHook_site hsent, replaceHook_result hsent]
  cases hfind : site.registry.hooks.find? id with
  | some kept =>
    have htoken : tokenKept site.registry { sent with id := id } = .ok { sent with
        id := id, token := if sent.token.isEmpty then kept.token else sent.token } := by
      simp only [tokenKept, Registry.find, hfind]
      split <;> rfl
    rw [htoken]
    exact updateHook_meets hstore hfind
  | none =>
    by_cases hempty : sent.token.isEmpty = true
    · -- the token is looked for before the hook is checked
      have htoken : tokenKept site.registry { sent with id := id } = .error (.notFound id) := by
        simp only [tokenKept, Registry.find, hfind, hempty, if_true]
        rfl
      rw [htoken]
      exact ⟨_, .replacedUnknown hfind (.inl (String.isEmpty_iff.1 hempty))⟩
    · have htoken : tokenKept site.registry { sent with id := id } =
          .ok { sent with id := id } := by
        rw [tokenKept]
        exact if_neg hempty
      have hne : sent.token ≠ "" := fun h => hempty (String.isEmpty_iff.2 h)
      rw [htoken]
      dsimp only
      rw [Service.updateHook_site, Service.updateHook_result]
      cases hfault : { sent with id := id }.fault? with
      | some fault => exact ⟨_, .replacedFaulty hfault (.inl hne)⟩
      | none =>
        have hhook : site.registry.hooks.find? { sent with id := id }.id = none := hfind
        dsimp only
        rw [Registry.update_of_none hhook]
        exact ⟨_, .replacedUnknown hfind (.inr hfault)⟩

end Gateway

end Flagpost
