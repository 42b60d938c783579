import Flagpost.Proofs.Web.AdminGate
import Flagpost.Proofs.Web.Book

/-!
# Flagpost — managing hooks is keeping a map

A request for the resources that manage hooks makes a demand on the map of hooks
(`Gateway.Asks`). If it shows the administrator's token and the store can be
written, it is answered by the rules for the map, and by nothing else: its
headers, its path and its body have no other part in it, and neither have the
requests before it but through the map.

* `Gateway.answer_settled`         — one request by the administrator is one rule.
* `Gateway.run_follows`            — a run of requests is a run of rules.
* `Gateway.management_refines_map` — the same with what follows from the rules.
-/

namespace Flagpost

namespace Gateway

variable {s : GatewaySettings} {now : Timestamp} {g : Gateway} {r : Request} {m : Moment}
  {site : Site} {demand : Demand} {id : String}

-- ---------------------------------------------------------------------------
-- Requests
-- ---------------------------------------------------------------------------

/-- The path of a request fits the pattern of one hook, and what takes the place
of the identifier is this one in percent encoding. -/
def FitsHook (s : GatewaySettings) (r : Request) (id : String) : Prop :=
  ∃ pattern filling, Routes.pattern? (BasePath.normalize s.basePath) .hook = some pattern ∧
    Pattern.match? pattern (r.target.path.toList.splitOn '/') = some filling ∧
    filling.identifier = .ok id

/-- What a request for all hooks or for one demands. A body that is looked at is
no longer than it may be. -/
inductive Asks (s : GatewaySettings) (r : Request) : Demand → Prop
  | list (hfits : Fits s .hooks r) (hmethod : r.method = .get ∨ r.method = .head) : Asks s r .list
  | add {sent : Hook} (hfits : Fits s .hooks r) (hmethod : r.method = .post)
      (hshort : r.body.length ≤ s.maxBodyBytes) (hsent : Hook.ofRequest r.body = .ok sent) :
      Asks s r (.add sent)
  | addUnreadable {error : JsonError} (hfits : Fits s .hooks r) (hmethod : r.method = .post)
      (hshort : r.body.length ≤ s.maxBodyBytes) (hsent : Hook.ofRequest r.body = .error error) :
      Asks s r (.unreadable error)
  | get {id : String} (hfits : FitsHook s r id) (hmethod : r.method = .get ∨ r.method = .head) :
      Asks s r (.get id)
  | replace {id : String} {sent : Hook} (hfits : FitsHook s r id) (hmethod : r.method = .put)
      (hshort : r.body.length ≤ s.maxBodyBytes) (hsent : Hook.ofRequest r.body = .ok sent) :
      Asks s r (.replace id sent)
  | replaceUnreadable {id : String} {error : JsonError} (hfits : FitsHook s r id)
      (hmethod : r.method = .put) (hshort : r.body.length ≤ s.maxBodyBytes)
      (hsent : Hook.ofRequest r.body = .error error) : Asks s r (.unreadable error)
  | remove {id : String} (hfits : FitsHook s r id) (hmethod : r.method = .delete) :
      Asks s r (.remove id)
  | unsupported {resource : Resource} (hfits : Fits s resource r)
      (hguarded : isGuarded resource = true) (hmethod : r.method ∉ methods resource) :
      Asks s r (.unsupported resource)

/-- Below a base path without holes, all hooks are at one path. -/
theorem fits_of_plain (hplain : Routes.IsPlain s.basePath)
    (hpath : r.target.path = BasePath.normalize s.basePath ++ "/api/hooks") : Fits s .hooks r := by
  have hchars : r.target.path.toList =
      (BasePath.normalize s.basePath).toList ++ '/' :: "api/hooks".toList := by
    rw [hpath, String.toList_append]
    rfl
  have hrest : Pattern.match? Resource.hooks.ending ("api/hooks".toList.splitOn '/') = some [] := by
    decide
  obtain ⟨pattern, hpattern, hmatch⟩ := Routes.match?_below hplain hchars hrest
  exact ⟨pattern, [], hpattern, hmatch⟩

/-- And one hook is one segment further, which is its identifier in percent
encoding. -/
theorem fitsHook_of_plain (hplain : Routes.IsPlain s.basePath) (segment : List Char)
    (hne : segment ≠ []) (hslash : '/' ∉ segment)
    (hpath : r.target.path =
      BasePath.normalize s.basePath ++ "/api/hooks/" ++ String.ofList segment)
    (hid : Utf8.decode? (Percent.decode (Utf8.encode (String.ofList segment))) = some id) :
    FitsHook s r id := by
  have hchars : r.target.path.toList = (BasePath.normalize s.basePath).toList ++
      '/' :: ("api".toList ++ '/' :: ("hooks".toList ++ '/' :: segment)) := by
    rw [hpath]
    simp [String.toList_append]
  -- behind the base path are the two segments before the identifier, and the identifier
  have hrest : Pattern.match? Resource.hook.ending
      (("api".toList ++ '/' :: ("hooks".toList ++ '/' :: segment)).splitOn '/') =
        some [("id".toList, segment)] := by
    have hapi : '/' ∉ "api".toList := by decide
    have hhooks : '/' ∉ "hooks".toList := by decide
    rw [List.splitOn_append_cons_self_of_not_mem hapi,
      List.splitOn_append_cons_self_of_not_mem hhooks, List.splitOn_eq_singleton hslash]
    simp [Resource.ending, Pattern.match?, Segment.plain, hne]
  obtain ⟨pattern, hpattern, hmatch⟩ := Routes.match?_below hplain hchars hrest
  exact ⟨pattern, _, hpattern, hmatch, Filling.identifier_of_decode? hid⟩

/-- The header carries the token that has been configured for the administrator. -/
def Authorised (s : GatewaySettings) (header : Header) : Prop :=
  ∃ token, Credential.bearer? header = some token ∧ s.adminToken ≠ "" ∧
    Sha256.ofText token = Sha256.ofText s.adminToken

theorem admission_of_authorised (hopen : open? s now = some g) {header : Header}
    (h : Authorised s header) : g.admission header = .admitted := by
  obtain ⟨routes, _, rfl⟩ := Option.map_eq_some_iff.1 hopen
  obtain ⟨token, hbearer, hne, hdigest⟩ := h
  have hsame : Token.sameDigest token s.adminToken = true := (Token.sameDigest_iff _ _).2 hdigest
  have hempty : s.adminToken.isEmpty = false := by simpa using hne
  simp [admission, hbearer, hsame, hempty]

-- ---------------------------------------------------------------------------
-- One request
-- ---------------------------------------------------------------------------

/-- What the administrator asks of a resource is what the resource does. -/
theorem answer_admitted {resource : Resource} {filling : Filling} (hopen : open? s now = some g)
    (hauth : Authorised s r.header)
    (hfind : g.routes.find? r.target.path = some (resource, filling))
    (hguarded : isGuarded resource = true) (m : Moment) (site : Site) :
    (g.answer m site r).site = (g.atResource resource filling r m site).site ∧
      (g.answer m site r).reply =
        { replyOf ((g.atResource resource filling r m site).result.map
            (withMethods resource r)) with
          headOnly := r.method == .head } := by
  have hinside : g.respond r =
      g.atResource resource filling r >>= fun reply => pure (withMethods resource r reply) := by
    rw [respond_of_find hfind, if_pos hguarded, throughGate, admission_of_authorised hopen hauth]
  rw [answer, hinside, Action.bind_pure_site, Action.bind_pure_result]
  exact ⟨rfl, rfl⟩

theorem map_withMethods {resource : Resource} (h : r.method ∈ methods resource)
    (result : Except HookError Reply) : result.map (withMethods resource r) = result := by
  have hsame : ∀ reply, withMethods resource r reply = reply := fun reply =>
    if_pos (List.contains_iff_mem.2 h)
  cases result with
  | error e => rfl
  | ok reply => exact congrArg Except.ok (hsame reply)

/-- A body that is not too long is the hook that is read from it. -/
theorem hookSent_of_ok {sent : Hook} (hopen : open? s now = some g)
    (hshort : r.body.length ≤ s.maxBodyBytes) (hsent : Hook.ofRequest r.body = .ok sent) :
    g.hookSent r = .ok sent := by
  obtain ⟨routes, _, rfl⟩ := Option.map_eq_some_iff.1 hopen
  rw [hookSent, if_neg (Nat.not_lt.2 hshort), hsent]

theorem hookSent_of_error {error : JsonError} (hopen : open? s now = some g)
    (hshort : r.body.length ≤ s.maxBodyBytes) (hsent : Hook.ofRequest r.body = .error error) :
    g.hookSent r = .error (Reply.refused .badRequest "bad_request"
      ("invalid request body: " ++ error.message)) := by
  obtain ⟨routes, _, rfl⟩ := Option.map_eq_some_iff.1 hopen
  rw [hookSent, if_neg (Nat.not_lt.2 hshort), hsent]

theorem find?_of_fits {resource : Resource} (hopen : open? s now = some g)
    (h : Fits s resource r) :
    ∃ filling, g.routes.find? r.target.path = some (resource, filling) := by
  obtain ⟨pattern, filling, hpattern, hmatch⟩ := h
  obtain ⟨routes, hroutes, rfl⟩ := Option.map_eq_some_iff.1 hopen
  exact ⟨filling, Routes.find?_of_match? hroutes hpattern hmatch⟩

theorem find?_of_fitsHook (hopen : open? s now = some g) (h : FitsHook s r id) :
    ∃ filling, g.routes.find? r.target.path = some (.hook, filling) ∧
      filling.identifier = .ok id := by
  obtain ⟨pattern, filling, hpattern, hmatch, hid⟩ := h
  obtain ⟨routes, hroutes, rfl⟩ := Option.map_eq_some_iff.1 hopen
  exact ⟨filling, Routes.find?_of_match? hroutes hpattern hmatch, hid⟩

/-- What an exchange leaves and answers is an answer to the demand, in which
these records are shown. -/
def Settled (m : Moment) (site : Site) (r : Request) (demand : Demand) (x : Exchange) : Prop :=
  ∃ reply shown, Answered m site.book demand reply shown x.site.book ∧
    x.reply = { reply with headOnly := r.method == .head }

theorem settled_of_meets {resource : Resource} {filling : Filling}
    (hopen : open? s now = some g) (hauth : Authorised s r.header)
    (hfind : g.routes.find? r.target.path = some (resource, filling))
    (hguarded : isGuarded resource = true) (hmethod : r.method ∈ methods resource)
    (h : Meets (g.atResource resource filling r) m site demand) :
    Settled m site r demand (g.answer m site r) := by
  obtain ⟨shown, hanswered⟩ := h
  obtain ⟨hsite, hreply⟩ := answer_admitted hopen hauth hfind hguarded m site
  rw [map_withMethods hmethod] at hreply
  exact ⟨_, shown, hsite ▸ hanswered, hreply⟩

theorem settled_of_hooks {action : Action Reply} (hopen : open? s now = some g)
    (hauth : Authorised s r.header) (hfits : Fits s .hooks r) (hmethod : r.method ∈ methods .hooks)
    (haction : ∀ filling, g.atResource .hooks filling r = action) (h : Meets action m site demand) :
    Settled m site r demand (g.answer m site r) := by
  obtain ⟨filling, hfind⟩ := find?_of_fits hopen hfits
  exact settled_of_meets hopen hauth hfind rfl hmethod (haction filling ▸ h)

theorem settled_of_hook {go : String → Action Reply}
    (hopen : open? s now = some g) (hauth : Authorised s r.header) (hfits : FitsHook s r id)
    (hmethod : r.method ∈ methods .hook)
    (haction : ∀ filling, g.atResource .hook filling r = withIdentifier filling go)
    (h : Meets (go id) m site demand) : Settled m site r demand (g.answer m site r) := by
  obtain ⟨filling, hfind, hid⟩ := find?_of_fitsHook hopen hfits
  have hinside : g.atResource .hook filling r = go id := by
    rw [haction filling, withIdentifier, hid]
  exact settled_of_meets hopen hauth hfind rfl hmethod (hinside ▸ h)

/-- A body in which there is no hook is refused before anything else is done. -/
theorem pure_meets (m : Moment) (site : Site) (error : JsonError) :
    Meets (pure (Reply.refused .badRequest "bad_request"
      ("invalid request body: " ++ error.message))) m site (.unreadable error) :=
  ⟨[], .unreadable error⟩

theorem settled_unsupported {resource : Resource} (hopen : open? s now = some g)
    (hauth : Authorised s r.header) (hfits : Fits s resource r)
    (hguarded : isGuarded resource = true) (hmethod : r.method ∉ methods resource) (m : Moment)
    (site : Site) : Settled m site r (.unsupported resource) (g.answer m site r) := by
  obtain ⟨filling, hfind⟩ := find?_of_fits hopen hfits
  obtain ⟨hsite, hreply⟩ := answer_admitted hopen hauth hfind hguarded m site
  -- no handler has the method
  have hinside : g.atResource resource filling r = pure { status := .methodNotAllowed } := by
    unfold atResource
    split <;> simp_all [methods, isGuarded]
  have hallow : withMethods resource r { status := .methodNotAllowed } =
      { status := .methodNotAllowed, allow := methods resource } :=
    if_neg fun h => hmethod (List.contains_iff_mem.1 h)
  rw [hinside] at hsite hreply
  refine ⟨{ status := .methodNotAllowed, allow := methods resource }, [], ?_, ?_⟩
  · rw [hsite]
    exact .unsupported resource
  · rw [hreply, ← hallow]
    rfl

theorem atResource_list (h : r.method = .get ∨ r.method = .head) (filling : Filling) :
    g.atResource .hooks filling r = listHooks := by
  unfold atResource
  rcases h with h | h
  · rw [h]
  · rw [h]

theorem atResource_add (h : r.method = .post) (filling : Filling) :
    g.atResource .hooks filling r = g.addHook r := by
  unfold atResource
  rw [h]

theorem atResource_show (h : r.method = .get ∨ r.method = .head) (filling : Filling) :
    g.atResource .hook filling r = withIdentifier filling showHook := by
  unfold atResource
  rcases h with h | h
  · rw [h]
  · rw [h]

theorem atResource_replace (h : r.method = .put) (filling : Filling) :
    g.atResource .hook filling r = withIdentifier filling (g.replaceHook r) := by
  unfold atResource
  rw [h]

theorem atResource_remove (h : r.method = .delete) (filling : Filling) :
    g.atResource .hook filling r = withIdentifier filling removeHook := by
  unfold atResource
  rw [h]

theorem mem_methods_of_reads {resource : Resource} (hguarded : isGuarded resource = true)
    (h : r.method = .get ∨ r.method = .head) : r.method ∈ methods resource := by
  cases resource with
  | hooks | hook => rcases h with h | h <;> simp [h, methods]
  | health | trigger => cases hguarded

/-- A request for one hook by the administrator shows it. The store has no part
in it. -/
theorem answer_get (hopen : open? s now = some g) (hauth : Authorised s r.header)
    (hfits : FitsHook s r id) (hmethod : r.method = .get ∨ r.method = .head) (m : Moment)
    (site : Site) : Settled m site r (.get id) (g.answer m site r) :=
  settled_of_hook hopen hauth hfits (mem_methods_of_reads rfl hmethod) (atResource_show hmethod)
    (showHook_meets m site id)

/-- One request by the administrator is answered by one of the rules. -/
theorem answer_settled (hopen : open? s now = some g)
    (hauth : Authorised s r.header) (hasks : Asks s r demand)
    (hstore : Registry.CanStore m.faults site.files site.registry) :
    Settled m site r demand (g.answer m site r) := by
  cases hasks with
  | list hfits hmethod =>
    exact settled_of_hooks hopen hauth hfits (mem_methods_of_reads rfl hmethod)
      (atResource_list hmethod) (listHooks_meets m site)
  | add hfits hmethod hshort hsent =>
    exact settled_of_hooks hopen hauth hfits (by simp [hmethod, methods]) (atResource_add hmethod)
      (addHook_meets hstore (hookSent_of_ok hopen hshort hsent))
  | addUnreadable hfits hmethod hshort hsent =>
    -- a body that is not a hook is answered before the site is looked at
    refine settled_of_hooks hopen hauth hfits (by simp [hmethod, methods])
      (atResource_add hmethod) ?_
    rw [addHook, hookSent_of_error hopen hshort hsent]
    exact pure_meets m site _
  | get hfits hmethod => exact answer_get hopen hauth hfits hmethod m site
  | replace hfits hmethod hshort hsent =>
    exact settled_of_hook hopen hauth hfits (by simp [hmethod, methods])
      (atResource_replace hmethod)
      (replaceHook_meets hstore (hookSent_of_ok hopen hshort hsent) _)
  | replaceUnreadable hfits hmethod hshort hsent =>
    refine settled_of_hook hopen hauth hfits (by simp [hmethod, methods])
      (atResource_replace hmethod) ?_
    rw [replaceHook, hookSent_of_error hopen hshort hsent]
    exact pure_meets m site _
  | remove hfits hmethod =>
    exact settled_of_hook hopen hauth hfits (by simp [hmethod, methods]) (atResource_remove hmethod)
      (removeHook_meets hstore _)
  | unsupported hfits hguarded hmethod =>
    exact settled_unsupported hopen hauth hfits hguarded hmethod m site

-- ---------------------------------------------------------------------------
-- Runs
-- ---------------------------------------------------------------------------

/-- One request of a run: when it came, what it was, the site it found and what
became of it. -/
structure Handled where
  moment : Moment
  request : Request
  before : Site
  exchange : Exchange

/-- A run of requests, each answered where the one before has left the site. -/
def run (g : Gateway) (site : Site) : List (Moment × Request) → List Handled
  | [] => []
  | (m, r) :: rest =>
    let exchange := g.answer m site r
    ⟨m, r, site, exchange⟩ :: run g exchange.site rest

/-- The request is for hooks and shows the administrator's token, and the store
could be written. -/
structure Handled.Proper (s : GatewaySettings) (h : Handled) : Prop where
  asks : ∃ demand, Asks s h.request demand
  authorised : Authorised s h.request.header
  stored : Registry.CanStore h.moment.faults h.before.files h.before.registry

/-- The requests are answered by the rules, one after the other, from this map
on. -/
inductive Follows (s : GatewaySettings) : Book → List Handled → Prop
  | done (book : Book) : Follows s book []
  | next {book book' : Book} {demand : Demand} {reply : Reply} {shown : List Hook} {h : Handled}
      {rest : List Handled} (hasks : Asks s h.request demand)
      (hanswered : Answered h.moment book demand reply shown book')
      (hreply : h.exchange.reply = { reply with headOnly := h.request.method == .head })
      (hrest : Follows s book' rest) : Follows s book (h :: rest)

theorem exchange_of_mem_run {h : Handled} {requests : List (Moment × Request)}
    (hmem : h ∈ g.run site requests) : h.exchange = g.answer h.moment h.before h.request := by
  induction requests generalizing site with
  | nil => cases hmem
  | cons first rest ih =>
    rcases List.mem_cons.1 hmem with rfl | hrest
    · rfl
    · exact ih hrest

theorem run_follows (hopen : open? s now = some g) (site : Site)
    (requests : List (Moment × Request)) (hproper : ∀ h ∈ g.run site requests, h.Proper s) :
    Follows s site.book (g.run site requests) := by
  induction requests generalizing site with
  | nil => exact .done site.book
  | cons first rest ih =>
    obtain ⟨m, r⟩ := first
    obtain ⟨hfirst, hrest⟩ := List.forall_mem_cons.1 hproper
    obtain ⟨demand, hasks⟩ := hfirst.asks
    obtain ⟨reply, shown, hanswered, hreply⟩ :=
      answer_settled hopen hfirst.authorised hasks hfirst.stored
    exact .next hasks hanswered hreply (ih _ hrest)

/-- A record in the map is what a request for it is answered with. -/
theorem reply_of_book {hook : Hook} (hopen : open? s now = some g)
    (hauth : Authorised s r.header) (hasks : Asks s r (.get id)) (hbook : site.book id = some hook)
    (m : Moment) : (g.answer m site r).reply =
      { Reply.granted .ok hook.toJson with headOnly := r.method == .head } := by
  cases hasks with
  | get hfits hmethod =>
    obtain ⟨reply, shown, hanswered, hreply⟩ := answer_get hopen hauth hfits hmethod m site
    rw [hreply, hanswered.reply_of_get hbook]

/-- **Managing hooks is keeping a map.** Whatever hooks there are, a run of
requests by the administrator is a run of the rules for a map. Each request of
it makes a demand and is answered by a rule, from the map before it to the map
after it;

* if it is not granted, the map is what it was;
* each record that is shown is what a request for its identifier is answered
  with afterwards. -/
theorem management_refines_map (hopen : open? s now = some g) (site : Site)
    (requests : List (Moment × Request)) (hproper : ∀ h ∈ g.run site requests, h.Proper s) :
    Follows s site.book (g.run site requests) ∧
    ∀ h ∈ g.run site requests, ∃ demand reply shown, Asks s h.request demand ∧
      Answered h.moment h.before.book demand reply shown h.exchange.site.book ∧
      h.exchange.reply = { reply with headOnly := h.request.method == .head } ∧
      (300 ≤ h.exchange.reply.status.number → h.exchange.site.book = h.before.book) ∧
      ∀ hook ∈ shown, ∀ (m : Moment) (r : Request), Authorised s r.header →
        Asks s r (.get hook.id) → (g.answer m h.exchange.site r).reply =
          { Reply.granted .ok hook.toJson with headOnly := r.method == .head } := by
  refine ⟨run_follows hopen site requests hproper, fun h hmem => ?_⟩
  have hexchange := exchange_of_mem_run hmem
  obtain ⟨demand, hasks⟩ := (hproper h hmem).asks
  -- one request is answered by one of the rules, and the run is one request after the other
  obtain ⟨reply, shown, hanswered, hreply⟩ :=
    answer_settled hopen (hproper h hmem).authorised hasks (hproper h hmem).stored
  rw [← hexchange] at hanswered hreply
  refine ⟨demand, reply, shown, hasks, hanswered, hreply, fun hstatus => ?_, ?_⟩
  · rw [hreply] at hstatus
    exact (hanswered.refused hstatus).1
  · intro hook hshown m r hauth hget
    have hids : ∀ id hook, h.before.book id = some hook → hook.id = id :=
      fun _ _ => Collection.find?_id
    exact reply_of_book hopen hauth hget (hanswered.shown_mem hids hook hshown) m

/-- A hook is added without a token, replaced, and listed. -/
theorem management_refines_map_kept :
    let s : GatewaySettings := ⟨"forge/", "adm", 1024⟩
    let g : Gateway := ⟨(Routes.ofBase? "forge/").getD [], "adm", 1024, Timestamp.epoch⟩
    let header : Header := [⟨"authorization", Utf8.encode "Bearer adm"⟩]
    let body := Utf8.encode "\x7b\"id\":\"ci\",\"name\":\"CI\",\"flag_file\":\"ci.flag\"\x7d"
    let m : Moment := ⟨Timestamp.epoch, 0, none, {}⟩
    let site : Site := ⟨FileSystem.empty, .inMemory, "flags"⟩
    let requests : List (Moment × Request) := [
      (m, ⟨.post, ⟨"/forge/api/hooks", none⟩, header, body, none⟩),
      (m, ⟨.put, ⟨"/forge/api/hooks/ci", none⟩, header, body, none⟩),
      (m, ⟨.get, ⟨"/forge/api/hooks", none⟩, header, [], none⟩)]
    open? s Timestamp.epoch = some g ∧ Follows s site.book (g.run site requests) ∧
      (g.run site requests).map (·.exchange.reply.status) = [.created, .ok, .ok] := by
  intro s g header body m site requests
  have hplain : Routes.IsPlain s.basePath := ⟨by decide, by decide⟩
  have hopen : open? s Timestamp.epoch = some g := open?_of_plain hplain Timestamp.epoch
  have hauth : Authorised s header := ⟨"adm", by decide, by decide, rfl⟩
  have hread : (Hook.ofRequest body).isOk = true := by decide +kernel
  obtain ⟨sent, hsent⟩ : ∃ sent, Hook.ofRequest body = .ok sent := by
    cases hbody : Hook.ofRequest body with
    | ok sent => exact ⟨sent, rfl⟩
    | error e =>
      rw [hbody] at hread
      cases hread
  have hstore : ∀ {before : Site}, before.registry.storage = none →
      Registry.CanStore m.faults before.files before.registry := Registry.canStore_of_inMemory
  have hfits : ∀ r : Request, r.target.path = "/forge/api/hooks" → Fits s .hooks r :=
    fun _ hpath => fits_of_plain hplain (hpath.trans (by decide))
  have hfitsHook : ∀ r : Request, r.target.path = "/forge/api/hooks/ci" → FitsHook s r "ci" :=
    fun _ hpath => fitsHook_of_plain hplain "ci".toList (by decide) (by decide)
      (hpath.trans (by decide)) rfl
  -- each request is the administrator's, fits its resource, and finds no store to fail
  have hproper : ∀ h ∈ g.run site requests, h.Proper s := by
    simp only [requests, run, List.forall_mem_cons]
    refine ⟨⟨⟨_, .add (hfits _ rfl) rfl (by decide) hsent⟩, hauth, hstore ?_⟩,
      ⟨⟨_, .replace (hfitsHook _ rfl) rfl (by decide) hsent⟩, hauth, hstore ?_⟩,
      ⟨⟨_, .list (hfits _ rfl) (.inl rfl)⟩, hauth, hstore ?_⟩, fun _ h => by cases h⟩
    · rfl
    · decide +kernel
    · decide +kernel
  exact ⟨hopen, (management_refines_map hopen site requests hproper).1, by decide +kernel⟩

/-- A hook that was added at the last nanosecond there is cannot be replaced: the
replacement is in order and the hook is there, but no time is left for it. -/
theorem replace_at_end_of_time :
    let s : GatewaySettings := ⟨"forge/", "adm", 1024⟩
    let g : Gateway := ⟨(Routes.ofBase? "forge/").getD [], "adm", 1024, Timestamp.epoch⟩
    let header : Header := [⟨"authorization", Utf8.encode "Bearer adm"⟩]
    let body := Utf8.encode "\x7b\"id\":\"ci\",\"name\":\"CI\",\"flag_file\":\"ci.flag\"\x7d"
    let last : Timestamp :=
      ⟨⟨262142, 12, 31, by decide⟩, 86399, 999999999, by decide, by decide, by decide⟩
    let m : Moment := ⟨last, 0, none, {}⟩
    let add : Request := ⟨.post, ⟨"/forge/api/hooks", none⟩, header, body, none⟩
    let replace : Request := ⟨.put, ⟨"/forge/api/hooks/ci", none⟩, header, body, none⟩
    let site : Site := ⟨FileSystem.empty, .inMemory, "flags"⟩
    let x := g.answer m site add
    open? s Timestamp.epoch = some g ∧ Authorised s header ∧
      Registry.CanStore m.faults x.site.files x.site.registry ∧ x.reply.status = .created ∧
      (x.site.book "ci").isSome = true ∧
      (∃ sent, Asks s replace (.replace "ci" sent) ∧ { sent with id := "ci" }.fault? = none) ∧
      (g.answer m x.site replace).reply.status = .internalError := by
  intro s g header body last m add replace site x
  have hplain : Routes.IsPlain s.basePath := ⟨by decide, by decide⟩
  have hread : (Hook.ofRequest body).toOption.map (fun sent => { sent with id := "ci" }.fault?) =
      some none := by decide +kernel
  obtain ⟨sent, hsent, hvalid⟩ : ∃ sent, Hook.ofRequest body = .ok sent ∧
      { sent with id := "ci" }.fault? = none := by
    cases hbody : Hook.ofRequest body with
    | ok sent =>
      rw [hbody] at hread
      exact ⟨sent, rfl, Option.some.inj hread⟩
    | error e =>
      rw [hbody] at hread
      cases hread
  have hfits : FitsHook s replace "ci" :=
    fitsHook_of_plain hplain "ci".toList (by decide) (by decide) (by decide) rfl
  refine ⟨open?_of_plain hplain Timestamp.epoch, ⟨"adm", by decide, by decide, rfl⟩,
    Registry.canStore_of_inMemory ?_, ?_, ?_,
    ⟨sent, .replace hfits rfl (by decide) hsent, hvalid⟩, ?_⟩
  · decide +kernel
  · decide +kernel
  · decide +kernel
  · decide +kernel

end Gateway

end Flagpost
