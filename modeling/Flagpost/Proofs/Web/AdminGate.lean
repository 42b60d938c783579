import Flagpost.Proofs.Access.Credential
import Flagpost.Proofs.Hook.Trigger
import Flagpost.Proofs.Web.Routing
import Flagpost.Web.Gateway

/-!
# Flagpost — what the admin gate lets out

A request for a resource behind the admin gate that does not show the
administrator's token is answered from its header alone
(`Gateway.answer_refused`). Neither the site nor anything else in the request
has a part in the answer, so two such requests are told the same
(`Gateway.gate_noninterference`): a refused caller learns nothing.
-/

namespace Flagpost

namespace Gateway

variable {s : GatewaySettings} {now : Timestamp} {g : Gateway} {resource : Resource} {r : Request}

theorem exists_open? (h : (Routes.ofBase? s.basePath).isSome = true) (now : Timestamp) :
    ∃ g, open? s now = some g := by
  obtain ⟨routes, hroutes⟩ := Option.isSome_iff_exists.1 h
  exact ⟨_, by rw [open?, hroutes, Option.map_some]⟩

theorem open?_of_plain (hplain : Routes.IsPlain s.basePath) (now : Timestamp) :
    open? s now =
      some ⟨(Routes.ofBase? s.basePath).getD [], s.adminToken, s.maxBodyBytes, now⟩ := by
  obtain ⟨routes, hroutes⟩ := Routes.ofBase?_plain hplain
  rw [open?, hroutes]
  rfl

/-- The path of a request fits the pattern of a resource below the base path. -/
def Fits (s : GatewaySettings) (resource : Resource) (r : Request) : Prop :=
  ∃ pattern filling, Routes.pattern? (BasePath.normalize s.basePath) resource = some pattern ∧
    Pattern.match? pattern (r.target.path.toList.splitOn '/') = some filling

/-- The header carries no token, or none with the digest of a token that has
been configured for the administrator. -/
def Unauthorised (s : GatewaySettings) (header : Header) : Prop :=
  ∀ token, Credential.bearer? header = some token →
    s.adminToken = "" ∨ Sha256.ofText token ≠ Sha256.ofText s.adminToken

/-- The reply of the gate to a header without the administrator's token. -/
def refusal (header : Header) : Reply :=
  match Credential.bearer? header with
  | none => Reply.refused .unauthorized "unauthorized" "admin authentication required"
  | some _ => Reply.refused .forbidden "forbidden" "invalid admin token"

theorem admission_of_unauthorised (hopen : open? s now = some g) {header : Header}
    (h : Unauthorised s header) : g.admission header =
      match Credential.bearer? header with
      | none => .missing
      | some _ => .wrong := by
  obtain ⟨routes, _, rfl⟩ := Option.map_eq_some_iff.1 hopen
  rw [admission]
  cases hbearer : Credential.bearer? header with
  | none => rfl
  | some token =>
    refine if_pos ?_
    show (s.adminToken.isEmpty || !Token.sameDigest token s.adminToken) = true
    -- no token is configured, or the digests differ
    rcases h token hbearer with hempty | hdigest
    · rw [hempty]
      rfl
    · have hsame : Token.sameDigest token s.adminToken = false := by
        rw [← Bool.not_eq_true, Token.sameDigest_iff]
        exact hdigest
      rw [hsame, Bool.not_false, Bool.or_true]

/-- The gate turns a request away without a look at what is behind it. -/
theorem throughGate_refused (hopen : open? s now = some g) (h : Unauthorised s r.header)
    (inside : Action Reply) (m : Moment) (site : Site) :
    (g.throughGate r inside m site).site = site ∧
      (g.throughGate r inside m site).result = .ok (refusal r.header) := by
  rw [throughGate, admission_of_unauthorised hopen h, refusal]
  cases Credential.bearer? r.header with
  | none => exact ⟨rfl, rfl⟩
  | some token => exact ⟨rfl, rfl⟩

/-- A request that the gate turns away is answered from its header. -/
theorem answer_refused (hopen : open? s now = some g) (hfits : Fits s resource r)
    (hguarded : isGuarded resource = true) (h : Unauthorised s r.header) (m : Moment)
    (site : Site) :
    (g.answer m site r).site = site ∧
      (g.answer m site r).reply =
        { withMethods resource r (refusal r.header) with headOnly := r.method == .head } := by
  obtain ⟨pattern, filling, hpattern, hmatch⟩ := hfits
  have hfind : g.routes.find? r.target.path = some (resource, filling) := by
    obtain ⟨routes, hroutes, rfl⟩ := Option.map_eq_some_iff.1 hopen
    exact Routes.find?_of_match? hroutes hpattern hmatch
  obtain ⟨hsite, hresult⟩ := throughGate_refused hopen h (g.atResource resource filling r) m site
  rw [answer, respond, hfind]
  simp only [hguarded, if_true, Action.bind_site, Action.bind_result, hsite, hresult]
  exact ⟨rfl, rfl⟩

theorem status_refusal (header : Header) : (refusal header).status =
    if Credential.bearer? header = none then .unauthorized else .forbidden := by
  rw [refusal]
  cases Credential.bearer? header <;> rfl

theorem withMethods_status (resource : Resource) (r : Request) (reply : Reply) :
    (withMethods resource r reply).status = reply.status := by
  rw [withMethods]
  split <;> rfl

theorem withMethods_content (resource : Resource) (r : Request) (reply : Reply) :
    (withMethods resource r reply).content = reply.content := by
  rw [withMethods]
  split <;> rfl

/-- **The admin gate as noninterference.** Take two requests with the same
method and the same header that are for resources behind the gate and do not
show the administrator's token. Whatever the two sites, the two bodies and the
identifiers in the two paths are, each leaves its site as it was, the status is
401 if there is no bearer token and 403 if there is one, and both are sent the
same status and the same body. -/
theorem gate_noninterference (hopen : open? s now = some g) {r r' : Request}
    {resource resource' : Resource} (hfits : Fits s resource r) (hfits' : Fits s resource' r')
    (hguarded : isGuarded resource = true) (hguarded' : isGuarded resource' = true)
    (hmethod : r'.method = r.method) (hheader : r'.header = r.header)
    (hno : Unauthorised s r.header) (m m' : Moment) (site site' : Site) :
    (g.answer m site r).site = site ∧
    (g.answer m site r).reply.status =
      (if Credential.bearer? r.header = none then .unauthorized else .forbidden) ∧
    (g.answer m' site' r').reply.status = (g.answer m site r).reply.status ∧
    (g.answer m' site' r').reply.body = (g.answer m site r).reply.body ∧
    (resource' = resource → (g.answer m' site' r').reply = (g.answer m site r).reply) := by
  obtain ⟨hsite, hreply⟩ := answer_refused hopen hfits hguarded hno m site
  obtain ⟨-, hreply'⟩ := answer_refused hopen hfits' hguarded' (hheader ▸ hno) m' site'
  rw [hheader, hmethod] at hreply'
  -- the methods that are named to the client are in neither the status nor the body
  have hstatus : (g.answer m site r).reply.status = (refusal r.header).status := by
    rw [hreply]
    exact withMethods_status resource r _
  have hstatus' : (g.answer m' site' r').reply.status = (refusal r.header).status := by
    rw [hreply']
    exact withMethods_status resource' r' _
  have hbody : (g.answer m' site' r').reply.body = (g.answer m site r).reply.body := by
    rw [hreply, hreply', Reply.body, Reply.body]
    simp only [withMethods_content]
  refine ⟨hsite, ?_, hstatus'.trans hstatus.symm, hbody, ?_⟩
  · rw [hstatus, status_refusal]
  · rintro rfl
    rw [hreply, hreply', withMethods, withMethods, hmethod]

/-- With no token configured for the administrator, a bearer token is shown to
two different hooks. -/
theorem gate_noninterference_unconfigured :
    let s : GatewaySettings := ⟨"forge/", "", 1024⟩
    let header : Header := [⟨"authorization", Utf8.encode "Bearer guess"⟩]
    let r : Request := ⟨.put, ⟨"/forge/api/hooks/ci", none⟩, header, [], none⟩
    let r' : Request := ⟨.put, ⟨"/forge/api/hooks/deploy", none⟩, header, [0x7B], none⟩
    let m : Moment := ⟨Timestamp.epoch, 0, none, {}⟩
    let site : Site := ⟨FileSystem.empty, .inMemory, "flags"⟩
    ∃ g, open? s Timestamp.epoch = some g ∧ (g.answer m site r).site = site ∧
      (g.answer m site r).reply.status = .forbidden ∧
      (g.answer m site r').reply = (g.answer m site r).reply := by
  intro s header r r' m site
  have hplain : Routes.IsPlain s.basePath := ⟨by decide, by decide⟩
  obtain ⟨routes, hroutes⟩ := Routes.ofBase?_plain hplain
  have hopen : open? s Timestamp.epoch = some ⟨routes, "", 1024, Timestamp.epoch⟩ := by
    rw [open?, hroutes, Option.map_some]
  have hpattern := Routes.pattern?_plain hplain.normalize .hook
  have hfits : Fits s .hook r := ⟨_, [("id".toList, "ci".toList)], hpattern, by decide⟩
  have hfits' : Fits s .hook r' := ⟨_, [("id".toList, "deploy".toList)], hpattern, by decide⟩
  have hno : Unauthorised s r.header := fun _ _ => .inl rfl
  have hbearer : Credential.bearer? r.header = some "guess" := by decide
  have hgate := gate_noninterference hopen hfits hfits' rfl rfl rfl rfl hno m m site site
  rw [hbearer, if_neg (by simp)] at hgate
  exact ⟨_, hopen, hgate.1, hgate.2.1, hgate.2.2.2.2 rfl⟩

end Gateway

end Flagpost
