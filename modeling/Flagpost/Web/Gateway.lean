import Flagpost.Access.Credential
import Flagpost.Config.Basic
import Flagpost.Hook.Service
import Flagpost.Time.Unix
import Flagpost.Web.Reply
import Flagpost.Web.Request
import Flagpost.Web.Route

/-!
# Flagpost — the gateway

How requests become actions of the hook service. The resources that manage
hooks are behind the **admin gate**: a request without a bearer token is told
to show one, and one with the wrong token is refused. The gate comes before
anything else that the request says is looked at, its method included, so a
refused request learns nothing about the hooks and changes nothing.

Triggers are not behind the gate; they are guarded by the token of their hook.

Every request is reported once it is answered, at a level that follows from
the status.
-/

namespace Flagpost

/-- The settings of a gateway. -/
structure GatewaySettings where
  basePath : String
  adminToken : String
  maxBodyBytes : Nat
deriving DecidableEq

/-- The settings in a configuration. -/
def GatewaySettings.ofServer (s : ServerSettings) : GatewaySettings :=
  ⟨BasePath.normalize s.basePath, s.adminToken, s.maxBodyBytes⟩

/-- A gateway: its routes, the administrator's token, the most bytes a body
may have, and when it was opened. -/
structure Gateway where
  routes : Routes
  adminToken : String
  maxBodyBytes : Nat
  openedAt : Timestamp

/-- What a request leaves. -/
structure Exchange where
  site : Site
  events : List Event
  reply : Reply

namespace Gateway

/-- The version of the service. -/
def version : String := "0.1.0"

/-- Opens a gateway, if the base path has routes. -/
def open? (s : GatewaySettings) (now : Timestamp) : Option Gateway :=
  (Routes.ofBase? s.basePath).map fun routes => ⟨routes, s.adminToken, s.maxBodyBytes, now⟩

-- ---------------------------------------------------------------------------
-- The admin gate
-- ---------------------------------------------------------------------------

/-- The verdict of the admin gate. -/
inductive Admission
  | admitted
  | missing
  | wrong
deriving DecidableEq

/-- The verdict of the admin gate on a header. -/
def admission (g : Gateway) (header : Header) : Admission :=
  match Credential.bearer? header with
  | none => .missing
  | some token =>
    if g.adminToken.isEmpty || !Token.sameDigest token g.adminToken then .wrong else .admitted

/-- Lets a request through the admin gate, or turns it away. -/
def throughGate (g : Gateway) (r : Request) (inside : Action Reply) : Action Reply :=
  match g.admission r.header with
  | .admitted => inside
  | .missing => do
    Action.report ⟨.warn, .auth, "missing admin token", [("path", .shown r.target.path)]⟩
    pure (Reply.refused .unauthorized "unauthorized" "admin authentication required")
  | .wrong => do
    Action.report ⟨.warn, .auth, "admin authentication failed", [("path", .shown r.target.path)]⟩
    pure (Reply.refused .forbidden "forbidden" "invalid admin token")

-- ---------------------------------------------------------------------------
-- Health
-- ---------------------------------------------------------------------------

/-- Is the store there? A registry that is kept in no file always is. -/
def storeIsUp : Action Bool := fun _ site =>
  match site.registry.storage with
  | none => ⟨site, [], .ok true⟩
  | some path =>
    match site.files.find path with
    | .ok (_, .file _ _) => ⟨site, [], .ok true⟩
    | .ok (_, .directory) => ⟨site, [], .ok false⟩
    | .error e =>
      ⟨site, [⟨.error, .http, "health check failed",
        [("path", .shown path), ("error", .shown e.message)]⟩], .ok false⟩

/-- Whether the service is up, and since when. -/
def health (g : Gateway) : Action Reply := do
  let up ← storeIsUp
  Action.look fun m site => Reply.granted (if up then .ok else .unavailable) <| .object [
    ("hooks", .whole site.registry.hooks.size),
    ("status", .string (if up then "up" else "down")),
    ("timestamp", .string m.now.text),
    ("uptimeSeconds", .whole (m.now.toSeconds - g.openedAt.toSeconds)),
    ("version", .string version)]

-- ---------------------------------------------------------------------------
-- Managing hooks
-- ---------------------------------------------------------------------------

/-- The hook in the body of a request, or the reply that refuses the body. -/
def hookSent (g : Gateway) (r : Request) : Except Reply Hook :=
  if g.maxBodyBytes < r.body.length then
    .error (Reply.refused .payloadTooLarge "payload_too_large"
      "Failed to buffer the request body: length limit exceeded")
  else
    match Hook.ofRequest r.body with
    | .ok hook => .ok hook
    | .error e =>
      .error (Reply.refused .badRequest "bad_request" ("invalid request body: " ++ e.message))

/-- Shows all hooks. -/
def listHooks : Action Reply := do
  let hooks ← Service.allHooks
  pure (Reply.granted .ok (.array (hooks.map Hook.toJson)))

/-- Shows one hook. -/
def showHook (id : String) : Action Reply := do
  let hook ← Service.getHook id
  pure (Reply.granted .ok hook.toJson)

/-- The hook as it is to be added: one sent without a token gets a fresh one. -/
def giveToken (sent : Hook) : Action Hook :=
  if sent.token.isEmpty then do
    let fresh ← Service.generateToken
    pure { sent with token := fresh }
  else pure sent

/-- Adds the hook that was sent. -/
def addHook (g : Gateway) (r : Request) : Action Reply :=
  match g.hookSent r with
  | .error reply => pure reply
  | .ok sent => do
    let hook ← giveToken sent
    let created ← Service.createHook hook
    pure (Reply.granted .created created.toJson)

/-- The hook as it is to be kept: one sent without a token keeps the token it
had. -/
def keepToken (sent : Hook) : Action Hook :=
  if sent.token.isEmpty then do
    let kept ← Service.getHook sent.id
    pure { sent with token := kept.token }
  else pure sent

/-- Replaces a hook by the one that was sent. The identifier is the one in the
path, whatever was sent. -/
def replaceHook (g : Gateway) (r : Request) (id : String) : Action Reply :=
  match g.hookSent r with
  | .error reply => pure reply
  | .ok sent => do
    let hook ← keepToken { sent with id := id }
    let updated ← Service.updateHook hook
    pure (Reply.granted .ok updated.toJson)

/-- Removes a hook. -/
def removeHook (id : String) : Action Reply := do
  Service.deleteHook id
  pure { status := .noContent }

-- ---------------------------------------------------------------------------
-- Triggers
-- ---------------------------------------------------------------------------

/-- Triggers a hook. -/
def triggerHook (r : Request) (id : String) : Action Reply :=
  let ip := FieldValue.shown r.clientLabel
  if id.isEmpty then do
    Action.report ⟨.warn, .http, "missing hook ID in webhook request",
      [("ip", ip), ("path", .shown r.target.path)]⟩
    pure (Reply.refused .badRequest "bad_request" "missing hook ID")
  else
    match Credential.trigger? r.header r.target with
    | none => do
      Action.report ⟨.warn, .auth, "missing webhook token", [("ip", ip), ("id", .shown id)]⟩
      pure (Reply.refused .badRequest "bad_request" "missing token")
    | some token => do
      let _ ← Service.trigger id token
      Action.report ⟨.info, .http, "webhook accepted", [("ip", ip), ("id", .shown id)]⟩
      pure (Reply.granted .ok (.object [("status", .string "success")]))

-- ---------------------------------------------------------------------------
-- Resources
-- ---------------------------------------------------------------------------

/-- The methods a resource answers to. -/
def methods : Resource → List Method
  | .health => [.get, .head]
  | .trigger => [.post]
  | .hooks => [.get, .head, .post]
  | .hook => [.get, .head, .put, .delete]

/-- Is a resource behind the admin gate? -/
def isGuarded : Resource → Bool
  | .health => false
  | .trigger => false
  | .hooks => true
  | .hook => true

/-- Goes on with the identifier in a path, if it has one. -/
def withIdentifier (filling : Filling) (go : String → Action Reply) : Action Reply :=
  match filling.identifier with
  | .ok id => go id
  | .error fault =>
    let status :=
      match fault with
      | .notText _ => Status.badRequest
      | .count _ => Status.internalError
    pure { status := status, content := .text fault.message }

/-- What a resource does for a request that is let through. -/
def atResource (g : Gateway) (resource : Resource) (filling : Filling) (r : Request) :
    Action Reply :=
  match resource, r.method with
  | .health, .get => g.health
  | .health, .head => g.health
  | .trigger, .post => withIdentifier filling (triggerHook r)
  | .hooks, .get => listHooks
  | .hooks, .head => listHooks
  | .hooks, .post => g.addHook r
  | .hook, .get => withIdentifier filling showHook
  | .hook, .head => withIdentifier filling showHook
  | .hook, .put => withIdentifier filling (g.replaceHook r)
  | .hook, .delete => withIdentifier filling removeHook
  | _, _ => pure { status := .methodNotAllowed }

/-- Names the methods of a resource if the one asked for is not among them. -/
def withMethods (resource : Resource) (r : Request) (reply : Reply) : Reply :=
  if (methods resource).contains r.method then reply
  else { reply with allow := methods resource }

/-- Finds the resource a request is for. -/
def respond (g : Gateway) (r : Request) : Action Reply :=
  match g.routes.find? r.target.path with
  | none => pure { status := .notFound }
  | some (resource, filling) => do
    let inside := g.atResource resource filling r
    let reply ← if isGuarded resource then g.throughGate r inside else inside
    pure (withMethods resource r reply)

-- ---------------------------------------------------------------------------
-- Whole requests
-- ---------------------------------------------------------------------------

/-- What is reported about an answered request. -/
def requestEvent (r : Request) (status : Status) : Event where
  level := if 500 ≤ status.number then .error else if 400 ≤ status.number then .warn else .info
  origin := .http
  message :=
    if 500 ≤ status.number then "request failed"
    else if 400 ≤ status.number then "request rejected"
    else "request completed"
  fields := [
    ("method", .shown r.method.name),
    ("path", .shown r.target.path),
    ("ip", .shown r.clientLabel),
    ("status", .number status.number)]

/-- What is reported about a failure that stopped an operation. The runtime that ran
the operation has its own words for that. -/
def breakdownEvents : HookError → List Event
  | .endOfTime _ => [⟨.error, .http, "blocking task failed", [("error", .ofPlatform)]⟩]
  | _ => []

/-- The reply to an action that has ended: a failure of the service is a
reply too. -/
def replyOf : Except HookError Reply → Reply
  | .ok reply => reply
  | .error e => Reply.ofError e

/-- What is reported about the end of an action. -/
def endEvents : Except HookError Reply → List Event
  | .ok _ => []
  | .error e => breakdownEvents e

/-- Answers a request. -/
def answer (g : Gateway) (m : Moment) (site : Site) (r : Request) : Exchange :=
  let o := g.respond r m site
  let reply := replyOf o.result
  { site := o.site
    events := o.events ++ endEvents o.result ++ [requestEvent r reply.status]
    reply := { reply with headOnly := r.method == .head } }

end Gateway

end Flagpost
