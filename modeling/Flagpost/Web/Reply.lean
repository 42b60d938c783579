import Flagpost.Hook.Codec
import Flagpost.Hook.Error
import Flagpost.Web.Method

/-!
# Flagpost — replies

What a request is answered with. Nearly every reply carries a document, the
**envelope**: `success` tells whether the request was granted; then `data`
holds the answer, or `errors` and `code` say what was wrong. A failure of the
storage is not described to the client.
-/

namespace Flagpost

/-- The status of a reply. -/
inductive Status
  | ok
  | created
  | noContent
  | badRequest
  | unauthorized
  | forbidden
  | notFound
  | methodNotAllowed
  | conflict
  | payloadTooLarge
  | internalError
  | unavailable
deriving DecidableEq

/-- The number of a status. -/
def Status.number : Status → Nat
  | .ok => 200
  | .created => 201
  | .noContent => 204
  | .badRequest => 400
  | .unauthorized => 401
  | .forbidden => 403
  | .notFound => 404
  | .methodNotAllowed => 405
  | .conflict => 409
  | .payloadTooLarge => 413
  | .internalError => 500
  | .unavailable => 503

/-- What a reply carries. -/
inductive Content
  | empty
  | document (value : Json)
  | text (message : String)

/-- A reply. `allow` names the methods that would be answered, if the one
asked for is not; `headOnly` keeps the content back. -/
structure Reply where
  status : Status
  content : Content := .empty
  allow : List Method := []
  headOnly : Bool := false

namespace Reply

/-- The content type of a reply. -/
def contentType? (r : Reply) : Option String :=
  match r.content with
  | .empty => none
  | .document _ => some "application/json"
  | .text _ => some "text/plain; charset=utf-8"

/-- The body of a reply. -/
def body (r : Reply) : String :=
  if r.headOnly then ""
  else
    match r.content with
    | .empty => ""
    | .document value => value.compactText
    | .text message => message

/-- The methods that would be answered, for the field `Allow`. -/
def allowed? (r : Reply) : Option String :=
  if r.allow.isEmpty then none else some (String.intercalate "," (r.allow.map Method.name))

/-- A granted request with its answer. -/
def granted (status : Status) (data : Json) : Reply where
  status := status
  content := .document (.object [("success", .bool true), ("data", data)])

/-- A refused request: what was wrong, in words and by a code. -/
def refused (status : Status) (code message : String) : Reply where
  status := status
  content := .document
    (.object [("success", .bool false), ("errors", .array [.string message]),
      ("code", .string code)])

/-- The status for a failure of the hook service. -/
def statusOf : HookError → Status
  | .notFound _ => .notFound
  | .alreadyExists _ => .conflict
  | .invalidToken _ => .unauthorized
  | .disabled _ => .forbidden
  | .invalid _ => .badRequest
  | .io _ _ => .internalError
  | .unreadable _ => .internalError
  | .endOfTime _ => .internalError

/-- The reply to a request that failed in the hook service. -/
def ofError (e : HookError) : Reply :=
  refused (statusOf e) e.code (if e.isCallers then e.message else "internal server error")

end Reply

end Flagpost
