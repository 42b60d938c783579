import Flagpost.Web.Header
import Flagpost.Web.Percent
import Flagpost.Web.Target

/-!
# Flagpost — credentials of a request

Where a request carries its token:

* `Credential.bearer?` reads `Authorization: Bearer <token>`, the only place
  an administrator's token is taken from;
* `Credential.trigger?` reads, in this order, the bearer token, the field
  `X-Webhook-Token`, and the first non-empty `token=` parameter of the query.

A token that is read is never empty.
-/

namespace Flagpost.Credential

/-- The field that carries a bearer token. -/
def authorization : String := "authorization"

/-- The field that carries a trigger token for callers that cannot set
`Authorization`. -/
def webhookToken : String := "x-webhook-token"

/-- The text, unless it is empty. -/
def nonEmpty? (text : List Char) : Option String :=
  if text.isEmpty then none else some (String.ofList text)

/-- The token in the value of an authorization field: a scheme, a space and
the token, with white space around either left aside. -/
def bearerOfValue? (value : List Char) : Option String :=
  let value := Blank.trim value
  let scheme := value.takeWhile (· != ' ')
  match value.drop scheme.length with
  | [] => none
  | _ :: token =>
    if scheme.map Char.toLower == "bearer".toList then nonEmpty? (Blank.trim token) else none

/-- The bearer token of a request. -/
def bearer? (header : Header) : Option String :=
  (header.firstText? authorization).bind bearerOfValue?

/-- The token of the first `token=` parameter that has a value. -/
def ofQuery? (query : String) : Option String :=
  (query.toList.splitOn '&').findSome? fun parameter =>
    if "token=".toList.isPrefixOf parameter then
      (nonEmpty? (parameter.drop 6)).map Percent.decodeFormValue
    else none

/-- The trigger token of a request. -/
def trigger? (header : Header) (target : Target) : Option String :=
  (bearer? header).or
    (((header.firstText? webhookToken).bind fun value => nonEmpty? (Blank.trim value)).or
      (target.query.bind ofQuery?))

end Flagpost.Credential
