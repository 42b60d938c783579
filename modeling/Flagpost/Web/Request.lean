import Flagpost.Web.IpAddress
import Flagpost.Web.Method
import Flagpost.Web.Target

/-!
# Flagpost — requests

A request as it arrives, and whom it comes from. Behind a proxy the peer of
the connection is the proxy, so the client is looked for in the header first:
the first entry of `X-Forwarded-For`, then `X-Real-IP`, then the peer.
-/

namespace Flagpost

/-- A request. -/
structure Request where
  method : Method
  target : Target
  header : Header
  body : Bytes
  peer : Option IpAddress

namespace Request

/-- The address in the first entry of a list of addresses. -/
def firstAddress? (value : List Char) : Option IpAddress :=
  IpAddress.ofChars? (Blank.trim (value.takeWhile (· != ',')))

/-- The address of the client, as far as it is known. -/
def client? (r : Request) : Option IpAddress :=
  ((r.header.firstText? "x-forwarded-for").bind firstAddress?).or
    (((r.header.firstText? "x-real-ip").bind fun value => IpAddress.ofChars? (Blank.trim value)).or
      r.peer)

/-- The client, for a log line. -/
def clientLabel (r : Request) : String :=
  match r.client? with
  | some address => address.text
  | none => "unknown"

end Request

end Flagpost
