import Flagpost.Digest.Sha256
import Flagpost.Log.Event
import Flagpost.Text.Hex

/-!
# Flagpost — tokens

A **token** is the secret that authorises: one for each hook, and one for the
administrator. A generated token is the clock in hexadecimal nanoseconds, a
hyphen, and sixteen random bytes in hexadecimal; when no random bytes can be
had, the digits of the clock, padded to sixteen, stand in for them, and that is
reported.

Tokens are compared through their digests, and an empty token authorises
nothing, whether it is the one offered or the one kept.
-/

namespace Flagpost.Token

/-- The number of random bytes in a token. -/
def randomBytes : Nat := 16

/-- A fresh token from the clock, in nanoseconds since 1970, and the random
source, which may have failed. -/
def generate (nanos : Nat) (random : Option Bytes) : String :=
  let bytes := random.getD (Utf8.encode (String.ofList (Hex.padded 16 nanos)))
  String.ofList (Hex.ofNat nanos ++ '-' :: Hex.ofBytes bytes)

/-- What is reported when a token is generated: that the random source has failed, if
it has. -/
def generationEvents (random : Option Bytes) : List Event :=
  match random with
  | some _ => []
  | none => [⟨.error, .hooks, "failed to generate random bytes for token",
      [("error", .ofPlatform)]⟩]

/-- The bits in which two byte sequences differ at some place. All places are
looked at, so the time this takes does not tell where they differ. -/
def differingBits (a b : Bytes) : UInt8 :=
  (a.zip b).foldl (fun found pair => found ||| (pair.1 ^^^ pair.2)) 0

/-- Do two texts have the same digest? -/
def sameDigest (a b : String) : Bool := differingBits (Sha256.ofText a) (Sha256.ofText b) == 0

/-- Does the offered token authorise what the kept token guards? -/
def authorises (offered kept : String) : Bool :=
  !offered.isEmpty && !kept.isEmpty && sameDigest offered kept

end Flagpost.Token
