import PaymentCredentials.Message.Stamp
import PaymentCredentials.NonceStore
import PaymentCredentials.ProjectKey
import PaymentCredentials.RequestFault
import PaymentCredentials.Saturated

/-!
Verification of requests. A request is accepted if its project key is the given one and can be used, its
signature was made with the secret of that key, its timestamp is near enough, and its nonce was not used
before. A nonce is used up last, so that no forged or stale request takes one.
-/
namespace PaymentCredentials

/-- A verifier of requests: what it remembers of used nonces, and how far timestamps may be off, in
seconds. -/
structure RequestVerifier (σ : Type) where
  nonces : σ
  maxAge : Int64

namespace RequestVerifier

/-- A verifier with a greatest distance of timestamps; no distance is greater than the greatest 64-bit
integer. -/
def new {σ : Type} (nonces : σ) (maxAge : UInt64) : RequestVerifier σ :=
  ⟨nonces, saturated maxAge.toNat⟩

/-- Whether a timestamp is near enough to the time at hand, before it or after it. -/
def isFresh (maxAge timestamp : Int64) (now : Instant) : Bool :=
  let age := saturated (now.timestamp.toInt - timestamp.toInt)
  age ≠ Int64.minValue && age.toInt.natAbs ≤ maxAge.toInt

/-- The last second at which a timestamp is near enough. -/
def nonceExpiry (maxAge timestamp : Int64) : Int64 := saturated (timestamp.toInt + maxAge.toInt)

/-- Refuses a request that was not signed with the secret of a project key. -/
def checkSignature {α : Type} [ProjectRequest α] (key : ProjectKey) (request : α) :
    Except RequestFault Unit :=
  if key.isValid = false then .error .unauthorized
  else if key.name ≠ ProjectRequest.projectKey request then .error .unauthorized
  else
    match key.secretBytes with
    | .error _ => .error .unauthorized
    | .ok secret =>
      match isAuthentic request secret with
      | .ok true => .ok ()
      | .ok false => .error .unauthorized
      | .error (.canonical fault) => .error (.invalid (.unsignable fault))
      | .error _ => .error .unauthorized

/-- Accepts a request, or tells why not. -/
def verifyAt {σ α : Type} [NonceKeeper σ] [ProjectRequest α] (v : RequestVerifier σ) (key : ProjectKey)
    (request : α) (now : Instant) : Except RequestFault Unit × RequestVerifier σ :=
  let stamp := Stamped.stamp request
  match checkSignature key request with
  | .error fault => (.error fault, v)
  | .ok () =>
    if isFresh v.maxAge stamp.timestamp now = false then (.error .unauthorized, v)
    else
      match NonceKeeper.checkAndMark v.nonces (ProjectRequest.projectKey request) stamp.nonce
          (nonceExpiry v.maxAge stamp.timestamp) with
      | .error fault => (.error (.credential fault), v)
      | .ok (false, nonces) => (.error .unauthorized, { v with nonces := nonces })
      | .ok (true, nonces) => (.ok (), { v with nonces := nonces })

/-- Forgets the nonces of requests whose timestamps are no longer near enough, and counts them. -/
def purgeAt {σ : Type} [NonceKeeper σ] (v : RequestVerifier σ) (now : Instant) :
    Except RequestFault (Nat × RequestVerifier σ) := do
  let (count, nonces) ← (NonceKeeper.purge v.nonces now.timestamp).mapError .credential
  return (count, { v with nonces := nonces })

end RequestVerifier

end PaymentCredentials
