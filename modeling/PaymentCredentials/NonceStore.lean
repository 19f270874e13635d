import PaymentCredentials.Fault

/-!
Stores of used nonces. Nonces of different scopes do not touch each other. A nonce is used once; it is
forgotten when it is purged, which no nonce is before its expiry has passed.
-/
namespace PaymentCredentials

/-- The nonces of a scope, each with its expiry in seconds since the beginning of 1970. -/
structure NonceScope where
  name : String
  used : List (String × Int64)
  deriving DecidableEq

/-- The scopes that have used nonces. -/
structure NonceStore where
  scopes : List NonceScope
  deriving DecidableEq

namespace NonceScope

def contains (s : NonceScope) (nonce : String) : Bool := s.used.any fun u => u.1 = nonce

/-- The scope without the nonces that expired before a time. -/
def purge (s : NonceScope) (before : Int64) : NonceScope :=
  { s with used := s.used.filter fun u => before ≤ u.2 }

end NonceScope

namespace NonceStore

def empty : NonceStore := ⟨[]⟩

/-- The count of used nonces over all scopes. -/
def count (s : NonceStore) : Nat := (s.scopes.flatMap fun scope => scope.used).length

def contains (s : NonceStore) (scope nonce : String) : Bool :=
  s.scopes.any fun t => t.name = scope && t.contains nonce

def insertInto (scope nonce : String) (expiry : Int64) : List NonceScope → List NonceScope
  | [] => [⟨scope, [(nonce, expiry)]⟩]
  | t :: rest =>
    if t.name = scope then { t with used := (nonce, expiry) :: t.used } :: rest
    else t :: insertInto scope nonce expiry rest

/-- Whether a nonce is fresh; a fresh one is used from then on. -/
def checkAndMark (s : NonceStore) (scope nonce : String) (expiry : Int64) : Bool × NonceStore :=
  if s.contains scope nonce then (false, s)
  else (true, ⟨insertInto scope nonce expiry s.scopes⟩)

/-- The store without the nonces that expired before a time. A scope without nonces is dropped. -/
def purge (s : NonceStore) (before : Int64) : NonceStore :=
  ⟨(s.scopes.map fun scope => scope.purge before).filter fun scope => scope.used ≠ []⟩

/-- How many nonces expired before a time. -/
def expired (s : NonceStore) (before : Int64) : Nat := s.count - (s.purge before).count

end NonceStore

/-- Whatever remembers used nonces. It may fail to answer, and is then as before. -/
class NonceKeeper (σ : Type) where
  /-- Whether a nonce is fresh in a scope; a fresh one is used from then on. -/
  checkAndMark : σ → (scope nonce : String) → (expiry : Int64) → Except CredentialFault (Bool × σ)
  /-- Forgets the nonces that expired before a time, and counts them. -/
  purge : σ → (before : Int64) → Except CredentialFault (Nat × σ)

instance : NonceKeeper NonceStore where
  checkAndMark s scope nonce expiry := .ok (s.checkAndMark scope nonce expiry)
  purge s before := .ok (s.expired before, s.purge before)

end PaymentCredentials
