import PaymentCredentials.Proofs.Freshness
import PaymentCredentials.Proofs.NonceTracking

/-!
Runs of a verifier over a store of nonces: requests of any kind and purges, one after the other. What a
single call may do is said once here; whatever holds of all runs follows from it by induction.
-/
namespace PaymentCredentials

/-- A call of a verifier, with the time at hand. -/
inductive VerifierCall : Type 1
  | verify {α : Type} [ProjectRequest α] (key : ProjectKey) (request : α) (now : Instant)
  | purge (now : Instant)

/-- What an accepted request was accepted with. -/
structure Admission where
  scope : String
  nonce : String
  timestamp : Int64
  deriving DecidableEq

namespace RequestVerifier

/-- All that the verification of a request may do: refuse it and stay as it was, or accept a fresh
timestamp with an unused nonce, and remember that nonce until its expiry. -/
theorem verifyAt_cases {α : Type} [ProjectRequest α] (v : RequestVerifier NonceStore) (key : ProjectKey)
    (request : α) (now : Instant) :
    (∃ fault, v.verifyAt key request now = (.error fault, v)) ∨
      checkSignature key request = .ok () ∧
      isFresh v.maxAge (Stamped.stamp request).timestamp now = true ∧
      v.nonces.contains (ProjectRequest.projectKey request) (Stamped.stamp request).nonce = false ∧
      v.verifyAt key request now = (.ok (), { v with nonces :=
        ⟨NonceStore.insertInto (ProjectRequest.projectKey request) (Stamped.stamp request).nonce
          (nonceExpiry v.maxAge (Stamped.stamp request).timestamp) v.nonces.scopes⟩ }) := by
  unfold verifyAt
  cases hsign : checkSignature key request with
  | error fault => exact Or.inl ⟨fault, rfl⟩
  | ok _ =>
      cases hfresh : isFresh v.maxAge (Stamped.stamp request).timestamp now with
      | false => exact Or.inl ⟨.unauthorized, by simp [hfresh]⟩
      | true =>
          cases hused : v.nonces.contains (ProjectRequest.projectKey request)
              (Stamped.stamp request).nonce with
          | true =>
              refine Or.inl ⟨.unauthorized, ?_⟩
              simp [hfresh, hused, NonceKeeper.checkAndMark, NonceStore.checkAndMark]
          | false =>
              refine Or.inr ⟨rfl, rfl, rfl, ?_⟩
              simp [hfresh, hused, NonceKeeper.checkAndMark, NonceStore.checkAndMark]

end RequestVerifier

namespace VerifierCall

def time : VerifierCall → Instant
  | @verify _ _ _ _ now => now
  | .purge now => now

/-- The verifier after a call. -/
def next (v : RequestVerifier NonceStore) : VerifierCall → RequestVerifier NonceStore
  | @verify _ _ key request now => (v.verifyAt key request now).2
  | .purge now =>
      match v.purgeAt now with
      | .ok (_, w) => w
      | .error _ => v

/-- What a call accepts, if it does. -/
def admits (v : RequestVerifier NonceStore) : VerifierCall → Option Admission
  | @verify _ _ key request now =>
      match (v.verifyAt key request now).1 with
      | .ok () => some ⟨ProjectRequest.projectKey request, (Stamped.stamp request).nonce,
          (Stamped.stamp request).timestamp⟩
      | .error _ => none
  | .purge _ => none

/-- A call never changes the window. -/
theorem maxAge_next (v : RequestVerifier NonceStore) (c : VerifierCall) : (next v c).maxAge = v.maxAge := by
  cases c with
  | verify key request now =>
      rcases v.verifyAt_cases key request now with ⟨fault, hcall⟩ | ⟨-, -, -, hcall⟩ <;> rw [next, hcall]
  | purge now => rfl

/-- A call forgets a nonce only if it is a purge behind the expiry of the nonce. -/
theorem tracks_next {v : RequestVerifier NonceStore} {scope nonce : String} {expiry : Int64}
    (h : v.nonces.Tracks scope nonce expiry) (c : VerifierCall) :
    (next v c).nonces.Tracks scope nonce expiry ∨ ∃ now, c = .purge now ∧ expiry < now.timestamp := by
  cases c with
  | verify key request now =>
      rcases v.verifyAt_cases key request now with ⟨fault, hcall⟩ | ⟨-, -, -, hcall⟩
      · rw [next, hcall]
        exact Or.inl h
      · rw [next, hcall]
        exact Or.inl (NonceStore.tracks_insertInto.mpr (Or.inl h))
  | purge now =>
      by_cases hexpired : expiry < now.timestamp
      · exact Or.inr ⟨now, rfl, hexpired⟩
      · exact Or.inl (NonceStore.tracks_purge.mpr ⟨h, Int64.not_lt.mp hexpired⟩)

/-- An accepted request had a fresh timestamp and an unused nonce, which is remembered afterwards. -/
theorem admits_cases {v : RequestVerifier NonceStore} {c : VerifierCall} {a : Admission}
    (h : admits v c = some a) :
    RequestVerifier.isFresh v.maxAge a.timestamp c.time = true ∧
      v.nonces.contains a.scope a.nonce = false ∧
      (next v c).nonces.Tracks a.scope a.nonce (RequestVerifier.nonceExpiry v.maxAge a.timestamp) := by
  cases c with
  | verify key request now =>
      rcases v.verifyAt_cases key request now with ⟨fault, hcall⟩ | ⟨-, hfresh, hunused, hcall⟩
      · rw [admits, hcall] at h
        cases h
      · rw [admits, hcall] at h
        cases h
        refine ⟨hfresh, hunused, ?_⟩
        rw [next, hcall]
        exact NonceStore.tracks_insertInto.mpr (Or.inr ⟨rfl, rfl, rfl⟩)
  | purge now => cases h

/-- The verifier after a run. -/
def run (v : RequestVerifier NonceStore) (calls : List VerifierCall) : RequestVerifier NonceStore :=
  calls.foldl next v

theorem run_cons (v : RequestVerifier NonceStore) (c : VerifierCall) (calls : List VerifierCall) :
    run v (c :: calls) = run (next v c) calls := rfl

theorem run_append (v : RequestVerifier NonceStore) (first second : List VerifierCall) :
    run v (first ++ second) = run (run v first) second := List.foldl_append

theorem maxAge_run (v : RequestVerifier NonceStore) (calls : List VerifierCall) :
    (run v calls).maxAge = v.maxAge := by
  induction calls generalizing v with
  | nil => rfl
  | cons c calls ih => rw [run_cons, ih, maxAge_next]

/-- A run forgets a nonce only by a purge behind the expiry of the nonce. -/
theorem tracks_run {v : RequestVerifier NonceStore} {scope nonce : String} {expiry : Int64}
    (h : v.nonces.Tracks scope nonce expiry) (calls : List VerifierCall) :
    (run v calls).nonces.Tracks scope nonce expiry ∨
      ∃ now, .purge now ∈ calls ∧ expiry < now.timestamp := by
  induction calls generalizing v with
  | nil => exact Or.inl h
  | cons c calls ih =>
      rcases tracks_next h c with hkept | ⟨now, rfl, hexpired⟩
      · rcases ih hkept with hend | ⟨now, hmem, hexpired⟩
        · exact Or.inl hend
        · exact Or.inr ⟨now, List.mem_cons_of_mem _ hmem, hexpired⟩
      · exact Or.inr ⟨now, List.mem_cons_self, hexpired⟩

/-- No call is made at an earlier time than one before it. -/
def InOrder (calls : List VerifierCall) : Prop :=
  calls.Pairwise fun c d => d.time.before c.time = false

end VerifierCall

end PaymentCredentials
