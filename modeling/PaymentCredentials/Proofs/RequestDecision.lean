import PaymentCredentials.Message.InitRequest
import PaymentCredentials.Message.StatusRequest
import PaymentCredentials.Proofs.Results
import PaymentCredentials.Proofs.VerifierRun

/-!
What becomes of a request. A request is accepted just in case its key can be used, its signature is the
code of its canonical message, its timestamp is near enough and its nonce was not used before. Only the
nonce of an accepted request is used up; any other request leaves the verifier as it was.
-/
namespace PaymentCredentials

/-- A nonce that is entered is one more, whatever there was before. -/
theorem NonceStore.count_insertInto (scope nonce : String) (expiry : Int64) (scopes : List NonceScope) :
    count ⟨insertInto scope nonce expiry scopes⟩ = count ⟨scopes⟩ + 1 := by
  simp only [count, List.length_flatMap]
  induction scopes with
  | nil => rfl
  | cons t rest ih =>
      by_cases ht : t.name = scope
      · simp only [insertInto, ht, if_true, List.map_cons, List.sum_cons, List.length_cons]
        omega
      · simp only [insertInto, ht, if_false, List.map_cons, List.sum_cons, ih]
        omega

/-- A request for a status has no canonical message only if it names no payment. -/
theorem StatusRequest.noTarget_of_body {r : StatusRequest} {fault : CredentialFault}
    (h : Stamped.body r = .error fault) : fault = .canonical .noTarget := by
  simp only [Stamped.body] at h
  split at h
  · exact (Except.error.inj h).symm
  · cases h

namespace RequestVerifier

section

variable {α : Type} [ProjectRequest α]

/-- A project key can be used for a request: it has a name, is active, is the one that the request names,
and its secret can be read. -/
structure Usable (key : ProjectKey) (request : α) (secret : Bytes) : Prop where
  named : key.name ≠ ""
  active : key.active = true
  addressed : key.name = ProjectRequest.projectKey request
  readable : Hex.decode? key.secret = some secret

/-- A request has no canonical message, though its key can be used. Its signature does not matter. -/
def Unsignable (key : ProjectKey) (request : α) : Prop :=
  ∃ secret fault, Usable key request secret ∧ Signable.message request = .error fault

/-- The signature of a request spells the code of its canonical message under the secret of its key. -/
def Authentic (key : ProjectKey) (request : α) : Prop :=
  ∃ secret message, Usable key request secret ∧ Signable.message request = .ok message ∧
    Hex.decode? (Stamped.stamp request).signature = some (hmac messageHash secret message)

/-- What a verifier accepts. -/
structure Acceptable (v : RequestVerifier NonceStore) (key : ProjectKey) (request : α) (now : Instant) :
    Prop where
  authentic : Authentic key request
  fresh : isFresh v.maxAge (Stamped.stamp request).timestamp now = true
  unused : ∀ expiry,
    ¬ v.nonces.Tracks (ProjectRequest.projectKey request) (Stamped.stamp request).nonce expiry

/-- The verifier that has used up the nonce of a request. -/
def marking (v : RequestVerifier NonceStore) (request : α) : RequestVerifier NonceStore :=
  { v with nonces := ⟨NonceStore.insertInto (ProjectRequest.projectKey request) (Stamped.stamp request).nonce
      (nonceExpiry v.maxAge (Stamped.stamp request).timestamp) v.nonces.scopes⟩ }

/-- What becomes of a request, told by what it is and by what it does to the verifier. -/
structure Decided (v : RequestVerifier NonceStore) (key : ProjectKey) (request : α) (now : Instant) :
    Prop where
  accepted : (v.verifyAt key request now).1 = .ok () ↔ Acceptable v key request now
  invalid : (∃ cause, (v.verifyAt key request now).1 = .error (.invalid cause)) ↔ Unsignable key request
  unauthorized : (v.verifyAt key request now).1 = .error .unauthorized ↔
    ¬ Acceptable v key request now ∧ ¬ Unsignable key request
  /-- An accepted request uses up its nonce, and nothing else. -/
  marked : (v.verifyAt key request now).1 = .ok () → ∀ scope nonce expiry,
    (v.verifyAt key request now).2.nonces.Tracks scope nonce expiry ↔
      v.nonces.Tracks scope nonce expiry ∨ scope = ProjectRequest.projectKey request ∧
        nonce = (Stamped.stamp request).nonce ∧
        expiry = nonceExpiry v.maxAge (Stamped.stamp request).timestamp
  counted : (v.verifyAt key request now).1 = .ok () →
    (v.verifyAt key request now).2.nonces.count = v.nonces.count + 1
  window : (v.verifyAt key request now).2.maxAge = v.maxAge
  refused : (v.verifyAt key request now).1 ≠ .ok () → (v.verifyAt key request now).2 = v

theorem Usable.secret_eq {key : ProjectKey} {request : α} {secret secret' : Bytes}
    (h : Usable key request secret) (h' : Usable key request secret') : secret = secret' :=
  Option.some.inj (h.readable.symm.trans h'.readable)

theorem not_authentic_of_unsignable {key : ProjectKey} {request : α} (h : Unsignable key request) :
    ¬ Authentic key request := by
  obtain ⟨secret, fault, -, hfault⟩ := h
  rintro ⟨secret', message, -, hmessage, -⟩
  cases hfault.symm.trans hmessage

theorem isAuthentic_of_message {request : α} {message : Bytes} (secret : Bytes)
    (hmessage : Signable.message request = .ok message) :
    isAuthentic request secret =
      match Hex.decode? (Stamped.stamp request).signature with
      | some signature => .ok (sameBytes (hmac messageHash secret message) signature)
      | none => .error (.malformed .signatureNotHex) := by
  have hsign : sign request secret = .ok (hmac messageHash secret message) :=
    (bind_of_ok hmessage _).trans rfl
  rw [isAuthentic, bind_of_ok hsign]
  change (Stamp.signatureBytes (Stamped.stamp request) >>= _) = _
  rw [Stamp.signatureBytes]
  cases Hex.decode? (Stamped.stamp request).signature <;> rfl

theorem isAuthentic_of_message_error {request : α} {fault : CredentialFault} (secret : Bytes)
    (hmessage : Signable.message request = .error fault) : isAuthentic request secret = .error fault := by
  rw [isAuthentic, sign, hmessage]
  rfl

/-- A key that cannot be used lets no request through. -/
theorem checkSignature_of_not_usable {key : ProjectKey} {request : α}
    (h : ∀ secret, ¬ Usable key request secret) : checkSignature key request = .error .unauthorized := by
  unfold checkSignature
  split
  · rfl
  rename_i hvalid
  split
  · rfl
  rename_i haddressed
  split
  · rfl
  rename_i secret hsecret
  simp only [ProjectKey.isValid, Bool.not_eq_false, Bool.and_eq_true, decide_eq_true_eq] at hvalid
  have hreadable : Hex.decode? key.secret = some secret := by
    unfold ProjectKey.secretBytes at hsecret
    split at hsecret
    · rename_i hdecode
      rw [hdecode, Except.ok.inj hsecret]
    · cases hsecret
  exact absurd ⟨hvalid.1, hvalid.2, Decidable.not_not.mp haddressed, hreadable⟩ (h secret)

section

variable {key : ProjectKey} {request : α} {secret : Bytes} (husable : Usable key request secret)

include husable

theorem checkSignature_of_usable :
    checkSignature key request =
      match isAuthentic request secret with
      | .ok true => .ok ()
      | .ok false => .error .unauthorized
      | .error (.canonical fault) => .error (.invalid (.unsignable fault))
      | .error _ => .error .unauthorized := by
  have hvalid : ¬ key.isValid = false := by
    simp only [ProjectKey.isValid, husable.active, Bool.and_true, Bool.not_eq_false, decide_eq_true_eq]
    exact husable.named
  have hsecret : key.secretBytes = .ok secret := by
    rw [ProjectKey.secretBytes, husable.readable]
  unfold checkSignature
  rw [if_neg hvalid, if_neg (not_not_intro husable.addressed)]
  split
  · rename_i hfault
    cases hsecret.symm.trans hfault
  · rename_i found hfound
    obtain rfl := Except.ok.inj (hsecret.symm.trans hfound)
    rfl

/-- A request whose message cannot be made is told apart from the others. -/
theorem checkSignature_of_message_error {cause : CanonicalFault}
    (hmessage : Signable.message request = .error (.canonical cause)) :
    checkSignature key request = .error (.invalid (.unsignable cause)) := by
  rw [checkSignature_of_usable husable, isAuthentic_of_message_error secret hmessage]

theorem checkSignature_of_message {message : Bytes} (hmessage : Signable.message request = .ok message) :
    checkSignature key request =
      if Hex.decode? (Stamped.stamp request).signature = some (hmac messageHash secret message) then .ok ()
      else .error .unauthorized := by
  rw [checkSignature_of_usable husable, isAuthentic_of_message secret hmessage]
  cases Hex.decode? (Stamped.stamp request).signature with
  | none => rfl
  | some signature =>
      by_cases hsame : hmac messageHash secret message = signature
      · have htrue : sameBytes (hmac messageHash secret message) signature = true := sameBytes_iff.mpr hsame
        rw [if_pos (congrArg some hsame.symm)]
        simp only [htrue]
      · have hfalse : sameBytes (hmac messageHash secret message) signature = false :=
          Bool.eq_false_iff.mpr (mt sameBytes_iff.mp hsame)
        rw [if_neg fun h => hsame (Option.some.inj h).symm]
        simp only [hfalse]

end

/-- All that the check of a signature may do: pass an authentic request, tell that one has no canonical
message, or refuse. -/
theorem checkSignature_cases (key : ProjectKey) (request : α)
    (hcanonical : ∀ fault, Signable.message request = .error fault → ∃ cause, fault = .canonical cause) :
    Authentic key request ∧ checkSignature key request = .ok () ∨
      Unsignable key request ∧ (∃ cause, checkSignature key request = .error (.invalid (.unsignable cause))) ∨
      ¬ Authentic key request ∧ ¬ Unsignable key request ∧
        checkSignature key request = .error .unauthorized := by
  by_cases husable : ∃ secret, Usable key request secret
  · obtain ⟨secret, husable⟩ := husable
    cases hmessage : Signable.message request with
    | error fault =>
        obtain ⟨cause, rfl⟩ := hcanonical fault hmessage
        refine Or.inr (Or.inl ⟨⟨secret, _, husable, hmessage⟩, cause, ?_⟩)
        exact checkSignature_of_message_error husable hmessage
    | ok message =>
        have hcheck := checkSignature_of_message husable hmessage
        split at hcheck
        · rename_i hsigned
          exact Or.inl ⟨⟨secret, message, husable, hmessage, hsigned⟩, hcheck⟩
        · rename_i hsigned
          refine Or.inr (Or.inr ⟨?_, ?_, hcheck⟩)
          · rintro ⟨secret', message', husable', hmessage', hsigned'⟩
            obtain rfl := husable.secret_eq husable'
            obtain rfl := Except.ok.inj (hmessage.symm.trans hmessage')
            exact hsigned hsigned'
          · rintro ⟨_, fault, -, hfault⟩
            cases hfault.symm.trans hmessage
  · refine Or.inr (Or.inr ⟨?_, ?_, ?_⟩)
    · rintro ⟨secret, _, h, -⟩
      exact husable ⟨secret, h⟩
    · rintro ⟨secret, _, h, -⟩
      exact husable ⟨secret, h⟩
    · exact checkSignature_of_not_usable fun secret h => husable ⟨secret, h⟩

theorem verifyAt_of_error {key : ProjectKey} {request : α} {fault : RequestFault}
    (hcheck : checkSignature key request = .error fault) (v : RequestVerifier NonceStore) (now : Instant) :
    v.verifyAt key request now = (.error fault, v) := by
  simp only [verifyAt, hcheck]

/-- A request that is authentic can fail at its timestamp and at its nonce only. -/
theorem verifyAt_of_ok {key : ProjectKey} {request : α} (hcheck : checkSignature key request = .ok ())
    (v : RequestVerifier NonceStore) (now : Instant) :
    v.verifyAt key request now =
      if isFresh v.maxAge (Stamped.stamp request).timestamp now = true ∧
          v.nonces.contains (ProjectRequest.projectKey request) (Stamped.stamp request).nonce = false then
        (.ok (), v.marking request)
      else (.error .unauthorized, v) := by
  simp only [verifyAt, hcheck, NonceKeeper.checkAndMark, NonceStore.checkAndMark]
  cases isFresh v.maxAge (Stamped.stamp request).timestamp now with
  | false => rfl
  | true => cases v.nonces.contains (ProjectRequest.projectKey request) (Stamped.stamp request).nonce <;> rfl

theorem not_contains_iff {s : NonceStore} {scope nonce : String} :
    s.contains scope nonce = false ↔ ∀ expiry, ¬ s.Tracks scope nonce expiry := by
  rw [Bool.eq_false_iff, ne_eq, NonceStore.contains_iff, not_exists]

/-- All that the verification of a request may do, and when. -/
theorem verifyAt_outcomes (v : RequestVerifier NonceStore) (key : ProjectKey) (request : α) (now : Instant)
    (hcanonical : ∀ fault, Signable.message request = .error fault → ∃ cause, fault = .canonical cause) :
    Acceptable v key request now ∧ v.verifyAt key request now = (.ok (), v.marking request) ∨
      Unsignable key request ∧
        (∃ cause, v.verifyAt key request now = (.error (.invalid (.unsignable cause)), v)) ∨
      ¬ Acceptable v key request now ∧ ¬ Unsignable key request ∧
        v.verifyAt key request now = (.error .unauthorized, v) := by
  rcases checkSignature_cases key request hcanonical with
    ⟨hauthentic, hcheck⟩ | ⟨hunsignable, cause, hcheck⟩ | ⟨hauthentic, hsignable, hcheck⟩
  · have hverify := verifyAt_of_ok hcheck v now
    split at hverify
    · rename_i h
      exact Or.inl ⟨⟨hauthentic, h.1, not_contains_iff.mp h.2⟩, hverify⟩
    · rename_i h
      refine Or.inr (Or.inr ⟨?_, fun hunsignable => not_authentic_of_unsignable hunsignable hauthentic, hverify⟩)
      intro hacceptable
      exact h ⟨hacceptable.fresh, not_contains_iff.mpr hacceptable.unused⟩
  · exact Or.inr (Or.inl ⟨hunsignable, cause, verifyAt_of_error hcheck v now⟩)
  · refine Or.inr (Or.inr ⟨?_, hsignable, verifyAt_of_error hcheck v now⟩)
    intro hacceptable
    exact hauthentic hacceptable.authentic

theorem decided_of_canonical (v : RequestVerifier NonceStore) (key : ProjectKey) (request : α) (now : Instant)
    (hcanonical : ∀ fault, Signable.message request = .error fault → ∃ cause, fault = .canonical cause) :
    Decided v key request now := by
  rcases verifyAt_outcomes v key request now hcanonical with
    ⟨hacceptable, hverify⟩ | ⟨hunsignable, cause, hverify⟩ | ⟨hacceptable, hsignable, hverify⟩
  · have hsignable : ¬ Unsignable key request := by
      intro hunsignable
      exact not_authentic_of_unsignable hunsignable hacceptable.authentic
    constructor <;> simp only [hverify]
    · simp [hacceptable]
    · simp [hsignable]
    · simp [hacceptable]
    · intro _ scope nonce expiry
      exact NonceStore.tracks_insertInto
    · intro _
      exact NonceStore.count_insertInto _ _ _ _
    · rfl
    · intro hne
      exact absurd rfl hne
  · have hacceptable : ¬ Acceptable v key request now := by
      intro hacceptable
      exact not_authentic_of_unsignable hunsignable hacceptable.authentic
    constructor <;> simp [hverify, hacceptable, hunsignable]
  · constructor <;> simp [hverify, hacceptable, hsignable]

end

/-- **What becomes of a request.** Whatever a verifier remembers, a request to initiate a payment and one
for its status are accepted just in case they are acceptable, are called invalid just in case their key can
be used and their message cannot be made, and get one refusal in every other case. An accepted request uses
up its nonce and changes nothing else; any other request changes nothing. -/
theorem verifyAt_decided (v : RequestVerifier NonceStore) (key : ProjectKey) (now : Instant) :
    (∀ request : InitRequest, Decided v key request now) ∧
      ∀ request : StatusRequest, Decided v key request now := by
  refine ⟨fun request => ?_, fun request => ?_⟩
  · apply decided_of_canonical
    intro fault hfault
    cases hfault
  · apply decided_of_canonical
    intro fault hfault
    rcases error_of_bind hfault with hbody | ⟨_, -, hbody⟩
    · exact ⟨.noTarget, StatusRequest.noTarget_of_body hbody⟩
    · cases hbody

end RequestVerifier

end PaymentCredentials
