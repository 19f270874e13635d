import PaymentCredentials.Proofs.RequestDecision
import PaymentCredentials.Proofs.RequestText

/-!
Signed requests that arrive. The stamp of a message is made over its body, and the body comes back from what
the message travels as; so a request that a project signed is accepted where it arrives, as long as its
timestamp is near enough and its nonce was not used before.
-/
namespace PaymentCredentials

/-- Messages whose bodies say nothing of their stamps. -/
class LawfulStamped (α : Type) [Stamped α] : Prop where
  stamp_withStamp : ∀ (s : Stamp) (m : α), Stamped.stamp (Stamped.withStamp s m) = s
  body_withStamp : ∀ (s : Stamp) (m : α), Stamped.body (Stamped.withStamp s m) = Stamped.body m
  withStamp_withStamp : ∀ (s t : Stamp) (m : α),
    Stamped.withStamp s (Stamped.withStamp t m) = Stamped.withStamp s m

instance : LawfulStamped InitRequest := ⟨fun _ _ => rfl, fun _ _ => rfl, fun _ _ _ => rfl⟩

instance : LawfulStamped StatusRequest := ⟨fun _ _ => rfl, fun _ _ => rfl, fun _ _ _ => rfl⟩

/-- The stamp that is made for a body. -/
def Stamp.made (signing : Instant) (nonce : String) (secret body : Bytes) : Stamp :=
  ⟨signing.timestamp, nonce,
    Hex.encode (hmac messageHash secret (body ++ Canonical.tail signing.timestamp nonce))⟩

theorem Stamp.signature_made_ne_empty (signing : Instant) (nonce : String) (secret body : Bytes) :
    (made signing nonce secret body).signature ≠ "" := by
  refine Hex.encode_ne_empty fun hnil => ?_
  have hlength := congrArg List.length hnil
  rw [length_hmac] at hlength
  cases hlength

section

variable {α : Type}

theorem message_of_stamp [Stamped α] {m : α} {body : Bytes} (hbody : Stamped.body m = .ok body) :
    Signable.message m =
      .ok (body ++ Canonical.tail (Stamped.stamp m).timestamp (Stamped.stamp m).nonce) := by
  simp only [Signable.message, hbody]
  rfl

/-- Signing sets the stamp that is made for the body, whatever the stamp was. -/
theorem signAt_of_body [Stamped α] [LawfulStamped α] {m : α} {body : Bytes}
    (hbody : Stamped.body m = .ok body) (signing : Instant) (nonce : String) (secret : Bytes) :
    signAt m signing nonce secret = .ok (Stamped.withStamp (.made signing nonce secret body) m) := by
  have hmessage := message_of_stamp ((LawfulStamped.body_withStamp
    ⟨signing.timestamp, nonce, (Stamped.stamp m).signature⟩ m).trans hbody)
  rw [LawfulStamped.stamp_withStamp] at hmessage
  have hsign : sign (Stamped.withStamp ⟨signing.timestamp, nonce, (Stamped.stamp m).signature⟩ m) secret =
      .ok (hmac messageHash secret (body ++ Canonical.tail signing.timestamp nonce)) :=
    (bind_of_ok hmessage _).trans rfl
  rw [signAt, bind_of_ok hsign]
  exact congrArg Except.ok (LawfulStamped.withStamp_withStamp _ _ m)

namespace RequestVerifier

/-- A request with the stamp that is made for its body can fail at its timestamp and at its nonce only. -/
theorem verifyAt_made [ProjectRequest α] {key : ProjectKey} {request : α} {secret body : Bytes}
    {signing : Instant} {nonce : String} (husable : Usable key request secret)
    (hbody : Stamped.body request = .ok body)
    (hstamp : Stamped.stamp request = .made signing nonce secret body) (nonces : NonceStore) (window : UInt64)
    (now : Instant) :
    ((new nonces window).verifyAt key request now).1 =
      if (now.seconds - signing.seconds).natAbs ≤ window.toNat ∧ nonces.contains key.name nonce = false then
        .ok ()
      else .error .unauthorized := by
  have hmessage := message_of_stamp hbody
  have hcheck := checkSignature_of_message husable hmessage
  rw [hstamp] at hcheck
  have hcheck : checkSignature key request = .ok () := hcheck.trans (if_pos (Hex.decode?_encode _))
  have hfresh : isFresh (new nonces window).maxAge (Stamp.made signing nonce secret body).timestamp now = true ↔
      (now.seconds - signing.seconds).natAbs ≤ window.toNat :=
    isFresh_timestamp_iff nonces window signing now
  rw [verifyAt_of_ok hcheck, hstamp, ← husable.addressed]
  simp only [hfresh]
  split
  · rename_i h
    exact (if_pos h).symm
  · rename_i h
    exact (if_neg h).symm

end RequestVerifier

end

theorem StatusRequest.body_of_target {r : StatusRequest} {target : String} (h : r.target? = some target) :
    Stamped.body r = .ok (Canonical.field r.projectKey ++ Canonical.field target) := by
  simp only [Stamped.body, h]

namespace RequestVerifier

/-- **What a project signs is accepted where it arrives.** Let a project key be named and active, and its
secret be legible. A request to initiate a payment that names the key is signed with the secret, is read from
its JSON text as it was signed, and is accepted if the whole seconds of signing and of arrival are no further
apart than the window and the nonce of the project is not tracked; else it is unauthorized. So is a request
for a status that names the key and a payment, if its nonce is not empty: it is read from its path and its
query. This holds for every window, whatever nonces the verifier tracks and whatever texts, maps and integers
the request holds. -/
theorem accepted_where_it_arrives {key : ProjectKey} {secret : Bytes} (hnamed : key.name ≠ "")
    (hactive : key.active = true) (hsecret : Hex.decode? key.secret = some secret) (nonces : NonceStore)
    (window : UInt64) (signing now : Instant) (nonce : String) :
    (∀ request : InitRequest, request.projectKey = key.name →
      ∃ signed, signAt request signing nonce secret = .ok signed ∧
        InitRequest.ofBytes signed.toJson.compact = .ok signed ∧
        ((new nonces window).verifyAt key signed now).1 =
          if (now.seconds - signing.seconds).natAbs ≤ window.toNat ∧ nonces.contains key.name nonce = false then
            .ok ()
          else .error .unauthorized) ∧
    ∀ (request : StatusRequest) (payment : String), request.projectKey = key.name → payment ≠ "" →
      request.paymentId = some payment ∨ request.ident = some payment → nonce ≠ "" →
      ∃ signed received, signAt request signing nonce secret = .ok signed ∧
        StatusRequest.ofQuery signed.paymentId signed.ident signed.toQuery = .ok received ∧
        ((new nonces window).verifyAt key received now).1 =
          if (now.seconds - signing.seconds).natAbs ≤ window.toNat ∧ nonces.contains key.name nonce = false then
            .ok ()
          else .error .unauthorized := by
  constructor
  · intro request hproject
    have hbody : Stamped.body request = .ok request.body := rfl
    have husable : Usable key (Stamped.withStamp (.made signing nonce secret request.body) request) secret :=
      ⟨hnamed, hactive, hproject.symm, hsecret⟩
    exact ⟨_, signAt_of_body hbody signing nonce secret, InitRequest.ofBytes_compact _,
      verifyAt_made husable hbody rfl nonces window now⟩
  · intro request payment hproject hfilled hpayment hnonce
    obtain ⟨target, htarget⟩ := StatusRequest.exists_target hfilled hpayment
    have hbody := StatusRequest.body_of_target htarget
    have hread := fun body => StatusRequest.ofQuery_toQuery
      (r := Stamped.withStamp (.made signing nonce secret body) request)
      (fun hempty => hnamed (hproject.symm.trans hempty)) hnonce
      (Stamp.signature_made_ne_empty signing nonce secret body) request.paymentId request.ident
    refine ⟨_, _, signAt_of_body hbody signing nonce secret, hread _, ?_⟩
    apply verifyAt_made ⟨hnamed, hactive, hproject.symm, hsecret⟩ _ rfl
    exact StatusRequest.body_of_target ((StatusRequest.target?_filter request _ _).trans htarget)

/-- The key of a market. -/
def market : ProjectKey := .new "Käse & Söhne+1" "00fF10"

/-- An order of the market, with the least integers there are. -/
def order : InitRequest :=
  ⟨market.name, "100% \"+\"", some Int64.minValue, some Int8.minValue, "EUR", "", none, some "", none, none,
    some ⟨[("b", "ü"), ("a", "")], by decide⟩, .blank⟩

/-- When it is signed, and the last second at which it is accepted. -/
def sending : Instant := ⟨1700000000, 999999999, by decide, by decide, by decide⟩

def arriving : Instant := ⟨1700000060, 999999999, by decide, by decide, by decide⟩

/-- The nonces of the market so far. -/
def before : NonceStore := ⟨[⟨market.name, [("n&", 1700000000)]⟩]⟩

/-- The order, and a request for what became of it, are accepted at the end of the window. -/
theorem accepted_where_it_arrives_market : market.name ≠ "" ∧ market.active = true ∧
    Hex.decode? market.secret = some [0x00, 0xFF, 0x10] ∧
    (∃ signed, signAt order sending "n&1" [0x00, 0xFF, 0x10] = .ok signed ∧
      InitRequest.ofBytes signed.toJson.compact = .ok signed ∧
      ((new before 60).verifyAt market signed arriving).1 = .ok ()) ∧
    ∃ signed received,
      signAt (StatusRequest.new market.name (some "") (some order.ident)) sending "n&1" [0x00, 0xFF, 0x10] =
        .ok signed ∧
      StatusRequest.ofQuery signed.paymentId signed.ident signed.toQuery = .ok received ∧
      ((new before 60).verifyAt market received arriving).1 = .ok () := by
  have hnamed : market.name ≠ "" := by decide
  have hsecret : Hex.decode? market.secret = some [0x00, 0xFF, 0x10] := by decide +kernel
  have hadmitted : (arriving.seconds - sending.seconds).natAbs ≤ (60 : UInt64).toNat ∧
      before.contains market.name "n&1" = false := by
    decide
  obtain ⟨hinit, hstatus⟩ := accepted_where_it_arrives hnamed rfl hsecret before 60 sending arriving "n&1"
  obtain ⟨signed, hsign, hread, hverify⟩ := hinit order rfl
  obtain ⟨signed', received, hsign', hread', hverify'⟩ :=
    hstatus (.new market.name (some "") (some order.ident)) order.ident rfl (by decide) (Or.inr rfl) (by decide)
  exact ⟨hnamed, rfl, hsecret, ⟨signed, hsign, hread, hverify.trans (if_pos hadmitted)⟩,
    signed', received, hsign', hread', hverify'.trans (if_pos hadmitted)⟩

end RequestVerifier

end PaymentCredentials
