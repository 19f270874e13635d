import PaymentCredentials.Message.InitResponse
import PaymentCredentials.Proofs.SignedTransport

/-!
Confirmations repeat what was signed. A request and the response to it are rendered by themselves, from
different records, and the response leaves out what is empty or zero in the request; yet the bytes of the
confirmation are those of the request between its project key and its stamp.
-/
namespace PaymentCredentials

namespace Canonical

/-- A text that is left out because it is empty leaves the trace it had. -/
theorem optional_filter (s : Option String) : optional (s.filter fun t => t ≠ "") = optional s := by
  cases s with
  | none => rfl
  | some t =>
      by_cases hempty : t = ""
      · rw [hempty]
        rfl
      · rw [Option.filter_some, if_pos (decide_eq_true hempty)]

/-- A text leaves its bytes if there is one that is not empty. -/
theorem optional_eq (s : Option String) :
    optional s = ((s.filter fun t => t ≠ "").map utf8).getD [] := by
  rw [← optional_filter]
  cases s.filter fun t => t ≠ "" <;> rfl

end Canonical

/-- A number that is left out because it is zero counts as it did. -/
theorem getD_filter_ne_zero (n : Option Int64) : (n.filter fun i => i ≠ 0).getD 0 = n.getD 0 := by
  cases n with
  | none => rfl
  | some i =>
      by_cases hzero : i = 0
      · rw [hzero]
        rfl
      · rw [Option.filter_some, if_pos (decide_eq_true hzero)]

/-- The body of a request is its project key and the body of its confirmation. -/
theorem InitRequest.body_eq (r : InitRequest) :
    r.body = utf8 r.projectKey ++ (Confirmation.ofRequest r).body := by
  simp only [body, Confirmation.body, Confirmation.ofRequest, Canonical.optional_filter, getD_filter_ne_zero,
    Canonical.field, List.append_assoc]

theorem PaymentInfo.body_eq (p : PaymentInfo) :
    p.body = utf8 p.paymentId ++ utf8 p.created ++ utf8 p.token ++
      ((p.redirectURL.filter fun url => url ≠ "").map utf8).getD [] := by
  rw [body, Canonical.optional_eq]
  rfl

instance : LawfulStamped InitResponse := ⟨fun _ _ => rfl, fun _ _ => rfl, fun _ _ _ => rfl⟩

/-- The signed bytes of a response are its confirmation, its payment and the end of its stamp. -/
theorem InitResponse.message_new (c : Confirmation) (p : PaymentInfo) (stamp : Stamp) :
    Signable.message { new c p with stamp := stamp } =
      .ok (c.body ++ p.body ++ Canonical.tail stamp.timestamp stamp.nonce) := by
  have hbody : Stamped.body { new c p with stamp := stamp } = .ok (c.body ++ p.body) := rfl
  exact message_of_stamp hbody

/-- **A confirmation repeats what was signed.** Whatever a request holds, and whatever is unset, empty or zero in
it: with any stamp, its signed bytes are its project key, some bytes in the middle, and its timestamp and nonce.
The signed bytes of the response that confirms it begin with the very same bytes from the middle; behind them
stand what is told of the payment, with the address for redirection if there is one, and the timestamp and the
nonce of the response. These may be any, and are those of signing once the response is signed. -/
theorem confirmation_echoes (r : InitRequest) : ∃ echoed : Bytes,
    (∀ stamp : Stamp, Signable.message { r with stamp := stamp } =
      .ok (utf8 r.projectKey ++ echoed ++ Canonical.tail stamp.timestamp stamp.nonce)) ∧
    ∀ p : PaymentInfo,
      (∀ stamp : Stamp, Signable.message { InitResponse.new (.ofRequest r) p with stamp := stamp } =
        .ok (echoed ++ (utf8 p.paymentId ++ utf8 p.created ++ utf8 p.token ++
          ((p.redirectURL.filter fun url => url ≠ "").map utf8).getD []) ++
          Canonical.tail stamp.timestamp stamp.nonce)) ∧
      ∀ signing nonce secret, ∃ signature, signAt (InitResponse.new (.ofRequest r) p) signing nonce secret =
        .ok { InitResponse.new (.ofRequest r) p with stamp := ⟨signing.timestamp, nonce, signature⟩ } := by
  refine ⟨(Confirmation.ofRequest r).body, ?_, fun p => ⟨?_, ?_⟩⟩
  · intro stamp
    have hbody : Stamped.body { r with stamp := stamp } =
        .ok (utf8 r.projectKey ++ (Confirmation.ofRequest r).body) := congrArg Except.ok r.body_eq
    exact message_of_stamp hbody
  · intro stamp
    rw [InitResponse.message_new, p.body_eq]
  · intro signing nonce secret
    have hbody : Stamped.body (InitResponse.new (.ofRequest r) p) =
        .ok ((Confirmation.ofRequest r).body ++ p.body) := rfl
    exact ⟨_, signAt_of_body hbody signing nonce secret⟩

end PaymentCredentials
