import PaymentCredentials.Mac
import PaymentCredentials.Fault

/-!
Signed messages. A message that renders itself into a canonical byte string and names a hash can be
signed; one that also carries a signature can be checked against a key.
-/
namespace PaymentCredentials

/-- A message that can be signed. -/
class Signable (α : Type) where
  /-- The byte string that is signed. -/
  message : α → Except CredentialFault Bytes
  /-- The hash that it is signed with. -/
  hash : α → HashAlgorithm

/-- A message with its signature. -/
class Signed (α : Type) extends Signable α where
  signature : α → Except CredentialFault Bytes

/-- Whether two byte strings are the same. Every byte is looked at, whatever the bytes before it. -/
def sameBytes (a b : Bytes) : Bool :=
  a.length == b.length && (a.xor b).foldl (· ||| ·) 0 == 0

theorem foldl_or_eq_zero {bytes : Bytes} {acc : UInt8} :
    bytes.foldl (· ||| ·) acc = 0 ↔ acc = 0 ∧ ∀ b ∈ bytes, b = 0 := by
  induction bytes generalizing acc with
  | nil => simp
  | cons b bytes ih => rw [List.foldl_cons, ih, UInt8.or_eq_zero_iff, List.forall_mem_cons, and_assoc]

theorem sameBytes_iff {a b : Bytes} : sameBytes a b = true ↔ a = b := by
  simp only [sameBytes, Bool.and_eq_true, beq_iff_eq, foldl_or_eq_zero, true_and]
  constructor
  · rintro ⟨hlength, h⟩
    exact Bytes.eq_of_xor_eq_zero hlength h
  · rintro rfl
    exact ⟨rfl, Bytes.xor_self_eq_zero⟩

def sign {α : Type} [Signable α] (m : α) (key : Bytes) : Except CredentialFault Bytes := do
  return hmac (Signable.hash m) key (← Signable.message m)

/-- Whether the signature of a message was made with a key. A message without canonical form is reported
before a signature that cannot be read. -/
def isAuthentic {α : Type} [Signed α] (m : α) (key : Bytes) : Except CredentialFault Bool := do
  let expected ← sign m key
  let signature ← Signed.signature m
  return sameBytes expected signature

/-- A message that is rendered already. -/
structure RenderedMessage where
  body : Bytes
  hash : HashAlgorithm
  signature : Bytes

instance : Signed RenderedMessage where
  message m := .ok m.body
  hash m := m.hash
  signature m := .ok m.signature

end PaymentCredentials
