import PaymentCredentials.Fault

/-!
Random bytes. What an operation needs of them is drawn from a supply that its caller hands in.
-/
namespace PaymentCredentials

/-- Random bytes of a known count. -/
structure Draw (count : Nat) where
  bytes : Bytes
  size : bytes.length = count

/-- A supply of random bytes. -/
structure Entropy where
  supply : Bytes

/-- The first bytes of a supply, and what is left of it. -/
def Entropy.draw (count : Nat) (e : Entropy) : Except CredentialFault (Draw count × Entropy) :=
  if h : count ≤ e.supply.length then
    .ok (⟨e.supply.take count, by simp [h]⟩, ⟨e.supply.drop count⟩)
  else .error (.random "supply exhausted")

end PaymentCredentials
