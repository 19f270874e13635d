import PaymentCredentials.Base64
import PaymentCredentials.Entropy

/-!
Nonces: values that a sender gives each message, so that a message that is sent twice is told apart from
two messages.
-/
namespace PaymentCredentials

/-- A nonce. Any text is one. -/
structure Nonce where
  value : String
  deriving DecidableEq

namespace Nonce

/-- Characters in a generated nonce, and the most that a request may carry. -/
def maxLength : Nat := 32

/-- The nonce of a draw of random bytes: the beginning of their base64 text. -/
def ofDraw (b : Bytes) : Nonce := ⟨String.ofList ((Base64.digits b).take maxLength)⟩

def generate (e : Entropy) : Except CredentialFault (Nonce × Entropy) := do
  let (b, e) ← e.draw maxLength
  return (ofDraw b.bytes, e)

def read (d : Json.Draft) : Except Json.Problem Nonce := d.toText.map Nonce.mk

def toJson (n : Nonce) : Json := .text n.value

end Nonce

end PaymentCredentials
