import PaymentCredentials.Entropy
import PaymentCredentials.Hex
import PaymentCredentials.Text.Blank

/-!
Keys that sign and verify. A key is a byte string of any length; settings give it as hexadecimal text.
-/
namespace PaymentCredentials

/-- A key. -/
structure Key where
  bytes : Bytes
  deriving DecidableEq

namespace Key

def generatedSize : Nat := 32

/-- A key from hexadecimal text. Blanks around it do not matter. -/
def ofHex (s : String) : Except CredentialFault Key :=
  match Hex.decode? (Text.trim s) with
  | some b => .ok ⟨b⟩
  | none => .error .invalidKey

def toHex (k : Key) : String := Hex.encode k.bytes

def generate (e : Entropy) : Except CredentialFault (Key × Entropy) := do
  let (b, e) ← e.draw generatedSize
  return (⟨b.bytes⟩, e)

/-- What is shown of a key: its size. -/
def summary (k : Key) : String :=
  "Key([REDACTED; " ++ Decimal.ofInt k.bytes.length ++ " bytes])"

end Key

end PaymentCredentials
