import PaymentCredentials.Canonical
import PaymentCredentials.Hex
import PaymentCredentials.Instant
import PaymentCredentials.Message.Member
import PaymentCredentials.Signature

/-!
The stamp that every message between a project and the server ends with: the time of signing, a nonce and
a signature. The signature is made with the secret of the project over the body of the message, the
timestamp and the nonce.
-/
namespace PaymentCredentials

open Json

/-- The stamp of a message. -/
structure Stamp where
  timestamp : Int64
  nonce : String
  /-- The signature in hexadecimal text. -/
  signature : String
  deriving DecidableEq

namespace Stamp

def blank : Stamp := ⟨0, "", ""⟩

def signatureBytes (s : Stamp) : Except CredentialFault Bytes :=
  match Hex.decode? s.signature with
  | some b => .ok b
  | none => .error (.malformed .signatureNotHex)

def members (s : Stamp) : List (String × Json) :=
  Message.intMember "Timestamp" s.timestamp.toInt ++ Message.textMember "Nonce" s.nonce ++
    Message.textMember "Signature" s.signature

/-- The fields of a stamp within those of a message. -/
def fields {σ : Type} (update : (Stamp → Stamp) → σ → σ) : List (RecordField σ) :=
  [.optional "Timestamp" Message.readInt64 fun n => update fun s => { s with timestamp := n },
    .optional "Nonce" Draft.toText fun n => update fun s => { s with nonce := n },
    .optional "Signature" Draft.toText fun t => update fun s => { s with signature := t }]

end Stamp

/-- The hash that messages are signed with. -/
def messageHash : HashAlgorithm := .sha256

/-- A message that carries a stamp. -/
class Stamped (α : Type) where
  /-- What is signed besides the timestamp and the nonce. -/
  body : α → Except CredentialFault Bytes
  stamp : α → Stamp
  withStamp : Stamp → α → α

instance {α : Type} [Stamped α] : Signed α where
  message m := do
    let s := Stamped.stamp m
    return (← Stamped.body m) ++ Canonical.tail s.timestamp s.nonce
  hash _ := messageHash
  signature m := (Stamped.stamp m).signatureBytes

/-- Stamps a message: sets its timestamp and its nonce, and signs it. -/
def signAt {α : Type} [Stamped α] (m : α) (now : Instant) (nonce : String) (secret : Bytes) :
    Except CredentialFault α := do
  let dated := Stamped.withStamp ⟨now.timestamp, nonce, (Stamped.stamp m).signature⟩ m
  let signature ← sign dated secret
  return Stamped.withStamp ⟨now.timestamp, nonce, Hex.encode signature⟩ dated

/-- A stamped message that a project sends under its key. -/
class ProjectRequest (α : Type) extends Stamped α where
  /-- The name of the project key. -/
  projectKey : α → String

end PaymentCredentials
