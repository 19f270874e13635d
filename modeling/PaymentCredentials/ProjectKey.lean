import PaymentCredentials.Key

/-!
Project keys: the names under which projects send requests, and the secrets they sign with.
-/
namespace PaymentCredentials

/-- A project key. -/
structure ProjectKey where
  name : String
  /-- The secret in hexadecimal text. -/
  secret : String
  active : Bool
  deriving DecidableEq

namespace ProjectKey

/-- A project key that is in use. -/
def new (name secret : String) : ProjectKey := ⟨name, secret, true⟩

def generate (name : String) (e : Entropy) : Except CredentialFault (ProjectKey × Entropy) := do
  let (key, e) ← Key.generate e
  return (new name key.toHex, e)

/-- Whether the key can be used: it has a name and is active. -/
def isValid (k : ProjectKey) : Bool := k.name ≠ "" && k.active

def secretBytes (k : ProjectKey) : Except CredentialFault Bytes :=
  match Hex.decode? k.secret with
  | some b => .ok b
  | none => .error .invalidKey

/-- What is shown of a project key: all but its secret. -/
def summary (k : ProjectKey) : String :=
  "ProjectKey \x7b key: " ++ Text.quoted k.name ++ ", secret: \"[REDACTED]\", active: " ++
    (if k.active then "true" else "false") ++ " \x7d"

def toJson (k : ProjectKey) : Json :=
  .object [("Key", .text k.name), ("Secret", .text k.secret), ("Active", .bool k.active)]

open Json

def record : Record ProjectKey :=
  ⟨"struct ProjectKey",
    [.mandatory "Key" Draft.toText fun s k => { k with name := s },
      .mandatory "Secret" Draft.toText fun s k => { k with secret := s },
      .mandatory "Active" Draft.toBool fun b k => { k with active := b }]⟩

def read : Draft → Except Problem ProjectKey := record.read ⟨"", "", false⟩

end ProjectKey

end PaymentCredentials
