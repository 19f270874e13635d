import PaymentCredentials.Fault
import PaymentCredentials.Json.Ordered

/-!
Claims: what a container says of its bearer, as the members of a JSON object. Claims travel as compressed
JSON text.
-/
namespace PaymentCredentials

/-- Claims by their names, in ascending order. -/
structure Claims where
  members : List (String × Json)
  ordered : Json.OrderedMembers members

namespace Claims

def userKey : String := "userID"

def empty : Claims := ⟨[], .nil⟩

def get? (c : Claims) (key : String) : Option Json := Json.member? key c.members

/-- The claims with one more, or with a new value for it. -/
def insert (c : Claims) (key : String) (value : OrderedJson) : Claims :=
  ⟨Json.insertMember key value.value c.members, c.ordered.insert value.ordered⟩

def ofUser (id : String) : Claims := empty.insert userKey (.ofText id)

/-- The user that the claims name, if they do so by a text. -/
def user? (c : Claims) : Option String :=
  match c.get? userKey with
  | some (.text id) => some id
  | _ => none

def size (c : Claims) : Nat := c.members.length

def toJson (c : Claims) : Json := .object c.members

/-- Claims from a JSON value. -/
def read : Json.Draft → Except Json.Problem Claims
  | .object members closed =>
    match h : Json.Draft.toJsonMembers (Json.maxDepth - 1) members [] with
    | .ok read =>
      if closed then .ok ⟨read, Json.Draft.ordered_toJsonMembers members .nil h⟩
      else .error .malformed
    | .error problem => .error problem
  | d => d.mismatch "a map"

def compress (c : Claims) : Bytes := Gzip.compress c.toJson.compact

/-- The claims of a compressed text, if the text is no longer than a limit. -/
def decompress (limit : Nat) (b : Bytes) : Except CredentialFault Claims := do
  let text ← (Gzip.decompress limit b).mapError fun fault => .compression (.gzip fault)
  (Json.decode read text).mapError fun problem => .serialization (.json problem)

end Claims

end PaymentCredentials
