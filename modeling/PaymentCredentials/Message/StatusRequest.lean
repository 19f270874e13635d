import PaymentCredentials.Message.Stamp
import PaymentCredentials.RequestFault
import PaymentCredentials.Web.Form

/-!
Requests for the status of a payment. The payment is named by the path of the request, by its id or by
the project's own name for it; the rest of the request is its query.
-/
namespace PaymentCredentials

/-- A request for the status of a payment. -/
structure StatusRequest where
  projectKey : String
  paymentId : Option String
  ident : Option String
  stamp : Stamp
  deriving DecidableEq

namespace StatusRequest

def new (projectKey : String) (paymentId ident : Option String) : StatusRequest :=
  ⟨projectKey, paymentId, ident, .blank⟩

/-- What the payment is named by: its id, if that is not empty, and else its ident. -/
def target? (r : StatusRequest) : Option String :=
  ([r.paymentId, r.ident].filterMap id).find? fun s => s ≠ ""

instance : ProjectRequest StatusRequest where
  body r :=
    match r.target? with
    | none => .error (.canonical .noTarget)
    | some target => .ok (Canonical.field r.projectKey ++ Canonical.field target)
  stamp r := r.stamp
  withStamp s r := { r with stamp := s }
  projectKey r := r.projectKey

def lastValue? (name : String) (fields : List (String × String)) : Option String :=
  (fields.reverse.find? fun f => f.1 = name).map (·.2)

def ofQuery (paymentId ident : Option String) (query : String) : Except Invalidity StatusRequest := do
  let fields := Web.Form.ofQuery query
  let projectKey := (lastValue? "ProjectKey" fields).getD ""
  if projectKey = "" then throw .noProjectKey
  let timestamp ← (Decimal.readInt64 ((lastValue? "Timestamp" fields).getD "")).mapError .badTimestamp
  let nonce := (lastValue? "Nonce" fields).getD ""
  if nonce = "" then throw .noNonce
  let signature := (lastValue? "Signature" fields).getD ""
  if signature = "" then throw .noSignature
  return ⟨projectKey, paymentId.filter fun s => s ≠ "", ident.filter fun s => s ≠ "",
    ⟨timestamp, nonce, signature⟩⟩

def toQuery (r : StatusRequest) : String :=
  Web.Form.toQuery [("ProjectKey", r.projectKey), ("Timestamp", Decimal.ofInt r.stamp.timestamp.toInt),
    ("Nonce", r.stamp.nonce), ("Signature", r.stamp.signature)]

end StatusRequest

end PaymentCredentials
