import PaymentCredentials.Fault

/-!
What can go wrong with a request of a project: it says something that cannot be, or it is not authentic,
or the server itself is at fault.
-/
namespace PaymentCredentials

/-- The fields of a request that are checked. -/
inductive RequestField
  | projectKey
  | ident
  | amount
  | subunits
  | currency
  | country
  | timestamp
  | nonce
  | signature
  | locale
  | callbackURL
  | returnURL
  deriving DecidableEq, Repr

def RequestField.name : RequestField → String
  | .projectKey => "ProjectKey"
  | .ident => "Ident"
  | .amount => "Amount"
  | .subunits => "Subunits"
  | .currency => "Currency"
  | .country => "Country"
  | .timestamp => "Timestamp"
  | .nonce => "Nonce"
  | .signature => "Signature"
  | .locale => "Locale"
  | .callbackURL => "CallbackURL"
  | .returnURL => "ReturnURL"

/-- Why a request is no valid one. -/
inductive Invalidity
  | missing (field : RequestField)
  | invalid (field : RequestField)
  | negativeAmount (amount : Int64)
  | signatureNotHex
  | unreadable (problem : Json.Problem)
  | noProjectKey
  | badTimestamp (fault : Decimal.Fault)
  | noNonce
  | noSignature
  | unsignable (fault : CanonicalFault)
  | other (reason : String)
  deriving DecidableEq

def Invalidity.message : Invalidity → String
  | .missing field => "missing " ++ field.name
  | .invalid field => "invalid " ++ field.name
  | .negativeAmount amount => "invalid Amount: " ++ Decimal.ofInt amount.toInt
  | .signatureNotHex => "invalid Signature format"
  | .unreadable problem => "invalid JSON: " ++ problem.message
  | .noProjectKey => "no project key"
  | .badTimestamp fault => "invalid timestamp: " ++ fault.message
  | .noNonce => "no nonce"
  | .noSignature => "no signature"
  | .unsignable fault => fault.message
  | .other reason => reason

/-- What can go wrong with a request. -/
inductive RequestFault
  | invalid (cause : Invalidity)
  | unauthorized
  | credential (fault : CredentialFault)
  deriving DecidableEq

namespace RequestFault

def message : RequestFault → String
  | .invalid cause => "invalid request: " ++ cause.message
  | .unauthorized => "unauthorized"
  | .credential fault => fault.message

/-- Whether the fault means that the request is not authentic. -/
def isUnauthorized : RequestFault → Bool
  | .invalid _ => false
  | .unauthorized => true
  | .credential fault => fault.isUnauthorized

def httpStatus : RequestFault → Nat
  | .invalid _ => 400
  | .unauthorized => 401
  | .credential fault => fault.httpStatus

end RequestFault

end PaymentCredentials
