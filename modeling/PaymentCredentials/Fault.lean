import PaymentCredentials.Json.Reader
import PaymentCredentials.Gzip

/-!
What can go wrong with credentials. A fault is the server's own, or the presented credential is not
acceptable; faults of the second kind are told apart here, and become one on their way out.
-/
namespace PaymentCredentials

/-- Why the text of a container or a signature cannot be read. -/
inductive Malformation
  | exceedsSizeLimit
  | notBase64
  | noSeparator
  | badTimestamp
  | tooShort
  | ciphertextExceedsLimit
  | signatureNotHex
  | notText
  | other (reason : String)
  deriving DecidableEq

/-- Why settings cannot be used. -/
inductive SettingsFault
  | zeroLifetime
  | lifetimeTooLarge
  | zeroMessageSize
  | messageSizeTooLarge (limit : Nat)
  | zeroRequestAge
  | zeroKeptKeys
  | zeroOverlap
  | keyNotHex (index : Nat)
  | lifetimeOutOfRange
  | unreadable (problem : Json.Problem)
  | cannotOpen (path reason : String)
  | other (reason : String)
  deriving DecidableEq

/-- Why a payload cannot be decompressed. -/
inductive CompressionFault
  | gzip (fault : Gzip.Fault)
  | other (reason : String)
  deriving DecidableEq

/-- Why a payload cannot be read. -/
inductive SerializationFault
  | json (problem : Json.Problem)
  | other (reason : String)
  deriving DecidableEq

/-- Why a message has no canonical form. -/
inductive CanonicalFault
  | noTarget
  | other (reason : String)
  deriving DecidableEq

/-- What can go wrong with keys, signatures and containers. -/
inductive CredentialFault
  | invalidKey
  | noKeys
  | noMatchingKey
  | settings (fault : SettingsFault)
  | random (reason : String)
  | unauthorized
  | expired (timestamp : Int64)
  | undecipherable
  | malformed (fault : Malformation)
  | staleTimestamp (timestamp : Int64)
  | replayedNonce
  | compression (fault : CompressionFault)
  | serialization (fault : SerializationFault)
  | canonical (fault : CanonicalFault)
  | messageTooLarge (size limit : Nat)
  | internal (reason : String)
  deriving DecidableEq

def Malformation.message : Malformation → String
  | .exceedsSizeLimit => "container exceeds size limit"
  | .notBase64 => "invalid base64"
  | .noSeparator => "missing timestamp separator"
  | .badTimestamp => "invalid timestamp"
  | .tooShort => "container too short"
  | .ciphertextExceedsLimit => "ciphertext exceeds size limit"
  | .signatureNotHex => "invalid signature format"
  | .notText => "read error"
  | .other reason => reason

def SettingsFault.message : SettingsFault → String
  | .zeroLifetime => "session_lifetime_secs must be at least 1"
  | .lifetimeTooLarge => "session_lifetime_secs is too large"
  | .zeroMessageSize => "max_msg_size must be at least 1"
  | .messageSizeTooLarge limit => "max_msg_size must be at most " ++ Decimal.ofInt limit
  | .zeroRequestAge => "request_max_age_secs must be at least 1"
  | .zeroKeptKeys => "key_retention.count must be at least 1"
  | .zeroOverlap => "key_retention.secs must be at least 1"
  | .keyNotHex index => "auth_keys[" ++ Decimal.ofInt index ++ "] is not valid hex"
  | .lifetimeOutOfRange => "session lifetime out of range"
  | .unreadable problem => problem.message
  | .cannotOpen path reason => "cannot open " ++ path ++ ": " ++ reason
  | .other reason => reason

def CompressionFault.message : CompressionFault → String
  | .gzip fault => fault.message
  | .other reason => reason

def SerializationFault.message : SerializationFault → String
  | .json problem => problem.message
  | .other reason => reason

def CanonicalFault.message : CanonicalFault → String
  | .noTarget => "neither payment id nor ident set"
  | .other reason => reason

namespace CredentialFault

def message : CredentialFault → String
  | .invalidKey => "invalid key"
  | .noKeys => "no keys in keychain"
  | .noMatchingKey => "no matching key for signature"
  | .settings fault => "invalid configuration: " ++ fault.message
  | .random reason => "secure random source failed: " ++ reason
  | .unauthorized => "unauthorized"
  | .expired t => "authorization expired at " ++ Decimal.ofInt t.toInt
  | .undecipherable => "error decrypting container"
  | .malformed fault => "malformed authorization: " ++ fault.message
  | .staleTimestamp t =>
    "request timestamp " ++ Decimal.ofInt t.toInt ++ " outside of the accepted window"
  | .replayedNonce => "nonce already used"
  | .compression fault => "compression error: " ++ fault.message
  | .serialization fault => "serialization error: " ++ fault.message
  | .canonical fault => "cannot build canonical message: " ++ fault.message
  | .messageTooLarge size limit =>
    "message too big: " ++ Decimal.ofInt size ++ " bytes exceeds limit of " ++ Decimal.ofInt limit
  | .internal reason => "internal error: " ++ reason

/-- The number of a fault in logs and answers. -/
def code : CredentialFault → Nat
  | .invalidKey => 1000
  | .noKeys => 1001
  | .settings _ => 1002
  | .random _ => 1003
  | .unauthorized => 3000
  | .noMatchingKey => 3001
  | .expired _ => 3002
  | .undecipherable => 3003
  | .malformed _ => 3004
  | .staleTimestamp _ => 3005
  | .replayedNonce => 3006
  | .compression _ => 5000
  | .serialization _ => 5001
  | .canonical _ => 5002
  | .messageTooLarge _ _ => 7000
  | .internal _ => 9999

/-- Whether the fault means that the presented credential is not acceptable. An empty keychain does not:
that is the server's own fault. -/
def isUnauthorized : CredentialFault → Bool
  | .unauthorized | .noMatchingKey | .expired _ | .undecipherable | .malformed _ | .staleTimestamp _
  | .replayedNonce | .compression _ | .serialization _ => true
  | _ => false

/-- What is told of a fault outside: of a credential that is not acceptable, nothing more than that. -/
def collapse (fault : CredentialFault) : CredentialFault :=
  if fault.isUnauthorized then .unauthorized else fault

/-- The HTTP status of an answer to a request that met the fault. -/
def httpStatus (fault : CredentialFault) : Nat := if fault.isUnauthorized then 401 else 500

end CredentialFault

end PaymentCredentials
