import PaymentCredentials.Settings

/-!
Inspection of tokens: the steps of authentication one by one, so that the one that fails is told. Expiry
is told last, of tokens that are otherwise in order.
-/
namespace PaymentCredentials.Console

/-- What is found of a token that can be read and deciphered. -/
structure Inspection where
  expiry : Instant
  expired : Bool
  claims : Claims

/-- The verdict on a token. -/
inductive Verdict
  | expired
  | noUser
  | valid
  deriving DecidableEq

def Inspection.verdict (i : Inspection) : Verdict :=
  if i.expired then .expired else if i.claims.user?.isNone then .noUser else .valid

/-- The step at which an inspection ends. From the second one on, the expiry is known. -/
inductive InspectionFault
  | unreadable (fault : CredentialFault)
  | unmatched (expiry : Instant) (fault : CredentialFault)
  | undecodable (expiry : Instant) (fault : CredentialFault)
  deriving DecidableEq

def inspectToken (settings : SessionSettings) (keychain : Keychain) (token : String) (now : Instant) :
    Except InspectionFault Inspection := do
  let a ← ((Authorization.new settings.hash settings.maxMessageSize).readWire
    (Text.trim token)).mapError .unreadable
  let key ← (keychain.matchKey a).mapError (.unmatched a.expiry)
  let opened ← (a.decode key.bytes).mapError (.undecodable a.expiry)
  return ⟨a.expiry, a.isExpiredAt now, opened.claims⟩

end PaymentCredentials.Console
