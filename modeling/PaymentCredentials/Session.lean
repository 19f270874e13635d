import PaymentCredentials.Authorization
import PaymentCredentials.Cookie
import PaymentCredentials.Keychain

/-!
Sessions: authorizations that a server issues to its users and takes back from them. An issued token is
accepted until its expiry has passed. Whatever is wrong with a presented token, the answer is the same.
-/
namespace PaymentCredentials

/-- How sessions are issued and read. -/
structure SessionSettings where
  lifetime : Duration
  hash : HashAlgorithm
  maxMessageSize : UInt64
  cookie : CookieSettings
  deriving DecidableEq

/-- The lifetime of sessions by default, in seconds. -/
def defaultLifetime : UInt64 := 900

def SessionSettings.standard : SessionSettings :=
  ⟨⟨900 * nanosPerSecond⟩, .sha256, Authorization.defaultMaxMessageSize, .standard⟩

def systemUser : String := "root"

/-- A session as it is handed to its user. -/
structure IssuedSession where
  token : String
  expiresAt : Instant
  deriving DecidableEq

/-- The session as a JSON value: its token alone. -/
def IssuedSession.toJson (s : IssuedSession) : Json := .object [("Authorization", .text s.token)]

/-- Who issues and reads sessions: the keys trusted at present and the settings. -/
structure SessionAuthority where
  keychain : Keychain
  settings : SessionSettings

namespace SessionAuthority

/-- An authorization under the settings of an authority. -/
def blank (s : SessionAuthority) : Authorization :=
  .new s.settings.hash s.settings.maxMessageSize

def issueAt (s : SessionAuthority) (claims : Claims) (now : Instant) (e : Entropy) :
    Except CredentialFault (IssuedSession × Entropy) := do
  match now.add? s.settings.lifetime with
  | none => throw (.settings .lifetimeOutOfRange)
  | some expiresAt =>
    let key ← s.keychain.newest
    let (sealedClaims, e) ←
      ({ s.blank with claims := claims }.expiringAt expiresAt).encode key.bytes e
    return (⟨sealedClaims.toWire, sealedClaims.expiry⟩, e)

/-- Reads a token: the container, its expiry, the key that signed it, the claims in it. -/
def verifyAt (s : SessionAuthority) (token : String) (now : Instant) :
    Except CredentialFault Claims := do
  let a ← s.blank.readWire token
  if a.isExpiredAt now then throw (.expired a.container.timestamp)
  match s.keychain.matchKey a with
  | .error .noKeys => throw .unauthorized
  | .error fault => throw fault
  | .ok key => return (← a.decode key.bytes).claims

/-- The claims of a presented token. Claims that name no user are not accepted. -/
def authenticateAt (s : SessionAuthority) (token : String) (now : Instant) :
    Except CredentialFault Claims := do
  let claims ← (s.verifyAt token now).mapError CredentialFault.collapse
  if claims.user?.isNone then throw .unauthorized else return claims

/-- A text without blanks at its ends, if there is more to it. -/
def filled? (s : Option String) : Option String :=
  (s.map Text.trim).filter fun t => t ≠ ""

/-- The token of a request: the one in the header; if there is none, and cookies are accepted, the one in
the cookie. -/
def tokenOfRequest (s : SessionAuthority) (header cookie : Option String) : Option String :=
  match filled? header with
  | some token => some token
  | none => if s.settings.cookie.allowCookieAuth then filled? cookie else none

/-- The cookie for a session, if cookies are accepted. -/
def cookieFor (s : SessionAuthority) (session : IssuedSession) : Option String :=
  let cookie := s.settings.cookie
  if cookie.allowCookieAuth then
    some (CookieSettings.cookieName ++ "=" ++ session.token ++ "; Path=" ++ cookie.path ++
      "; Expires=" ++ session.expiresAt.httpDate ++ (if cookie.httpOnly then "; HttpOnly" else "") ++
      (if cookie.secure then "; Secure" else ""))
  else none

end SessionAuthority

end PaymentCredentials
