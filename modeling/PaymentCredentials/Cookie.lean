import PaymentCredentials.Json.Reader

/-!
The cookie that carries a session token.
-/
namespace PaymentCredentials

/-- Whether and how a session token travels in a cookie. -/
structure CookieSettings where
  /-- Whether a token is taken from the cookie where there is none in the header. -/
  allowCookieAuth : Bool
  httpOnly : Bool
  secure : Bool
  path : String
  deriving DecidableEq

namespace CookieSettings

def cookieName : String := "auth"

/-- Cookies are not accepted by default. -/
def standard : CookieSettings := ⟨false, true, false, "/v1"⟩

def toJson (c : CookieSettings) : Json :=
  .object [("allow_cookie_auth", .bool c.allowCookieAuth), ("http_only", .bool c.httpOnly),
    ("secure", .bool c.secure), ("path", .text c.path)]

open Json

def record : Record CookieSettings :=
  ⟨"struct CookieConfig",
    [.optional "allow_cookie_auth" Draft.toBool fun b c => { c with allowCookieAuth := b },
      .optional "http_only" Draft.toBool fun b c => { c with httpOnly := b },
      .optional "secure" Draft.toBool fun b c => { c with secure := b },
      .optional "path" Draft.toText fun s c => { c with path := s }]⟩

def read : Draft → Except Problem CookieSettings := record.read standard

end CookieSettings

end PaymentCredentials
