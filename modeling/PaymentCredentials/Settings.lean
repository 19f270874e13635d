import PaymentCredentials.Clock
import PaymentCredentials.Session

/-!
The settings of the credential layer. Everything has a default, so that an empty JSON object gives
settings that can be used.
-/
namespace PaymentCredentials

open Json

def HashAlgorithm.names : List String := all.map name

def HashAlgorithm.ofName (s : String) : Except Problem HashAlgorithm :=
  match all.find? fun h => h.name = s with
  | some h => .ok h
  | none => .error (.unknownVariant s names)

/-- A hash from its name, or from an object with nothing under its name. -/
def HashAlgorithm.read : Draft → Except Problem HashAlgorithm
  | .text s =>
    match text? s with
    | none => .error .malformed
    | some name => ofName name
  | .object ((k, d) :: rest) closed =>
    match text? k with
    | none => .error .malformed
    | some name => do
      let hash ← ofName name
      d.toUnit
      if rest = [] ∧ closed = true then return hash else throw .malformed
  | _ => .error .malformed

/-- The settings of the credential layer. -/
structure Settings where
  /-- The keys to start with in hexadecimal text, the newest last. -/
  authKeys : List String
  /-- The hash of sessions. -/
  hash : HashAlgorithm
  /-- The lifetime of sessions, in seconds. -/
  lifetime : UInt64
  /-- The limit of compressed claims. -/
  maxMessageSize : UInt64
  retention : RetentionPolicy
  /-- How far the timestamp of a request may be from the time it comes in, in seconds. -/
  requestMaxAge : UInt64
  cookie : CookieSettings
  deriving DecidableEq

/-- Why a file could not be read, once it was opened or before. -/
structure FileFault where
  opened : Bool
  reason : String
  deriving DecidableEq

namespace Settings

def maxMessageSizeLimit : UInt64 := 1048576

/-- How far the timestamp of a request may be off by default. -/
def defaultRequestMaxAge : UInt64 := 60

def standard : Settings :=
  ⟨[], .sha256, defaultLifetime, Authorization.defaultMaxMessageSize, .standard, defaultRequestMaxAge,
    .standard⟩

def toJson (s : Settings) : Json :=
  .object [("auth_keys", .array (s.authKeys.map Json.text)), ("hash", .text s.hash.name),
    ("session_lifetime_secs", .ofUInt64 s.lifetime), ("max_msg_size", .ofUInt64 s.maxMessageSize),
    ("key_retention", s.retention.toJson), ("request_max_age_secs", .ofUInt64 s.requestMaxAge),
    ("cookie", s.cookie.toJson)]

def record : Record Settings :=
  ⟨"struct AuthConfig",
    [.optional "auth_keys" (Draft.toList Draft.toText) fun ks s => { s with authKeys := ks },
      .optional "hash" HashAlgorithm.read fun h s => { s with hash := h },
      .optional "session_lifetime_secs" (Draft.toUInt64 "u64") fun n s => { s with lifetime := n },
      .optional "max_msg_size" (Draft.toUInt64 "usize") fun n s => { s with maxMessageSize := n },
      .optional "key_retention" (RetentionPolicy.read (maxDepth - 1)) fun r s =>
        { s with retention := r },
      .optional "request_max_age_secs" (Draft.toUInt64 "u64") fun n s => { s with requestMaxAge := n },
      .optional "cookie" CookieSettings.read fun c s => { s with cookie := c }]⟩

def read : Draft → Except Problem Settings := record.read standard

/-- The first key that is not hexadecimal text, counted from `index`. -/
def badKey? : (index : Nat) → List String → Option Nat
  | _, [] => none
  | index, k :: rest =>
    match Key.ofHex k with
    | .ok _ => badKey? (index + 1) rest
    | .error _ => some index

/-- What is wrong with the settings: the first of their faults. -/
def fault? (s : Settings) : Option SettingsFault :=
  if s.lifetime = 0 then some .zeroLifetime
  else if Duration.maxSeconds < s.lifetime.toNat then some .lifetimeTooLarge
  else if s.maxMessageSize = 0 then some .zeroMessageSize
  else if maxMessageSizeLimit < s.maxMessageSize then
    some (.messageSizeTooLarge maxMessageSizeLimit.toNat)
  else if s.requestMaxAge = 0 then some .zeroRequestAge
  else
    match s.retention.fault? with
    | some fault => some fault
    | none => (badKey? 0 s.authKeys).map .keyNotHex

def validate (s : Settings) : Except CredentialFault Unit :=
  match s.fault? with
  | some fault => .error (.settings fault)
  | none => .ok ()

/-- The settings that a byte string spells, if they can be used. -/
def ofBytes (b : Bytes) : Except CredentialFault Settings := do
  let s ← (Json.decode read b).mapError fun problem => .settings (.unreadable problem)
  s.validate
  return s

/-- The settings in a file, if they can be used. -/
def ofFile (path : String) : Except FileFault Bytes → Except CredentialFault Settings
  | .ok b => ofBytes b
  | .error fault =>
    .error (.settings (if fault.opened then .other fault.reason else .cannotOpen path fault.reason))

/-- The session settings among the settings. A lifetime beyond all bounds counts as the longest. -/
def session (s : Settings) : SessionSettings :=
  ⟨(Duration.ofSeconds? s.lifetime.toNat).getD .longest, s.hash, s.maxMessageSize, s.cookie⟩

/-- A keychain with the keys of a list added one after the other. The clock is read for each of them. -/
def addKeys (clock : Clock) : List String → Keychain → Except CredentialFault Keychain
  | [], c => .ok c
  | k :: rest, c => do addKeys clock.later rest (← c.addHexAt k clock.now)

/-- The keychain to start with. Without a key in the settings a new one is added, and told. -/
def buildKeychain (s : Settings) (clock : Clock) (e : Entropy) :
    Except CredentialFault (Keychain × Option Key × Entropy) := do
  let c ← addKeys clock s.authKeys (.empty s.retention)
  if c.keyCount = 0 then
    let (key, c, e) ← c.generateAt (clock.reading s.authKeys.length) e
    return (c, some key, e)
  else return (c, none, e)

end Settings

end PaymentCredentials
