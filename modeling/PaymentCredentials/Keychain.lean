import PaymentCredentials.Key
import PaymentCredentials.Retention
import PaymentCredentials.Signature

/-!
Keychains: the keys that are trusted at present, newest first. The newest key signs; every key held
verifies. A key is superseded when the next newer one is added, and its retention policy says how long
it is held after that. The newest key is always held.
-/
namespace PaymentCredentials

/-- A key, and when it was added. -/
structure KeychainEntry where
  key : Key
  addedAt : Instant
  deriving DecidableEq

/-- The keys held, newest first, and the policy that evicts them. -/
structure Keychain where
  entries : List KeychainEntry
  retention : RetentionPolicy
  deriving DecidableEq

namespace Keychain

def empty (retention : RetentionPolicy) : Keychain := ⟨[], retention⟩

def keyCount (c : Keychain) : Nat := c.entries.length

/-- The entries that a policy keeps. The first one has the given position and was superseded at the given
time, if it was; every entry behind it was superseded when the entry in front of it was added, whether
that one is kept or not. -/
def retained (policy : RetentionPolicy) (now : Instant) : (position : Nat) →
    (superseded : Option Instant) → List KeychainEntry → List KeychainEntry
  | _, _, [] => []
  | position, superseded, entry :: older =>
    let kept := retained policy now (position + 1) (some entry.addedAt) older
    if policy.retains position superseded now then entry :: kept else kept

/-- Adds a key as the newest one, and evicts what the policy no longer keeps at that time. -/
def addAt (c : Keychain) (key : Key) (time : Instant) : Keychain :=
  { c with entries := retained c.retention time 0 none (⟨key, time⟩ :: c.entries) }

def addHexAt (c : Keychain) (s : String) (time : Instant) : Except CredentialFault Keychain := do
  return c.addAt (← Key.ofHex s) time

/-- Adds a new key, and tells it. -/
def generateAt (c : Keychain) (time : Instant) (e : Entropy) :
    Except CredentialFault (Key × Keychain × Entropy) := do
  let (key, e) ← Key.generate e
  return (key, c.addAt key time, e)

/-- Evicts what the policy no longer keeps. -/
def prune (c : Keychain) (now : Instant) : Keychain :=
  { c with entries := retained c.retention now 0 none c.entries }

def evictions (c : Keychain) (now : Instant) : Nat := c.keyCount - (c.prune now).keyCount

def newest (c : Keychain) : Except CredentialFault Key :=
  match c.entries with
  | [] => .error .noKeys
  | entry :: _ => .ok entry.key

/-- The first key of a list that verifies a signed message. -/
def firstMatch {α : Type} [Signed α] (m : α) : List KeychainEntry → Except CredentialFault Key
  | [] => .error .noMatchingKey
  | entry :: older => do
    if ← isAuthentic m entry.key.bytes then return entry.key else firstMatch m older

/-- The newest key that verifies a signed message. -/
def matchKey {α : Type} [Signed α] (c : Keychain) (m : α) : Except CredentialFault Key :=
  match c.entries with
  | [] => .error .noKeys
  | entries => firstMatch m entries

/-- What is shown of a keychain: its count of keys and its policy. -/
def summary (c : Keychain) : String :=
  "Keychain \x7b key_count: " ++ Decimal.ofInt c.keyCount ++ ", retention: " ++
    (match c.retention with
    | .unbounded => "Unbounded"
    | .keepLatest count => "KeepLatest \x7b count: " ++ Decimal.ofInt count.toNat ++ " \x7d"
    | .overlapWindow secs => "OverlapWindow \x7b secs: " ++ Decimal.ofInt secs.toNat ++ " \x7d") ++
    " \x7d"

end Keychain

end PaymentCredentials
