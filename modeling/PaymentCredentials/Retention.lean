import PaymentCredentials.Instant
import PaymentCredentials.Fault

/-!
Retention policies: how long a superseded key is kept. The newest key always is.
-/
namespace PaymentCredentials

/-- When a superseded key is evicted. -/
inductive RetentionPolicy
  /-- Never. -/
  | unbounded
  /-- When `count` newer keys have been added. -/
  | keepLatest (count : UInt64)
  /-- When `secs` seconds have passed since the next newer key was added. -/
  | overlapWindow (secs : UInt64)
  deriving DecidableEq, Repr

namespace RetentionPolicy

def standard : RetentionPolicy := .keepLatest 16

def overlapHours (hours : UInt64) : RetentionPolicy :=
  .overlapWindow (UInt64.ofNat (min (3600 * hours.toNat) 0xFFFFFFFFFFFFFFFF))

/-- What is wrong with the numbers of a policy. -/
def fault? : RetentionPolicy → Option SettingsFault
  | .keepLatest count => if count = 0 then some .zeroKeptKeys else none
  | .overlapWindow secs => if secs = 0 then some .zeroOverlap else none
  | .unbounded => none

/-- Whether the key at a position, counted from the newest, is kept. The newest key has never been
superseded. -/
def retains (policy : RetentionPolicy) (position : Nat) (superseded : Option Instant) (now : Instant) :
    Bool :=
  match superseded with
  | none => true
  | some t =>
    match policy with
    | .unbounded => true
    | .keepLatest count => position < max count.toNat 1
    | .overlapWindow secs =>
      let elapsed := t.secondsUntil now
      elapsed < 0 || elapsed.toNat < secs.toNat

def names : List String := ["unbounded", "keep_latest", "overlap_window"]

/-- A policy as a JSON value: its name and its number. -/
def toJson : RetentionPolicy → Json
  | .unbounded => .object [("policy", .text "unbounded")]
  | .keepLatest count => .object [("policy", .text "keep_latest"), ("count", .ofUInt64 count)]
  | .overlapWindow secs => .object [("policy", .text "overlap_window"), ("secs", .ofUInt64 secs)]

/-! ### Reading -/

open Json

/-- The kinds of policies. -/
inductive Kind
  | unbounded
  | keepLatest
  | overlapWindow

def readKind : Draft → Except Problem Kind
  | .text s =>
    match text? s with
    | none => .error .malformed
    | some "unbounded" => .ok .unbounded
    | some "keep_latest" => .ok .keepLatest
    | some "overlap_window" => .ok .overlapWindow
    | some name => .error (.unknownVariant name names)
  | d => d.mismatch "variant identifier"

/-- Goes through the members of a policy: its kind, and the members besides it. -/
def gatherMembers (depth : Nat) : List (RawText × Draft) → Option Kind → List (RawText × Draft) →
    Except Problem (Option Kind × List (RawText × Draft))
  | [], kind, rest => .ok (kind, rest.reverse)
  | (k, d) :: members, kind, rest =>
    match text? k with
    | none => .error .malformed
    | some "policy" =>
      match kind with
      | some _ => .error (.duplicateField "policy")
      | none => do
        let kind ← readKind d
        gatherMembers depth members (some kind) rest
    | some _ => do
      let _ ← d.toJson depth
      gatherMembers depth members kind ((k, d) :: rest)

/-- The one number of a policy, from an object or from a list of it alone. -/
def readNumber (variant field typeName : String) : Draft → Except Problem UInt64
  | .array [] _ =>
    .error (.invalidLength 0 (Record.withElements ("struct variant RetentionPolicy::" ++ variant) 1))
  | .array (d :: rest) _ => do
    let n ← d.toUInt64 typeName
    if rest = [] then return n
    else throw (.invalidLength (rest.length + 1) "1 element in sequence")
  | d => do
    let record : Record (Option UInt64) :=
      ⟨"struct variant RetentionPolicy::" ++ variant,
        [.mandatory field (Draft.toUInt64 typeName) fun n _ => some n]⟩
    return (← record.read none d).getD 0

/-- A policy of a known kind from what stands besides the name. -/
def readBody (kind : Kind) (body : Draft) : Except Problem RetentionPolicy :=
  match kind with
  | .unbounded =>
    match body with
    | .array (_ :: rest) _ => .error (.invalidLength (rest.length + 1) "0 elements in sequence")
    | _ => .ok .unbounded
  | .keepLatest => (readNumber "KeepLatest" "count" "usize" body).map .keepLatest
  | .overlapWindow => (readNumber "OverlapWindow" "secs" "u64" body).map .overlapWindow

/-- A policy from an object with its name among the members, or from a list that starts with its name.
Everything besides the name is read before it is looked at. -/
def read (depth : Nat) : Draft → Except Problem RetentionPolicy
  | .object members closed => do
    let (kind, rest) ← gatherMembers (depth - 1) members none []
    if ¬ closed then throw .malformed
    match kind with
    | none => throw (.missingField "policy")
    | some kind => readBody kind (.object rest true)
  | .array [] closed => throw (if closed then .missingField "policy" else .malformed)
  | .array (d :: rest) closed => do
    let kind ← readKind d
    let _ ← Draft.toJsonItems (depth - 1) rest
    if closed = false then throw .malformed
    readBody kind (.array rest true)
  | d => d.mismatch "internally tagged enum RetentionPolicy"

end RetentionPolicy

end PaymentCredentials
