import PaymentCredentials.Json.Draft
import PaymentCredentials.Text.Quoted

/-!
Values of given types from drafts. A reader goes through a draft in the order of the text and reports
the first thing that is wrong, be it a value of another type or the place where the text stops being
JSON.
-/
namespace PaymentCredentials.Json

/-- What was found in place of a value of another type. -/
inductive Found
  | null
  | boolean (b : Bool)
  | integer (n : Int)
  | float (x : Binary64)
  | text (s : String)
  | sequence
  | map
  deriving DecidableEq

/-- Why a text does not spell a value of the type wanted. -/
inductive Problem
  /-- The text is no JSON, holds a number beyond every range or nests too deeply. -/
  | malformed
  | invalidType (found : Found) (expected : String)
  | invalidValue (found : Found) (expected : String)
  | invalidLength (length : Nat) (expected : String)
  | missingField (name : String)
  | duplicateField (name : String)
  | unknownVariant (name : String) (expected : List String)
  | numeral (fault : Decimal.Fault)
  deriving DecidableEq

def Found.message : Found → String
  | .null => "null"
  | .boolean b => "boolean `" ++ (if b then "true" else "false") ++ "`"
  | .integer n => "integer `" ++ Decimal.ofInt n ++ "`"
  | .float x => "floating point `" ++ String.ofList x.numeral ++ "`"
  | .text s => "string " ++ Text.quoted s
  | .sequence => "sequence"
  | .map => "map"

def accented (name : String) : String := "`" ++ name ++ "`"

def alternatives : List String → String
  | [] => "there are no variants"
  | [a] => "expected " ++ accented a
  | [a, b] => "expected " ++ accented a ++ " or " ++ accented b
  | names => "expected one of " ++ ", ".intercalate (names.map accented)

def Problem.message : Problem → String
  | .malformed => "<syntax>"
  | .invalidType found expected => "invalid type: " ++ found.message ++ ", expected " ++ expected
  | .invalidValue found expected => "invalid value: " ++ found.message ++ ", expected " ++ expected
  | .invalidLength length expected =>
    "invalid length " ++ Decimal.ofInt length ++ ", expected " ++ expected
  | .missingField name => "missing field " ++ accented name
  | .duplicateField name => "duplicate field " ++ accented name
  | .unknownVariant name expected => "unknown variant " ++ accented name ++ ", " ++ alternatives expected
  | .numeral fault => fault.message

/-! ### Numbers -/

/-- A number that is read from text. -/
inductive Number
  | int (n : JsonInteger)
  | float (x : Binary64)
  deriving DecidableEq

/-- The number that digits spell behind those read into `acc`, as long as it fits into 64 bits, and the
digits that are left over. -/
def significand : (acc : Nat) → List Nat → Nat × List Nat
  | acc, [] => (acc, [])
  | acc, d :: ds =>
    if 0x10000000000000000 ≤ 10 * acc + d then (acc, d :: ds) else significand (10 * acc + d) ds

/-- A number divided by a power of ten, in steps of at most 308. -/
def divideByPower (x : Binary64) (k : Nat) : Option Binary64 :=
  if k ≤ 308 then do x.div? (← Binary64.powerOfTen? k)
  else if x.isZero then some x
  else do divideByPower (← x.div? (← Binary64.powerOfTen? 308)) (k - 308)
termination_by k
decreasing_by omega

/-- `significand * 10 ^ exponent`: the significand is rounded first, then multiplied or divided by the
rounded power. There is no number beyond the format. -/
def scaleByPower (negative : Bool) (significand : Nat) (exponent : Int) : Option Binary64 := do
  let x ← Binary64.ofQuotient? negative significand 1
  if exponent < 0 then divideByPower x (-exponent).toNat
  else if exponent ≤ 308 then x.mul? (← Binary64.powerOfTen? exponent.toNat)
  else if x.isZero then some x
  else none

/-- The integer of a sign and a magnitude, if it is kept exactly. Zero with a minus sign is none. -/
def exactInteger? (negative : Bool) (magnitude : Nat) : Option JsonInteger :=
  let value : Int := if negative then -(magnitude : Int) else magnitude
  if h : -0x8000000000000000 ≤ value ∧ value < 0x10000000000000000 ∧
      ¬ (negative = true ∧ magnitude = 0) then
    some ⟨value, h.1, h.2.1⟩
  else none

/-- The greatest exponent that is looked at. -/
def maxExponent : Nat := 0x7FFFFFFF

/-- The number that a numeral spells; there is none for one too large for the format. -/
def Numeral.number? (n : Numeral) : Option Number :=
  let (whole, dropped) := significand 0 n.whole
  let (digits, power) : Nat × Int :=
    match n.fraction with
    | none => (whole, dropped.length)
    | some ds =>
      let (digits, left) := significand whole ds
      (digits, (dropped.length : Int) - ((ds.length : Int) - left.length))
  match n.exponent with
  | some (down, ds) =>
    let e := ds.foldl (fun e d => 10 * e + d) 0
    if maxExponent < e then
      if digits ≠ 0 ∧ down = false then none
      else some (.float ⟨n.negative, 0, Binary64.minExponent⟩)
    else (scaleByPower n.negative digits (if down then power - e else power + e)).map .float
  | none =>
    match n.fraction, dropped, exactInteger? n.negative whole with
    | none, [], some i => some (.int i)
    | _, _, _ => (scaleByPower n.negative digits power).map .float

/-! ### Texts -/

/-- The UTF-8 form of a code point. -/
def utf8OfCode (c : Nat) : Bytes := utf8 (String.ofList [Char.ofNat c])

/-- The bytes of a string; a half of a surrogate pair needs the other half. -/
def textBytes : RawText → Option Bytes
  | [] => some []
  | .byte b :: rest => (textBytes rest).map (b :: ·)
  | .code u :: rest =>
    if 0xDC00 ≤ u ∧ u ≤ 0xDFFF then none
    else if 0xD800 ≤ u ∧ u ≤ 0xDBFF then
      match rest with
      | .code v :: rest =>
        if 0xDC00 ≤ v ∧ v ≤ 0xDFFF then
          (textBytes rest).map
            (utf8OfCode (0x10000 + 1024 * (u - 0xD800) + (v - 0xDC00)) ++ ·)
        else none
      | _ => none
    else (textBytes rest).map (utf8OfCode u ++ ·)

def text? (s : RawText) : Option String := do ofUtf8? (← textBytes s)

/-! ### Drafts -/

namespace Draft

/-- What a draft is, where a value of another type was expected. -/
def found : Draft → Except Problem Found
  | .null => .ok .null
  | .bool b => .ok (.boolean b)
  | .number n =>
    match n.number? with
    | some (.int i) => .ok (.integer i.value)
    | some (.float x) => .ok (.float x)
    | none => .error .malformed
  | .text s =>
    match text? s with
    | some t => .ok (.text t)
    | none => .error .malformed
  | .array _ _ => .ok .sequence
  | .object _ _ => .ok .map
  | .fault => .error .malformed

/-- The problem of a draft where a value of another type was expected. -/
def mismatch {α : Type} (d : Draft) (expected : String) : Except Problem α := do
  throw (.invalidType (← d.found) expected)

def toText : Draft → Except Problem String
  | .text s =>
    match text? s with
    | some t => .ok t
    | none => .error .malformed
  | d => d.mismatch "a string"

def toBool : Draft → Except Problem Bool
  | .bool b => .ok b
  | d => d.mismatch "a boolean"

/-- A 64-bit unsigned integer, called by the name of its type. -/
def toUInt64 (typeName : String) : Draft → Except Problem UInt64
  | .number n =>
    match n.number? with
    | some (.int i) =>
      if i.value < 0 then .error (.invalidValue (.integer i.value) typeName)
      else .ok (UInt64.ofNat i.value.toNat)
    | some (.float x) => .error (.invalidType (.float x) typeName)
    | none => .error .malformed
  | d => d.mismatch typeName

/-- Nothing, which is written as null. -/
def toUnit : Draft → Except Problem Unit
  | .null => .ok ()
  | d => d.mismatch "unit"

def toOption {α : Type} (read : Draft → Except Problem α) : Draft → Except Problem (Option α)
  | .null => .ok none
  | d => (read d).map some

def toList {α : Type} (read : Draft → Except Problem α) : Draft → Except Problem (List α)
  | .array items closed => do
    let values ← items.mapM read
    if closed then return values else throw .malformed
  | d => d.mismatch "a sequence"

mutual

def complete : Draft → Bool
  | .fault => false
  | .array items closed => completeItems items && closed
  | .object members closed => completeMembers members && closed
  | _ => true

def completeItems : List Draft → Bool
  | [] => true
  | d :: rest => complete d && completeItems rest

def completeMembers : List (RawText × Draft) → Bool
  | [] => true
  | (_, d) :: rest => complete d && completeMembers rest

end

/-- Passes over a value that nobody asks for. -/
def ignore (d : Draft) : Except Problem Unit :=
  if d.complete then .ok () else .error .malformed

mutual

/-- A value of any type, with a greatest count of arrays and objects around each other. A later member
of an object replaces an earlier one of its key. -/
def toJson (depth : Nat) : Draft → Except Problem Json
  | .null => .ok .null
  | .bool b => .ok (.bool b)
  | .number n =>
    match n.number? with
    | some (.int i) => .ok (.int i)
    | some (.float x) => .ok (.float x)
    | none => .error .malformed
  | .text s =>
    match text? s with
    | some t => .ok (.text t)
    | none => .error .malformed
  | .array items closed => do
    if depth = 0 then throw .malformed
    let values ← toJsonItems (depth - 1) items
    if closed then return .array values else throw .malformed
  | .object members closed => do
    if depth = 0 then throw .malformed
    let values ← toJsonMembers (depth - 1) members []
    if closed then return .object values else throw .malformed
  | .fault => .error .malformed

def toJsonItems (depth : Nat) : List Draft → Except Problem (List Json)
  | [] => .ok []
  | d :: rest => do
    let v ← toJson depth d
    let vs ← toJsonItems depth rest
    return v :: vs

/-- The members of an object, entered in the order of the text into those read before. -/
def toJsonMembers (depth : Nat) : List (RawText × Draft) → List (String × Json) →
    Except Problem (List (String × Json))
  | [], read => .ok read
  | (k, d) :: rest, read =>
    match text? k with
    | none => .error .malformed
    | some key => do
      let v ← toJson depth d
      toJsonMembers depth rest (insertMember key v read)

end

end Draft

/-- The greatest count of arrays and objects around each other. -/
def maxDepth : Nat := 127

/-- The value that a byte string spells, read from its draft. -/
def decode {α : Type} (read : Draft → Except Problem α) (b : Bytes) : Except Problem α := do
  let document := Document.ofBytes b
  let value ← read document.root
  if document.trailing then throw .malformed else return value

/-! ### Records -/

/-- A field of a record: how its value is read and entered. -/
structure RecordField (σ : Type) where
  name : String
  required : Bool
  read : Draft → Except Problem (σ → σ)

/-- A field that keeps its default if it is absent. -/
def RecordField.optional {σ α : Type} (name : String) (read : Draft → Except Problem α)
    (set : α → σ → σ) : RecordField σ :=
  ⟨name, false, fun d => (read d).map set⟩

/-- A field that has to be there. -/
def RecordField.mandatory {σ α : Type} (name : String) (read : Draft → Except Problem α)
    (set : α → σ → σ) : RecordField σ :=
  ⟨name, true, fun d => (read d).map set⟩

/-- A record type: its name in messages, and its fields in order. -/
structure Record (σ : Type) where
  name : String
  fields : List (RecordField σ)

namespace Record

variable {σ : Type}

def withElements (name : String) (count : Nat) : String :=
  name ++ " with " ++ Decimal.ofInt count ++ (if count = 1 then " element" else " elements")

/-- Enters the members of an object. Each field comes at most once; other members are passed over. -/
def enterMembers (fields : List (RecordField σ)) : List (RawText × Draft) → (seen : List String) → σ →
    Except Problem (List String × σ)
  | [], seen, s => .ok (seen, s)
  | (k, d) :: rest, seen, s =>
    match text? k with
    | none => .error .malformed
    | some key =>
      match fields.find? (fun f => f.name = key) with
      | none => do
        d.ignore
        enterMembers fields rest seen s
      | some field => do
        if key ∈ seen then throw (.duplicateField key)
        let set ← field.read d
        enterMembers fields rest (key :: seen) (set s)

/-- Enters the items of an array, which are the fields in order. Fields at the end may be absent; the
number of items entered so far is counted for the message. -/
def enterItems (expected : String) (closed : Bool) : List (RecordField σ) → List Draft → (count : Nat) → σ →
    Except Problem σ
  | [], [], _, s => if closed then .ok s else .error .malformed
  | [], _ :: _, _, _ => .error .malformed
  | field :: fields, [], count, s =>
    if closed = false then .error .malformed
    else if field.required then .error (.invalidLength count expected)
    else enterItems expected closed fields [] count s
  | field :: fields, d :: rest, count, s => do
    let set ← field.read d
    enterItems expected closed fields rest (count + 1) (set s)

/-- A record from an object of its fields, or from an array of them in order. What is absent is taken
from the default. -/
def read (r : Record σ) (default : σ) : Draft → Except Problem σ
  | .object members closed => do
    let (seen, s) ← enterMembers r.fields members [] default
    if ¬ closed then throw .malformed
    match r.fields.find? (fun f => f.required && !seen.contains f.name) with
    | some field => throw (.missingField field.name)
    | none => return s
  | .array items closed =>
    enterItems (withElements r.name r.fields.length) closed r.fields items 0 default
  | d => d.mismatch r.name

end Record

end PaymentCredentials.Json
