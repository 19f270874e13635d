import PaymentCredentials.Bytes
import PaymentCredentials.Binary64

/-!
JSON values. Integers between `-2 ^ 63` and `2 ^ 64 - 1` are exact, every other number is a binary
floating-point one. The members of an object that was read from text are in ascending order of their
keys.
-/
namespace PaymentCredentials

/-- An integer that a JSON value keeps exactly. -/
structure JsonInteger where
  value : Int
  lower : -0x8000000000000000 ≤ value
  upper : value < 0x10000000000000000
  deriving DecidableEq

/-- A JSON value. -/
inductive Json
  | null
  | bool (b : Bool)
  | int (n : JsonInteger)
  | float (x : Binary64)
  | text (s : String)
  | array (items : List Json)
  | object (members : List (String × Json))

namespace Json

/-- The value of a 64-bit unsigned integer. -/
def ofUInt64 (n : UInt64) : Json :=
  .int ⟨n.toNat, by omega, by have := n.toNat_lt; omega⟩

/-- Members in ascending order of their keys with one more, or with a new value for its key. -/
def insertMember (key : String) (value : Json) : List (String × Json) → List (String × Json)
  | [] => [(key, value)]
  | (k, v) :: rest =>
    if k = key then (key, value) :: rest
    else if textLe key k then (key, value) :: (k, v) :: rest
    else (k, v) :: insertMember key value rest

def member? (key : String) (members : List (String × Json)) : Option Json :=
  (members.find? fun m => m.1 = key).map (·.2)

/-! ### Writing -/

/-- The lower-case hexadecimal digit of a number below sixteen. -/
def hexDigit (n : UInt8) : UInt8 := if n < 10 then 0x30 + n else 0x57 + n

/-- A byte inside the quotes of a string. Bytes of characters beyond ASCII stand for themselves. -/
def escapeByte (b : UInt8) : Bytes :=
  if b = 0x22 then [0x5C, 0x22]
  else if b = 0x5C then [0x5C, 0x5C]
  else if b = 8 then [0x5C, 0x62]
  else if b = 9 then [0x5C, 0x74]
  else if b = 10 then [0x5C, 0x6E]
  else if b = 12 then [0x5C, 0x66]
  else if b = 13 then [0x5C, 0x72]
  else if b < 0x20 then
    [0x5C, 0x75, 0x30, 0x30, hexDigit (b >>> 4), hexDigit (b &&& 15)]
  else [b]

def quote (s : String) : Bytes := 0x22 :: (utf8 s).flatMap escapeByte ++ [0x22]

def scalarText : Json → Bytes
  | .null => utf8 "null"
  | .bool b => utf8 (if b then "true" else "false")
  | .int n => utf8 (Decimal.ofInt n.value)
  | .float x => utf8 (String.ofList x.numeral)
  | .text s => quote s
  | _ => []

mutual

def compact : Json → Bytes
  | .array items => 0x5B :: compactItems items
  | .object members => 0x7B :: compactMembers members
  | v => scalarText v

/-- Items with commas between them, and the closing bracket. -/
def compactItems : List Json → Bytes
  | [] => [0x5D]
  | [v] => compact v ++ [0x5D]
  | v :: w :: rest => compact v ++ 0x2C :: compactItems (w :: rest)

/-- Members with commas between them, and the closing brace. -/
def compactMembers : List (String × Json) → Bytes
  | [] => [0x7D]
  | [(k, v)] => quote k ++ 0x3A :: compact v ++ [0x7D]
  | (k, v) :: m :: rest => quote k ++ 0x3A :: compact v ++ 0x2C :: compactMembers (m :: rest)

end

/-- A new line at a level of indentation. -/
def newLine (level : Nat) : Bytes := 10 :: List.replicate (2 * level) 0x20

mutual

/-- The text of a value with an item or a member on each line. -/
def pretty (level : Nat) : Json → Bytes
  | .array [] => [0x5B, 0x5D]
  | .array (v :: rest) =>
    0x5B :: newLine (level + 1) ++ pretty (level + 1) v ++ prettyItems level rest
  | .object [] => [0x7B, 0x7D]
  | .object ((k, v) :: rest) =>
    0x7B :: newLine (level + 1) ++ quote k ++ 0x3A :: 0x20 :: pretty (level + 1) v ++
      prettyMembers level rest
  | v => scalarText v

/-- The items after the first one, and the closing bracket. -/
def prettyItems (level : Nat) : List Json → Bytes
  | [] => newLine level ++ [0x5D]
  | v :: rest =>
    0x2C :: newLine (level + 1) ++ pretty (level + 1) v ++ prettyItems level rest

/-- The members after the first one, and the closing brace. -/
def prettyMembers (level : Nat) : List (String × Json) → Bytes
  | [] => newLine level ++ [0x7D]
  | (k, v) :: rest =>
    0x2C :: newLine (level + 1) ++ quote k ++ 0x3A :: 0x20 :: pretty (level + 1) v ++
      prettyMembers level rest

end

def compactText (v : Json) : String := (ofUtf8? v.compact).getD ""

/-- The value as text with an item or a member on each line. -/
def prettyText (v : Json) : String := (ofUtf8? (v.pretty 0)).getD ""

end Json

end PaymentCredentials
