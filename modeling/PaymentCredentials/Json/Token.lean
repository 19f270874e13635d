import PaymentCredentials.Json

/-!
The tokens of JSON text. Reading tokens needs no nesting; blanks end here, so that texts which differ in
blanks only have the same tokens. Where the text is no token, the list of tokens ends in a fault.
-/
namespace PaymentCredentials.Json

/-- A piece of a string as it is written: a byte, or a unit of UTF-16 given by its number. -/
inductive TextUnit
  | byte (b : UInt8)
  | code (u : Nat)
  deriving DecidableEq, Repr

/-- The contents of a string as they are written. -/
abbrev RawText := List TextUnit

/-- A number as it is written: digits before and after the point, and an exponent with its sign. -/
structure Numeral where
  negative : Bool
  whole : List Nat
  fraction : Option (List Nat)
  exponent : Option (Bool × List Nat)
  deriving DecidableEq, Repr

inductive Token
  | openObject
  | closeObject
  | openArray
  | closeArray
  | colon
  | comma
  | null
  | bool (b : Bool)
  | number (n : Numeral)
  | string (s : RawText)
  /-- What stands here is no token. -/
  | fault
  deriving DecidableEq, Repr

/-- Space, tab and the line ends. -/
def isBlankByte (b : UInt8) : Bool := b == 0x20 || b == 9 || b == 10 || b == 13

def isDigitByte (b : UInt8) : Bool := 0x30 ≤ b && b ≤ 0x39

def digitValues (b : Bytes) : List Nat := b.map fun d => d.toNat - 0x30

def hexValue? (b : UInt8) : Option Nat :=
  if 0x30 ≤ b && b ≤ 0x39 then some (b.toNat - 0x30)
  else if 0x61 ≤ b && b ≤ 0x66 then some (b.toNat - 0x57)
  else if 0x41 ≤ b && b ≤ 0x46 then some (b.toNat - 0x37)
  else none

/-- The byte that a letter after a backslash stands for. -/
def escapedByte? (b : UInt8) : Option UInt8 :=
  if b = 0x22 ∨ b = 0x5C ∨ b = 0x2F then some b
  else if b = 0x62 then some 8
  else if b = 0x66 then some 12
  else if b = 0x6E then some 10
  else if b = 0x72 then some 13
  else if b = 0x74 then some 9
  else none

/-- The contents of a string up to its closing quote, and what follows it. -/
def readString : Bytes → Option (RawText × Bytes)
  | [] => none
  | 0x22 :: rest => some ([], rest)
  | 0x5C :: 0x75 :: a :: b :: c :: d :: rest => do
    let p ← hexValue? a
    let q ← hexValue? b
    let r ← hexValue? c
    let s ← hexValue? d
    let (more, rest) ← readString rest
    return (.code (4096 * p + 256 * q + 16 * r + s) :: more, rest)
  | 0x5C :: e :: rest => do
    let x ← escapedByte? e
    let (more, rest) ← readString rest
    return (.byte x :: more, rest)
  | x :: rest =>
    if x < 0x20 ∨ x = 0x5C then none
    else do
      let (more, rest) ← readString rest
      return (.byte x :: more, rest)

/-- The digits at the beginning of a byte string, if there are any, and what follows them. -/
def readDigits (b : Bytes) : Option (List Nat × Bytes) :=
  match b.takeWhile isDigitByte with
  | [] => none
  | ds => some (digitValues ds, b.dropWhile isDigitByte)

/-- The exponent of a number, behind its letter. -/
def readExponent (b : Bytes) : Option ((Bool × List Nat) × Bytes) := do
  let (negative, b) := match b with
    | 0x2B :: rest => (false, rest)
    | 0x2D :: rest => (true, rest)
    | _ => (false, b)
  let (ds, rest) ← readDigits b
  return ((negative, ds), rest)

/-- A number without its sign. A leading zero is the only digit before the point. -/
def readUnsigned (negative : Bool) (b : Bytes) : Option (Numeral × Bytes) := do
  let (whole, rest) ← readDigits b
  match whole with
  | 0 :: _ :: _ => none
  | _ =>
    let (fraction, rest) ← match rest with
      | 0x2E :: more => (readDigits more).map fun r => (some r.1, r.2)
      | _ => some (none, rest)
    let (exponent, rest) ← match rest with
      | 0x65 :: more => (readExponent more).map fun r => (some r.1, r.2)
      | 0x45 :: more => (readExponent more).map fun r => (some r.1, r.2)
      | _ => some (none, rest)
    return (⟨negative, whole, fraction, exponent⟩, rest)

/-- The token at the beginning of a byte string, and what follows it. -/
def nextToken : Bytes → Option (Token × Bytes)
  | [] => none
  | 0x7B :: rest => some (.openObject, rest)
  | 0x7D :: rest => some (.closeObject, rest)
  | 0x5B :: rest => some (.openArray, rest)
  | 0x5D :: rest => some (.closeArray, rest)
  | 0x3A :: rest => some (.colon, rest)
  | 0x2C :: rest => some (.comma, rest)
  | 0x6E :: 0x75 :: 0x6C :: 0x6C :: rest => some (.null, rest)
  | 0x74 :: 0x72 :: 0x75 :: 0x65 :: rest => some (.bool true, rest)
  | 0x66 :: 0x61 :: 0x6C :: 0x73 :: 0x65 :: rest => some (.bool false, rest)
  | 0x22 :: rest => (readString rest).map fun r => (.string r.1, r.2)
  | 0x2D :: rest => (readUnsigned true rest).map fun r => (.number r.1, r.2)
  | b => (readUnsigned false b).map fun r => (.number r.1, r.2)

/-- The tokens of a byte string. A token takes a byte at least, so its length is `fuel` enough. -/
def tokensFrom : (fuel : Nat) → Bytes → List Token
  | 0, _ => []
  | fuel + 1, b =>
    match b.dropWhile isBlankByte with
    | [] => []
    | c :: rest =>
      match nextToken (c :: rest) with
      | none => [.fault]
      | some (t, rest) => t :: tokensFrom fuel rest

def tokens (b : Bytes) : List Token := tokensFrom b.length b

end PaymentCredentials.Json
