/-!
Decimal numerals. Writing uses no superfluous zero; reading takes an optional sign and any number of
leading zeros, and says which way a numeral misses the range asked for.
-/
namespace PaymentCredentials.Decimal

/-- The digit of a number below ten. -/
def digit (n : Nat) : Char := Char.ofNat (48 + n)

def value? (c : Char) : Option Nat :=
  if '0' ≤ c ∧ c ≤ '9' then some (c.toNat - 48) else none

/-- The digits of a number, most significant first. -/
def digits (n : Nat) : List Char :=
  if n < 10 then [digit n] else digits (n / 10) ++ [digit (n % 10)]

/-- The numeral of an integer, with `-` in front of a negative one. -/
def numeral (i : Int) : List Char :=
  if i < 0 then '-' :: digits i.natAbs else digits i.natAbs

def ofInt (i : Int) : String := String.ofList (numeral i)

/-- The digits of a number, filled up with zeros to a least count. -/
def padded (width n : Nat) : List Char :=
  List.replicate (width - (digits n).length) '0' ++ digits n

/-- What keeps a text from being a numeral in range. -/
inductive Fault
  | empty
  | badDigit
  | tooLarge
  | tooSmall
  deriving DecidableEq, Repr

def Fault.message : Fault → String
  | .empty => "cannot parse integer from empty string"
  | .badDigit => "invalid digit found in string"
  | .tooLarge => "number too large to fit in target type"
  | .tooSmall => "number too small to fit in target type"

/-- The number that a list of digits spells, `acc` being the value of the digits before it. The first
character that is no digit, or that leads above `upper`, decides the fault. -/
def natFrom (upper : Nat) (overflow : Fault) : (acc : Nat) → List Char → Except Fault Nat
  | acc, [] => .ok acc
  | acc, c :: rest =>
    match value? c with
    | none => .error .badDigit
    | some d =>
      if upper < 10 * acc + d then .error overflow else natFrom upper overflow (10 * acc + d) rest

/-- Reads an integer between `-lower` and `upper`. With no room below zero, a minus sign is no part of
a numeral. -/
def read (lower upper : Nat) : List Char → Except Fault Int
  | [] => .error .empty
  | ['+'] => .error .badDigit
  | ['-'] => .error .badDigit
  | '+' :: ds => (natFrom upper .tooLarge 0 ds).map Int.ofNat
  | '-' :: ds =>
    if lower = 0 then .error .badDigit
    else (natFrom lower .tooSmall 0 ds).map fun n => -(n : Int)
  | ds => (natFrom upper .tooLarge 0 ds).map Int.ofNat

/-- Reads a 64-bit signed integer. -/
def readInt64 (s : String) : Except Fault Int64 :=
  (read 0x8000000000000000 0x7FFFFFFFFFFFFFFF s.toList).map Int64.ofInt

/-- Reads an 8-bit signed integer. -/
def readInt8 (s : String) : Except Fault Int8 :=
  (read 128 127 s.toList).map Int8.ofInt

/-- Reads a 64-bit unsigned integer. -/
def readUInt64 (s : String) : Except Fault UInt64 :=
  (read 0 0xFFFFFFFFFFFFFFFF s.toList).map fun i => UInt64.ofNat i.toNat

end PaymentCredentials.Decimal
