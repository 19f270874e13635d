import PaymentCredentials.Bytes

/-!
Hexadecimal text: two digits a byte. Writing uses lower case; reading takes either case and refuses
an odd number of digits.
-/
namespace PaymentCredentials.Hex

/-- The lower-case digit of a number below sixteen. -/
def digit (n : UInt8) : Char :=
  if n < 10 then Char.ofNat (48 + n.toNat) else Char.ofNat (87 + n.toNat)

/-- The value of a hexadecimal digit of either case. -/
def value? (c : Char) : Option UInt8 :=
  if '0' ≤ c ∧ c ≤ '9' then some (UInt8.ofNat (c.toNat - 48))
  else if 'a' ≤ c ∧ c ≤ 'f' then some (UInt8.ofNat (c.toNat - 87))
  else if 'A' ≤ c ∧ c ≤ 'F' then some (UInt8.ofNat (c.toNat - 55))
  else none

def digits (b : Bytes) : List Char := b.flatMap fun (x : UInt8) => [digit (x >>> 4), digit (x &&& 15)]

def ofDigits? : List Char → Option Bytes
  | [] => some []
  | [_] => none
  | h :: l :: rest => do
    let hi ← value? h
    let lo ← value? l
    let more ← ofDigits? rest
    return ((hi <<< 4) ||| lo) :: more

def encode (b : Bytes) : String := String.ofList (digits b)

def decode? (s : String) : Option Bytes := ofDigits? s.toList

end PaymentCredentials.Hex
