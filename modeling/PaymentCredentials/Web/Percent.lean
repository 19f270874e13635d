import PaymentCredentials.Bytes

/-!
Bytes of addresses in the World Wide Web, where any byte may be written as a percent sign and two
hexadecimal digits.
-/
namespace PaymentCredentials.Web

/-- The value of a hexadecimal digit of either case. -/
def hexValue? (b : UInt8) : Option UInt8 :=
  if 0x30 ≤ b && b ≤ 0x39 then some (b - 0x30)
  else if 0x61 ≤ b && b ≤ 0x66 then some (b - 0x57)
  else if 0x41 ≤ b && b ≤ 0x46 then some (b - 0x37)
  else none

/-- The bytes that a byte string spells. A percent sign without digits stands for itself. -/
def percentDecode : Bytes → Bytes
  | 0x25 :: h :: l :: rest =>
    match hexValue? h, hexValue? l with
    | some hi, some lo => ((hi <<< 4) ||| lo) :: percentDecode rest
    | _, _ => 0x25 :: percentDecode (h :: l :: rest)
  | b :: rest => b :: percentDecode rest
  | [] => []

/-- The upper-case hexadecimal digit of a number below sixteen. -/
def hexDigit (n : UInt8) : UInt8 := if n < 10 then 0x30 + n else 0x37 + n

def percentEncode (b : UInt8) : Bytes := [0x25, hexDigit (b >>> 4), hexDigit (b &&& 15)]

end PaymentCredentials.Web
