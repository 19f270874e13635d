import PaymentCredentials.Bytes

/-!
Standard base64 with padding. Reading accepts exactly what writing produces: the padding is required
and the unused bits of the last digit are zero.
-/
namespace PaymentCredentials.Base64

/-- The digit of a number below sixty-four. -/
def digit (n : UInt8) : Char :=
  if n < 26 then Char.ofNat (65 + n.toNat)
  else if n < 52 then Char.ofNat (71 + n.toNat)
  else if n < 62 then Char.ofNat (n.toNat - 4)
  else if n = 62 then '+'
  else '/'

def value? (c : Char) : Option UInt8 :=
  if 'A' ≤ c ∧ c ≤ 'Z' then some (UInt8.ofNat (c.toNat - 65))
  else if 'a' ≤ c ∧ c ≤ 'z' then some (UInt8.ofNat (c.toNat - 71))
  else if '0' ≤ c ∧ c ≤ '9' then some (UInt8.ofNat (c.toNat + 4))
  else if c = '+' then some 62
  else if c = '/' then some 63
  else none

/-- The digits of a byte string: four for three bytes, the last group filled up with `=`. -/
def digits : Bytes → List Char
  | [] => []
  | [a] => [digit (a >>> 2), digit ((a &&& 3) <<< 4), '=', '=']
  | [a, b] => [digit (a >>> 2), digit (((a &&& 3) <<< 4) ||| (b >>> 4)), digit ((b &&& 15) <<< 2), '=']
  | a :: b :: c :: rest =>
    digit (a >>> 2) :: digit (((a &&& 3) <<< 4) ||| (b >>> 4)) ::
      digit (((b &&& 15) <<< 2) ||| (c >>> 6)) :: digit (c &&& 63) :: digits rest

/-- The one or two bytes of a padded group, or the three of a full one. -/
def group? (p q r s : Char) : Option Bytes := do
  let a ← value? p
  let b ← value? q
  let first := (a <<< 2) ||| (b >>> 4)
  if r = '=' then
    if s = '=' ∧ b &&& 15 = 0 then some [first] else none
  else
    let c ← value? r
    let second := (b <<< 4) ||| (c >>> 2)
    if s = '=' then
      if c &&& 3 = 0 then some [first, second] else none
    else
      let d ← value? s
      some [first, second, (c <<< 6) ||| d]

/-- The byte string that a list of digits spells. A padded group is the last one. -/
def ofDigits? : List Char → Option Bytes
  | [] => some []
  | p :: q :: r :: s :: rest => do
    let bytes ← group? p q r s
    if s = '=' then
      if rest = [] then some bytes else none
    else
      let more ← ofDigits? rest
      return bytes ++ more
  | _ => none

/-- Base64 text of a byte string. -/
def encode (b : Bytes) : String := String.ofList (digits b)

/-- The byte string a base64 text spells. -/
def decode? (s : String) : Option Bytes := ofDigits? s.toList

end PaymentCredentials.Base64
