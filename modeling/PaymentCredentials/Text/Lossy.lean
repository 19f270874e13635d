import PaymentCredentials.Bytes

/-!
Texts from bytes that need not be UTF-8. What cannot be read is replaced, as much of it at once as could
be the beginning of a character.
-/
namespace PaymentCredentials.Text

/-- The character that stands for what cannot be read. -/
def replacement : Char := '\uFFFD'

/-- How many bytes follow the first byte of a character of several bytes, and the range of the next
one. -/
def continuation? (lead : UInt8) : Option (Nat × UInt8 × UInt8) :=
  if 0xC2 ≤ lead && lead ≤ 0xDF then some (1, 0x80, 0xBF)
  else if lead = 0xE0 then some (2, 0xA0, 0xBF)
  else if lead = 0xED then some (2, 0x80, 0x9F)
  else if 0xE1 ≤ lead && lead ≤ 0xEF then some (2, 0x80, 0xBF)
  else if lead = 0xF0 then some (3, 0x90, 0xBF)
  else if 0xF1 ≤ lead && lead ≤ 0xF3 then some (3, 0x80, 0xBF)
  else if lead = 0xF4 then some (3, 0x80, 0x8F)
  else none

/-- How many bytes continue a character, of those that could, the first of them being in a range. -/
def continued : (count : Nat) → (low high : UInt8) → Bytes → Nat
  | count + 1, low, high, b :: rest =>
    if low ≤ b && b ≤ high then 1 + continued count 0x80 0xBF rest else 0
  | _, _, _, _ => 0

/-- The character of a first byte and those that follow it. -/
def joined (lead : UInt8) (rest : Bytes) : Char :=
  Char.ofNat (rest.foldl (fun n b => 64 * n + b.toNat % 64) (lead.toNat % (1 <<< (6 - rest.length))))

def lossyChars : Bytes → List Char
  | [] => []
  | b :: rest =>
    match continuation? b with
    | none => (if b < 0x80 then Char.ofNat b.toNat else replacement) :: lossyChars rest
    | some (count, low, high) =>
      let n := continued count low high rest
      (if n = count then joined b (rest.take n) else replacement) :: lossyChars (rest.drop n)
termination_by b => b.length
decreasing_by all_goals simp; try omega

def lossy (b : Bytes) : String :=
  match ofUtf8? b with
  | some s => s
  | none => String.ofList (lossyChars b)

end PaymentCredentials.Text
