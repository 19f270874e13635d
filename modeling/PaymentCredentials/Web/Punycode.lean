/-!
Punycode: labels of international domain names in ASCII letters and digits. The ASCII characters of the
label stand first, the others follow as where they are to be entered.
-/
namespace PaymentCredentials.Web.Punycode

/-- The value of a digit, `a` to `z` and `0` to `9`. -/
def digit? (c : Char) : Option Nat :=
  if 'a' ≤ c ∧ c ≤ 'z' then some (c.toNat - 97)
  else if '0' ≤ c ∧ c ≤ '9' then some (c.toNat - 22)
  else none

/-- How far a distance is beyond the range that fits the curve, in steps of the base. -/
def adaptFrom (steps delta : Nat) : Nat :=
  if 455 < delta then adaptFrom (steps + 36) (delta / 35) else steps + 36 * delta / (delta + 38)
termination_by delta
decreasing_by omega

/-- The bias after a distance. -/
def adapt (delta length : Nat) (first : Bool) : Nat :=
  let delta := if first then delta / 700 else delta / 2
  adaptFrom 0 (delta + delta / length)

/-- What was read so far: the label, the code point and the place at which its next character is looked
for, and the number whose digits are being read. -/
structure State where
  label : List Char
  code : Nat
  place : Nat
  bias : Nat
  /-- The place so far, with the digits read. -/
  sum : Nat
  weight : Nat
  position : Nat

/-- The greatest number. -/
def maxNumber : Nat := 0xFFFFFFFF

/-- The threshold for the digit at a position: a smaller digit is the last one. -/
def State.threshold (s : State) : Nat := max 1 (min 26 (s.position - s.bias))

/-- Enters a character after the last digit of its number. -/
def State.enter (s : State) (sum : Nat) : Option State :=
  let length := s.label.length + 1
  let code := s.code + sum / length
  let place := sum % length
  if code.isValidChar then
    some ⟨s.label.take place ++ Char.ofNat code :: s.label.drop place, code, place + 1,
      adapt (sum - s.place) length (s.place = 0), place + 1, 1, 36⟩
  else none

def State.step (s : State) (c : Char) : Option State := do
  let d ← digit? c
  let sum := s.sum + d * s.weight
  if maxNumber < sum then none
  else if d < s.threshold then s.enter sum
  else if maxNumber < s.weight * (36 - s.threshold) then none
  else some { s with sum := sum, weight := s.weight * (36 - s.threshold), position := s.position + 36 }

/-- The characters in front of the last hyphen, if that is not the first character, and those that
follow it. -/
def parts (cs : List Char) : List Char × List Char :=
  let digits := (cs.reverse.takeWhile (· ≠ '-')).reverse
  let base := (cs.take (cs.length - digits.length)).dropLast
  if base = [] then ([], cs) else (base, digits)

def decode? (cs : List Char) : Option (List Char) := do
  let (base, digits) := parts cs
  let s ← digits.foldlM State.step ⟨base, 128, 0, 72, 0, 1, 36⟩
  if s.weight = 1 ∧ s.sum = s.place then some s.label else none

end PaymentCredentials.Web.Punycode
