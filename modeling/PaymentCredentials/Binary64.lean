import PaymentCredentials.Decimal

/-!
Finite binary floating-point numbers of 64 bits: rounding of quotients, multiplication and division, and
the shortest decimal numeral that reads back.
-/
namespace PaymentCredentials

/-- A finite number of the format: a sign and `significand * 2 ^ exponent`. The significand is below
`2 ^ 53`, and at least `2 ^ 52` unless the exponent is the least one. -/
structure Binary64 where
  negative : Bool
  significand : Nat
  exponent : Int
  deriving DecidableEq, Repr

namespace Binary64

/-- The least exponent, and the greatest. -/
def minExponent : Int := -1074
def maxExponent : Int := 971

/-- The quotient to the nearest integer, a half to the even one. -/
def divRound (num den : Nat) : Nat :=
  let q := num / den
  let r := num % den
  if den < 2 * r ∨ (den = 2 * r ∧ q % 2 = 1) then q + 1 else q

/-- `num / den` in units of `2 ^ exponent`, to the nearest integer. -/
def scaled (num den : Nat) (exponent : Int) : Nat :=
  if 0 ≤ exponent then divRound num (den <<< exponent.toNat)
  else divRound (num <<< (-exponent).toNat) den

/-- The largest exponent at which `num / den` has at least 53 bits before the point, or the least
exponent of the format. -/
def exponentFor (num den : Nat) : Int :=
  let guess : Int := (Nat.log2 num : Int) - (Nat.log2 den : Int) - 52
  let tooLarge : Bool :=
    if 0 ≤ guess then num < den <<< (guess.toNat + 52)
    else num <<< (-guess).toNat < den <<< 52
  max minExponent (if tooLarge then guess - 1 else guess)

/-- The number nearest to a positive or zero quotient; none is near enough to one beyond the format. -/
def ofQuotient? (negative : Bool) (num den : Nat) : Option Binary64 :=
  if num = 0 then some ⟨negative, 0, minExponent⟩
  else
    let e := exponentFor num den
    let s := scaled num den e
    let (s, e) := if s = 1 <<< 53 then (1 <<< 52, e + 1) else (s, e)
    if maxExponent < e then none else some ⟨negative, s, e⟩

def isZero (x : Binary64) : Bool := x.significand == 0

/-- Numerator and denominator of the magnitude. -/
def fraction (x : Binary64) : Nat × Nat :=
  if 0 ≤ x.exponent then (x.significand <<< x.exponent.toNat, 1)
  else (x.significand, 1 <<< (-x.exponent).toNat)

/-- The rounded product of magnitudes, with the sign of the first factor. -/
def mul? (x y : Binary64) : Option Binary64 :=
  let (a, b) := x.fraction
  let (c, d) := y.fraction
  ofQuotient? x.negative (a * c) (b * d)

/-- The rounded quotient of magnitudes, with the sign of the dividend. -/
def div? (x y : Binary64) : Option Binary64 :=
  let (a, b) := x.fraction
  let (c, d) := y.fraction
  ofQuotient? x.negative (a * d) (b * c)

/-- The number nearest to a power of ten; within the format up to the exponent 308. -/
def powerOfTen? (n : Nat) : Option Binary64 := ofQuotient? false (Nat.pow 10 n) 1

/-! ### Shortest numerals -/

/-- Whether a quotient rounds to the magnitude of a number. -/
def nearestTo (x : Binary64) (num den : Nat) : Bool :=
  match ofQuotient? x.negative num den with
  | some y => y == x
  | none => false

/-- `digits * 10 ^ power` as a quotient. -/
def decimalFraction (digits : Nat) (power : Int) : Nat × Nat :=
  if 0 ≤ power then (digits * Nat.pow 10 power.toNat, 1) else (digits, Nat.pow 10 (-power).toNat)

/-- The distance of two quotients, as a numerator over the product of their denominators. -/
def distance (a b c d : Nat) : Nat := ((a * d : Int) - (c * b : Int)).natAbs

/-- Of the two neighbours on the grid of multiples of `10 ^ power`, the nearer one that reads back. -/
def onGrid? (x : Binary64) (power : Int) : Option Nat :=
  let (a, b) := x.fraction
  let low := if 0 ≤ power then a / (b * Nat.pow 10 power.toNat) else a * Nat.pow 10 (-power).toNat / b
  let fits (n : Nat) : Bool :=
    let (c, d) := decimalFraction n power
    x.nearestTo c d
  let far (n : Nat) : Nat :=
    let (c, d) := decimalFraction n power
    distance a b c d
  let high := low + 1
  if fits low then
    if fits high ∧ (far high < far low ∨ (far high = far low ∧ low % 2 = 1)) then some high
    else some low
  else if fits high then some high
  else none

/-- The first grid with a point that reads back, from coarse to fine. -/
def shortestFrom (x : Binary64) : (fuel : Nat) → (power : Int) → Nat × Int
  | 0, power => (0, power)
  | fuel + 1, power =>
    match x.onGrid? power with
    | some n => (n, power)
    | none => shortestFrom x fuel (power - 1)

/-- Removes zeros at the end of the digits. -/
def normalize : (fuel : Nat) → Nat × Int → Nat × Int
  | 0, r => r
  | fuel + 1, (n, power) =>
    if n ≠ 0 ∧ n % 10 = 0 then normalize fuel (n / 10, power + 1) else (n, power)

/-- The power of ten of the leading digit of a positive number, or one more. -/
def leadingPower (x : Binary64) : Int :=
  let (a, b) := x.fraction
  ((Decimal.digits a).length : Int) - ((Decimal.digits b).length : Int)

/-- The fewest digits that read back as the magnitude of a number other than zero, and their power of
ten; of equally short ones the nearest. -/
def shortest (x : Binary64) : Nat × Int := normalize 400 (shortestFrom x 40 (x.leadingPower + 1))

/-- The numeral of a number: positional with at least one digit after the point between `1e-5` and
`1e16`, with a signed exponent otherwise. -/
def numeral (x : Binary64) : List Char :=
  let sign := if x.negative then ['-'] else []
  if x.isZero then sign ++ ['0', '.', '0']
  else
    let (n, power) := x.shortest
    let ds := Decimal.digits n
    let count : Int := ds.length
    let point := count + power
    sign ++
      if 0 ≤ power ∧ point ≤ 16 then ds ++ List.replicate power.toNat '0' ++ ['.', '0']
      else if 0 < point ∧ point ≤ 16 then ds.take point.toNat ++ '.' :: ds.drop point.toNat
      else if -5 < point ∧ point ≤ 0 then
        ['0', '.'] ++ List.replicate (-point).toNat '0' ++ ds
      else
        let exponent := 'e' :: (if 0 < point then ['+'] else []) ++ Decimal.numeral (point - 1)
        match ds with
        | [d] => d :: exponent
        | d :: more => d :: '.' :: more ++ exponent
        | [] => exponent

end Binary64

end PaymentCredentials
