import PaymentCredentials.Deflate.Bits

/-!
Canonical prefix codes. A code is given by the length of each symbol's codeword; the codewords of one
length are consecutive numbers in the order of the symbols, and longer ones follow shorter ones.
-/
namespace PaymentCredentials.Deflate

def maxCodeLength : Nat := 15

def countOfLength (lengths : List Nat) (length : Nat) : Nat := lengths.count length

/-- The first codeword of each length, as a number, from length 1 on. -/
def firstCodes (lengths : List Nat) : List Nat :=
  let step (acc : Nat × List Nat) (length : Nat) : Nat × List Nat :=
    let code := 2 * (acc.1 + if length = 1 then 0 else countOfLength lengths (length - 1))
    (code, code :: acc.2)
  ((List.range' 1 maxCodeLength).foldl step (0, [])).2.reverse

/-- The most significant bits of a number first. -/
def codeword (length code : Nat) : List Bool := (bitsOfNat length code).reverse

/-- The codeword of every symbol; a symbol of length zero has none. -/
def codewords (lengths : List Nat) : List (List Bool) :=
  let assign (acc : List Nat × List (List Bool)) (length : Nat) : List Nat × List (List Bool) :=
    if length = 0 then (acc.1, [] :: acc.2)
    else
      let code := acc.1.getD (length - 1) 0
      (acc.1.set (length - 1) (code + 1), codeword length code :: acc.2)
  (lengths.foldl assign (firstCodes lengths, [])).2.reverse

/-- A code as a tree of its codewords. -/
inductive Code
  | unused
  | leaf (symbol : Nat)
  | fork (zero one : Code)

namespace Code

def insert (symbol : Nat) : List Bool → Code → Code
  | [], _ => .leaf symbol
  | false :: bits, .fork z o => .fork (insert symbol bits z) o
  | true :: bits, .fork z o => .fork z (insert symbol bits o)
  | false :: bits, _ => .fork (insert symbol bits .unused) .unused
  | true :: bits, _ => .fork .unused (insert symbol bits .unused)

/-- The share of all codewords that the given lengths use up, in units of the longest one. -/
def weight (lengths : List Nat) : Nat :=
  lengths.foldl (fun n l => if l = 0 then n else n + (1 <<< (maxCodeLength - l))) 0

/-- The code with the given lengths. Its codewords use up all that is there; a code of at most one
symbol may leave some unused. -/
def ofLengths? (lengths : List Nat) : Option Code :=
  let used := (lengths.filter (· ≠ 0)).length
  if 1 < used ∧ weight lengths ≠ 1 <<< maxCodeLength then none
  else
    let entries := (codewords lengths).zip (List.range lengths.length)
    some (entries.foldl (fun c e => if e.1 = [] then c else c.insert e.2 e.1) .unused)

end Code

end PaymentCredentials.Deflate
