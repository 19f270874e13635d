import PaymentCredentials.Deflate.Inflate

/-!
Texts as literals and copies of earlier pieces. At each position the longest earlier occurrence within
reach is looked for among those that begin with the same three bytes; a copy waits for one position, and
gives way to a literal if a longer one begins there.
-/
namespace PaymentCredentials.Deflate

/-- A piece of a compressed text. -/
inductive Piece
  | literal (byte : UInt8)
  | copy (length distance : Nat)
  deriving Repr, DecidableEq

/-- The shortest and the longest copy, and how far back copies reach. -/
def minCopy : Nat := 3
def maxCopy : Nat := 258
def reach : Nat := 32768

def hash3 (a b c : UInt8) : Nat :=
  (((a.toNat <<< 10) ^^^ (b.toNat <<< 5)) ^^^ c.toNat) % 32768

/-- A chain ends at positions that are multiples of this, position zero among them. -/
def chainEnd : Nat := 65536

/-- For each position the latest earlier one with the same hash of three bytes. Position zero stands
for none. -/
def earlier (text : Array UInt8) : Array Nat :=
  let step (acc : Array Nat × Array Nat) (i : Nat) : Array Nat × Array Nat :=
    let h := hash3 (text.getD i 0) (text.getD (i + 1) 0) (text.getD (i + 2) 0)
    (acc.1.set! h i, acc.2.push (acc.1.getD h 0))
  ((List.range (text.size - 2)).foldl step (Array.replicate 32768 0, #[])).2

/-- How far the texts at two positions agree, from an offset on and up to a greatest length. -/
def agreement (text : Array UInt8) (p q : Nat) : (left : Nat) → (offset : Nat) → Nat
  | 0, n => n
  | left + 1, n =>
    if text.getD (p + n) 0 = text.getD (q + n) 0 then agreement text p q left (n + 1) else n

/-- A copy found: its length and its distance. -/
structure Found where
  length : Nat
  distance : Nat

/-- Follows the chain of earlier positions. A position is compared only if it could beat the best copy
so far; `budget` counts the positions that may still be visited, in rounds of three. -/
def search (text : Array UInt8) (chain : Array Nat) (pos far longest : Nat) (budget probe : Nat)
    (best : Found) : Found :=
  if budget = 0 then best
  else
    let next := chain.getD probe 0
    if next % chainEnd = 0 ∨ far < pos - next then best
    else
      let fits := text.getD (next + best.length - 1) 0 = text.getD (pos + best.length - 1) 0 ∧
        text.getD (next + best.length) 0 = text.getD (pos + best.length) 0
      if ¬ fits then search text chain pos far longest (budget - 1) next best
      else
        let rest := 3 * ((budget - 1) / 3)
        let length := agreement text pos next longest 0
        if length ≤ best.length ∨ length < 2 then search text chain pos far longest rest next best
        else if length = longest then ⟨length, pos - next⟩
        else search text chain pos far longest rest next ⟨length, pos - next⟩
termination_by budget
decreasing_by all_goals omega

/-- A best copy at a position that beats the given one. -/
def longestCopy (text : Array UInt8) (chain : Array Nat) (pos far : Nat) (best : Found) : Found :=
  let longest := min maxCopy (text.size - pos)
  if longest ≤ best.length then best
  else search text chain pos far longest (if 32 ≤ best.length then 33 else 129) pos best

/-- A copy that waits for the next position, with the byte it would begin with. -/
structure Waiting where
  byte : UInt8
  copy : Found

/-- The pieces of a text from a position on, those that are settled together in one group, newest group
first behind those found before. -/
def groupsFrom (text : Array UInt8) (chain : Array Nat) :
    (fuel pos : Nat) → Option Waiting → List (List Piece) → List (List Piece)
  | 0, _, _, groups => groups
  | fuel + 1, pos, waiting, groups =>
    if text.size ≤ pos then groups
    else
      let far := min pos (reach - min maxCopy (text.size - pos))
      let floor := match waiting with
        | some w => w.copy.length
        | none => minCopy - 1
      let found := longestCopy text chain pos far ⟨floor, 0⟩
      let useless := found.length = minCopy ∧ 8192 ≤ found.distance
      let found : Found := if useless ∨ found.distance = pos % reach then ⟨0, 0⟩ else found
      let byte := text.getD pos 0
      let copy := Piece.copy found.length found.distance
      match waiting with
      | some w =>
        if w.copy.length < found.length then
          if 128 ≤ found.length then
            groupsFrom text chain fuel (pos + found.length) none ([.literal w.byte, copy] :: groups)
          else
            groupsFrom text chain fuel (pos + 1) (some ⟨byte, found⟩) ([.literal w.byte] :: groups)
        else
          groupsFrom text chain fuel (pos + (w.copy.length - 1)) none
            ([.copy w.copy.length w.copy.distance] :: groups)
      | none =>
        if found.distance = 0 then
          groupsFrom text chain fuel (pos + 1) none ([.literal byte] :: groups)
        else if 128 ≤ found.length then
          groupsFrom text chain fuel (pos + found.length) none ([copy] :: groups)
        else groupsFrom text chain fuel (pos + 1) (some ⟨byte, found⟩) groups

/-- A text as groups of literals and copies. -/
def groups (text : Array UInt8) : List (List Piece) :=
  (groupsFrom text (earlier text) (2 * text.size + 1) 0 none []).reverse

end PaymentCredentials.Deflate
