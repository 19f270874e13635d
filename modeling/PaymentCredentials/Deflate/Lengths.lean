import PaymentCredentials.Deflate.Code

/-!
Code lengths for symbols of given frequencies: those of a Huffman code, cut to a greatest length.
-/
namespace PaymentCredentials.Deflate

/-- A tree of symbols: its frequency, and the depth of each of its leaves. -/
structure Grove where
  frequency : Nat
  depths : List Nat

def Grove.join (s t : Grove) : Grove :=
  ⟨s.frequency + t.frequency, (s.depths ++ t.depths).map (· + 1)⟩

/-- The rarer of the first leaf and the first tree; a leaf in case of a tie. -/
def rarest : List Grove → List Grove → Option (Grove × List Grove × List Grove)
  | [], [] => none
  | leaf :: leaves, [] => some (leaf, leaves, [])
  | [], tree :: trees => some (tree, [], trees)
  | leaf :: leaves, tree :: trees =>
    if tree.frequency < leaf.frequency then some (tree, leaf :: leaves, trees)
    else some (leaf, leaves, tree :: trees)

/-- Joins the two rarest of leaves and trees, both in ascending order, until one tree is left. -/
def joinAll : (fuel : Nat) → (leaves trees : List Grove) → List Nat
  | 0, _, _ => []
  | fuel + 1, leaves, trees =>
    match rarest leaves trees with
    | none => []
    | some (s, leaves, trees) =>
      match rarest leaves trees with
      | none => if s.depths = [0] then [1] else s.depths
      | some (t, leaves, trees) => joinAll fuel leaves (trees ++ [s.join t])

/-- Moves one codeword from the greatest length into a shorter one, which is split for it. -/
def rebalance (greatest : Nat) (counts : List Nat) : List Nat :=
  let counts := counts.set greatest (counts.getD greatest 0 - 1)
  match ((List.range' 1 (greatest - 1)).reverse).find? (fun i => counts.getD i 0 ≠ 0) with
  | none => counts
  | some i => (counts.set i (counts.getD i 0 - 1)).set (i + 1) (counts.getD (i + 1) 0 + 2)

/-- How many codewords have each length up to the greatest, longer ones cut to it. -/
def limitedCounts (greatest : Nat) (depths : List Nat) : List Nat :=
  let cut := depths.map (min greatest)
  let counts := (List.range (greatest + 1)).map fun l => cut.count l
  let total := (counts.zip (List.range (greatest + 1))).foldl
    (fun n e => if e.2 = 0 then n else n + (e.1 <<< (greatest - e.2))) 0
  if depths.length ≤ 1 then counts
  else (List.range (total - (1 <<< greatest))).foldl (fun counts _ => rebalance greatest counts) counts

/-- The code length of each symbol, given the frequencies. A symbol that does not occur has none. -/
def lengthsOf (greatest : Nat) (frequencies : List Nat) : List Nat :=
  let used := (frequencies.zip (List.range frequencies.length)).filter (·.1 ≠ 0)
  let ordered := used.mergeSort (fun a b => decide (a.1 ≤ b.1))
  let depths := joinAll (2 * used.length + 1) (ordered.map fun e => ⟨e.1, [0]⟩) []
  let counts := limitedCounts greatest depths
  let lengths := ((List.range' 1 greatest).reverse).flatMap fun l =>
    List.replicate (counts.getD l 0) l
  let bySymbol := (ordered.map (·.2)).zip lengths
  let table := bySymbol.foldl (fun (a : Array Nat) e => a.set! e.1 e.2)
    (Array.replicate frequencies.length 0)
  table.toList

end PaymentCredentials.Deflate
