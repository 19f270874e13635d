import PaymentCredentials.Deflate.Matches
import PaymentCredentials.Deflate.Lengths

/-!
Compression to a deflate stream. Blocks of literals and copies are written with the fixed codes if they
are short, with codes of their own otherwise, and as they are if codes save nothing.
-/
namespace PaymentCredentials.Deflate

/-- The symbol of a value in a table of bases, and its extra bits. -/
def symbolFor (table : List (Nat × Nat)) (value : Nat) : Nat × List Bool :=
  let symbol := (table.takeWhile fun e => e.1 ≤ value).length - 1
  let (base, extra) := table.getD symbol (0, 0)
  (symbol, bitsOfNat extra (value - base))

/-- The symbol of a literal or of the length of a copy. -/
def Piece.symbol : Piece → Nat
  | .literal byte => byte.toNat
  | .copy length _ => 257 + (symbolFor lengthCodes length).1

def Piece.distanceSymbol? : Piece → Option Nat
  | .literal _ => none
  | .copy _ distance => some (symbolFor distanceCodes distance).1

/-- The bytes that a piece stands for. -/
def Piece.span : Piece → Nat
  | .literal _ => 1
  | .copy length _ => length

def Piece.bits (literals distances : Array (List Bool)) : Piece → List Bool
  | .literal byte => literals.getD byte.toNat []
  | .copy length distance =>
    let (l, extraLength) := symbolFor lengthCodes length
    let (d, extraDistance) := symbolFor distanceCodes distance
    literals.getD (257 + l) [] ++ extraLength ++ distances.getD d [] ++ extraDistance

def frequencies (bound : Nat) (symbols : List Nat) : List Nat :=
  (symbols.foldl (fun (a : Array Nat) s => a.modify s (· + 1)) (Array.replicate bound 0)).toList

/-- A symbol of the code for code lengths, with its extra bits. -/
structure LengthSymbol where
  symbol : Nat
  extra : List Bool

def zeroRun (n : Nat) : List LengthSymbol :=
  if n < 3 then List.replicate n ⟨0, []⟩
  else if n ≤ 10 then [⟨17, bitsOfNat 3 (n - 3)⟩]
  else [⟨18, bitsOfNat 7 (n - 11)⟩]

def repeatRun (length n : Nat) : List LengthSymbol :=
  if n < 3 then List.replicate n ⟨length, []⟩ else [⟨16, bitsOfNat 2 (n - 3)⟩]

/-- What is known while code lengths are packed: the length before, and a run not written yet. -/
structure Packing where
  last : Option Nat
  zeros : Nat
  repeats : Nat
  packed : List LengthSymbol

def Packing.flushZeros (p : Packing) : Packing :=
  ⟨p.last, 0, p.repeats, p.packed ++ zeroRun p.zeros⟩

def Packing.flushRepeats (p : Packing) : Packing :=
  ⟨p.last, p.zeros, 0, p.packed ++ repeatRun (p.last.getD 0) p.repeats⟩

def Packing.add (p : Packing) (length : Nat) : Packing :=
  if length = 0 then
    let p := p.flushRepeats
    let p : Packing := ⟨some 0, p.zeros + 1, 0, p.packed⟩
    if p.zeros = 138 then p.flushZeros else p
  else
    let p := p.flushZeros
    if p.last = some length then
      let p : Packing := ⟨p.last, 0, p.repeats + 1, p.packed⟩
      if p.repeats = 6 then p.flushRepeats else p
    else
      let p := p.flushRepeats
      ⟨some length, 0, 0, p.packed ++ [⟨length, []⟩]⟩

/-- Code lengths as symbols of the code for code lengths. -/
def packLengths (lengths : List Nat) : List LengthSymbol :=
  (lengths.foldl Packing.add ⟨none, 0, 0, []⟩).flushRepeats.flushZeros.packed

/-- A list without its zeros at the end, but not shorter than a least length. -/
def dropZeros (least : Nat) (lengths : List Nat) : List Nat :=
  let kept := (lengths.reverse.dropWhile (· = 0)).reverse
  kept ++ List.replicate (least - kept.length) 0

/-- Pieces with codes of their own, behind the kind of the block. -/
def dynamicBits (pieces : List Piece) : List Bool :=
  let literalLengths := dropZeros 257
    (lengthsOf 15 (frequencies 286 (256 :: pieces.map Piece.symbol)))
  let distanceLengths := dropZeros 1
    (lengthsOf 15 (frequencies 30 (pieces.filterMap Piece.distanceSymbol?)))
  let packed := packLengths (literalLengths ++ distanceLengths)
  let shortLengths := lengthsOf 7 (frequencies 19 (packed.map (·.symbol)))
  let inOrder := dropZeros 4 (lengthOrder.map fun n => shortLengths.getD n 0)
  let shortWords := (codewords shortLengths).toArray
  let literals := (codewords literalLengths).toArray
  let distances := (codewords distanceLengths).toArray
  bitsOfNat 2 2 ++ bitsOfNat 5 (literalLengths.length - 257) ++
    bitsOfNat 5 (distanceLengths.length - 1) ++ bitsOfNat 4 (inOrder.length - 4) ++
    inOrder.flatMap (bitsOfNat 3) ++
    packed.flatMap (fun s => shortWords.getD s.symbol [] ++ s.extra) ++
    pieces.flatMap (Piece.bits literals distances) ++ literals.getD 256 []

/-- Pieces with the fixed codes, behind the kind of the block. -/
def fixedBits (pieces : List Piece) : List Bool :=
  let literals := (codewords fixedLiteralLengths).toArray
  let distances := (codewords fixedDistanceLengths).toArray
  bitsOfNat 2 1 ++ pieces.flatMap (Piece.bits literals distances) ++ literals.getD 256 []

/-- Bytes as they are, behind the header of the block: it is filled up to a byte boundary, where
`begun` bits of the stream stand before the kind of the block. -/
def storedBits (begun : Nat) (text : Bytes) : List Bool :=
  List.replicate (2 + (8 - (begun + 2) % 8) % 8) false ++
    (Bytes.ofNatLE 2 text.length ++ Bytes.ofNatLE 2 (0xFFFF - text.length) ++ text).flatMap bitsOfByte

/-- A text of this many bytes gets codes of its own. -/
def leastDynamic : Nat := 48

/-- A text of at most this many bytes is never stored. -/
def mostUnstored : Nat := 32

/-- One block: whether it is the last one, then its text, which is stored if codes do not make it
shorter. Before it stand `begun` bits of the stream. -/
def blockBits (begun : Nat) (last : Bool) (text : Bytes) (pieces : List Piece) : List Bool :=
  let coded := if text.length < leastDynamic then fixedBits pieces else dynamicBits pieces
  let grown := (begun + 1 + coded.length) / 8 - (begun + 1) / 8
  let useless := mostUnstored < text.length ∧ text.length ≤ grown + 1 ∧ text.length ≤ reach
  last :: if useless then storedBits (begun + 1) text else coded

/-- What is known of a block while pieces are added to it: their count, their bytes, and the room they
take up. -/
structure Filling where
  count : Nat
  bytes : Nat
  room : Nat

/-- A piece is one or three bytes of room, and every eighth takes one more. -/
def Filling.add (f : Filling) (p : Piece) : Filling :=
  let room := match p with
    | .literal _ => 1
    | .copy _ _ => 3
  ⟨f.count + 1, f.bytes + p.span, f.room + room + if (f.count + 1) % 8 = 0 then 1 else 0⟩

/-- A block is full when its room is used up, or when it is long and its pieces are hardly fewer than
its bytes. -/
def Filling.full (f : Filling) : Bool :=
  65528 < f.room || (31744 < f.bytes && f.bytes ≤ f.room * 115 / 128)

/-- The pieces of each block, and the count of its bytes. A group of pieces stays in one block, and the
last block may be empty. -/
def splitBlocks : Filling → (block : List Piece) → List (List Piece) → List (Nat × List Piece)
  | filling, block, [] => [(filling.bytes, block.reverse)]
  | filling, block, group :: rest =>
    let filling := group.foldl Filling.add filling
    let block := group.reverse ++ block
    if filling.full then (filling.bytes, block.reverse) :: splitBlocks ⟨0, 0, 1⟩ [] rest
    else splitBlocks filling block rest

/-- The bits of all blocks of a text, behind `begun` bits. -/
def blocksBits : (begun : Nat) → Bytes → List (Nat × List Piece) → List Bool
  | _, _, [] => []
  | begun, text, (size, pieces) :: rest =>
    let bits := blockBits begun rest.isEmpty (text.take size) pieces
    bits ++ blocksBits ((begun + bits.length) % 8) (text.drop size) rest

/-- A text as blocks of literals and copies. -/
def deflate (text : Bytes) : Bytes :=
  bytesOfBits (blocksBits 0 text (splitBlocks ⟨0, 0, 1⟩ [] (groups text.toArray)))

end PaymentCredentials.Deflate
