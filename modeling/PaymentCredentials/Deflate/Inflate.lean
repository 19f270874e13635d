import PaymentCredentials.Deflate.Code

/-!
Decompression of a deflate stream. The text decoded so far is kept also where the stream ends in a
fault, since a reader of the text may have had enough of it before.
-/
namespace PaymentCredentials.Deflate

/-- Why decoding stopped before the end of the stream. -/
inductive Stop
  | truncated
  | corrupt
  /-- The text has become longer than asked for. -/
  | enough
  deriving DecidableEq, Repr

/-- What becomes of a stream: the text decoded, and either what follows the stream or why decoding
stopped. -/
structure Outcome where
  text : Array UInt8
  ending : Except Stop Bits

def Code.read : Code → Bits → Except Stop (Nat × Bits)
  | .unused, _ => .error .corrupt
  | .leaf symbol, s => .ok (symbol, s)
  | .fork zero one, s =>
    match s.next? with
    | none => .error .truncated
    | some (false, s) => zero.read s
    | some (true, s) => one.read s

def Bits.take (count : Nat) (s : Bits) : Except Stop (Nat × Bits) :=
  match s.take? count with
  | none => .error .truncated
  | some r => .ok r

/-- The least length and the extra bits of each length symbol, from 257 on. -/
def lengthCodes : List (Nat × Nat) := [
  (3, 0), (4, 0), (5, 0), (6, 0), (7, 0), (8, 0), (9, 0), (10, 0), (11, 1), (13, 1), (15, 1),
  (17, 1), (19, 2), (23, 2), (27, 2), (31, 2), (35, 3), (43, 3), (51, 3), (59, 3), (67, 4), (83, 4),
  (99, 4), (115, 4), (131, 5), (163, 5), (195, 5), (227, 5), (258, 0)]

/-- The least distance and the extra bits of each distance symbol. -/
def distanceCodes : List (Nat × Nat) := [
  (1, 0), (2, 0), (3, 0), (4, 0), (5, 1), (7, 1), (9, 2), (13, 2), (17, 3), (25, 3), (33, 4), (49, 4),
  (65, 5), (97, 5), (129, 6), (193, 6), (257, 7), (385, 7), (513, 8), (769, 8), (1025, 9), (1537, 9),
  (2049, 10), (3073, 10), (4097, 11), (6145, 11), (8193, 12), (12289, 12), (16385, 13), (24577, 13)]

/-- A base and its extra bits. -/
def extended (table : List (Nat × Nat)) (symbol : Nat) (s : Bits) : Except Stop (Nat × Bits) :=
  match table[symbol]? with
  | none => .error .corrupt
  | some (base, extra) => do
    let (v, s) ← s.take extra
    return (base + v, s)

/-- The text with a piece of itself appended. Before the beginning of the text stand zeros. -/
def appendCopy (distance : Nat) : (length : Nat) → Array UInt8 → Array UInt8
  | 0, text => text
  | n + 1, text =>
    let byte := if distance ≤ text.size then text.getD (text.size - distance) 0 else 0
    appendCopy distance n (text.push byte)

/-- The length and the distance of a copy, behind the symbol of its length. -/
@[irreducible] def readCopy (distances : Code) (symbol : Nat) (s : Bits) :
    Except Stop (Nat × Nat × Bits) := do
  let (length, s) ← extended lengthCodes (symbol - 257) s
  let (symbol, s) ← distances.read s
  let (distance, s) ← extended distanceCodes symbol s
  return (length, distance, s)

/-- The symbols of a block, up to its end. Each one takes a bit at least, so the count of bits left is
`fuel` enough. -/
def symbols (literals distances : Code) (limit : Nat) :
    (fuel : Nat) → Bits → Array UInt8 → Outcome
  | 0, _, text => ⟨text, .error .truncated⟩
  | fuel + 1, s, text =>
    if limit < text.size then ⟨text, .error .enough⟩
    else
      match literals.read s with
      | .error stop => ⟨text, .error stop⟩
      | .ok (symbol, s) =>
        if symbol < 256 then
          symbols literals distances limit fuel s (text.push (UInt8.ofNat symbol))
        else if symbol = 256 then ⟨text, .ok s⟩
        else
          match readCopy distances symbol s with
          | .error stop => ⟨text, .error stop⟩
          | .ok (length, distance, s) =>
            symbols literals distances limit fuel s (appendCopy distance length text)

/-- A block of bytes as they are. -/
def storedBlock (s : Bits) (text : Array UInt8) : Outcome :=
  match s.align.rest with
  | l0 :: l1 :: n0 :: n1 :: rest =>
    let length := Bytes.toNatLE [l0, l1]
    if length + Bytes.toNatLE [n0, n1] = 0xFFFF then
      let text := text ++ (rest.take length).toArray
      if rest.length < length then ⟨text, .error .truncated⟩
      else ⟨text, .ok (Bits.ofBytes (rest.drop length))⟩
    else ⟨text, .error .corrupt⟩
  | _ => ⟨text, .error .truncated⟩

/-- The lengths of the fixed code for literals, and of the one for distances. -/
def fixedLiteralLengths : List Nat :=
  List.replicate 144 8 ++ List.replicate 112 9 ++ List.replicate 24 7 ++ List.replicate 8 8

def fixedDistanceLengths : List Nat := List.replicate 32 5

/-- The order in which the code for code lengths is written. -/
def lengthOrder : List Nat := [16, 17, 18, 0, 8, 7, 9, 6, 10, 5, 11, 4, 12, 3, 13, 2, 14, 1, 15]

/-- A given count of code lengths, newest first behind those read before. Each takes a symbol, so the
count is `fuel` enough. -/
def codeLengths (code : Code) (count : Nat) : (fuel : Nat) → Bits → List Nat →
    Except Stop (List Nat × Bits)
  | fuel, s, read => do
    if read.length = count then return (read, s)
    if count < read.length then throw .corrupt
    match fuel with
    | 0 => throw .corrupt
    | fuel + 1 =>
      let (symbol, s) ← code.read s
      if symbol < 16 then codeLengths code count fuel s (symbol :: read)
      else if symbol = 16 then
        match read with
        | [] => throw .corrupt
        | last :: _ =>
          let (n, s) ← s.take 2
          codeLengths code count fuel s (List.replicate (3 + n) last ++ read)
      else if symbol = 17 then
        let (n, s) ← s.take 3
        codeLengths code count fuel s (List.replicate (3 + n) 0 ++ read)
      else
        let (n, s) ← s.take 7
        codeLengths code count fuel s (List.replicate (11 + n) 0 ++ read)

def shortLengths : (count : Nat) → Bits → Except Stop (List Nat × Bits)
  | 0, s => return ([], s)
  | n + 1, s => do
    let (v, s) ← s.take 3
    let (more, s) ← shortLengths n s
    return (v :: more, s)

/-- The code with the given lengths, or a fault of the stream. -/
def codeOf (lengths : List Nat) : Except Stop Code :=
  match Code.ofLengths? lengths with
  | none => .error .corrupt
  | some code => .ok code

def dynamicCodes (s : Bits) : Except Stop (Code × Code × Bits) := do
  let (literals, s) ← s.take 5
  let (distances, s) ← s.take 5
  let (short, s) ← s.take 4
  let literals := literals + 257
  let distances := distances + 1
  if 286 < literals ∨ 30 < distances then throw .corrupt
  let (written, s) ← shortLengths (short + 4) s
  let inOrder := lengthOrder.zip written
  let lengths := (List.range 19).map fun n => ((inOrder.find? (·.1 = n)).map (·.2)).getD 0
  let code ← codeOf lengths
  let total := literals + distances
  let (all, s) ← codeLengths code total total s []
  let all := all.reverse
  let literalCode ← codeOf (all.take literals)
  let distanceCode ← codeOf (all.drop literals)
  return (literalCode, distanceCode, s)

/-- The codes of a block with its own codes, or with the fixed ones. -/
def blockCodes (kind : Nat) (s : Bits) : Except Stop (Code × Code × Bits) :=
  if kind = 1 then do
    let literals ← codeOf fixedLiteralLengths
    let distances ← codeOf fixedDistanceLengths
    return (literals, distances, s)
  else if kind = 2 then dynamicCodes s
  else .error .corrupt

/-- One block behind its header. -/
def block (kind limit : Nat) (s : Bits) (text : Array UInt8) : Outcome :=
  if kind = 0 then storedBlock s text
  else
    match blockCodes kind s with
    | .error stop => ⟨text, .error stop⟩
    | .ok (literals, distances, s) => symbols literals distances limit (s.size + 1) s text

/-- The blocks of a stream, up to the last one. Each one takes a bit at least. -/
def blocks (limit : Nat) : (fuel : Nat) → Bits → Array UInt8 → Outcome
  | 0, _, text => ⟨text, .error .truncated⟩
  | fuel + 1, s, text =>
    if limit < text.size then ⟨text, .error .enough⟩
    else
      match s.take? 1 with
      | none => ⟨text, .error .truncated⟩
      | some (last, s) =>
        match s.take? 2 with
        | none => ⟨text, .error .truncated⟩
        | some (kind, s) =>
          match block kind limit s text with
          | ⟨text, .error stop⟩ => ⟨text, .error stop⟩
          | ⟨text, .ok s⟩ => if last = 1 then ⟨text, .ok s⟩ else blocks limit fuel s text

/-- The text of a deflate stream. Decoding stops once the text is longer than `limit`. -/
def inflate (limit : Nat) (stream : Bytes) : Outcome :=
  blocks limit (8 * stream.length + 1) (Bits.ofBytes stream) #[]

end PaymentCredentials.Deflate
