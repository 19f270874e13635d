import PaymentCredentials.Deflate.Compress

/-!
Gzip members: a header, a deflate stream, and the checksum and length of its text. Reading takes the
first member only and is bounded: a text longer than the limit is refused, whatever follows it.
-/
namespace PaymentCredentials.Gzip

/-- One step of the checksum of a byte. -/
def checksumBit (c : UInt32) : UInt32 :=
  if c &&& 1 = 0 then c >>> 1 else (c >>> 1) ^^^ 0xEDB88320

def checksumTable : Array UInt32 :=
  ((List.range 256).map fun n => (checksumBit <| checksumBit <| checksumBit <| checksumBit <|
    checksumBit <| checksumBit <| checksumBit <| checksumBit (UInt32.ofNat n))).toArray

/-- The cyclic redundancy check of a byte string. -/
def checksum (b : Bytes) : UInt32 :=
  ~~~ (b.foldl (fun c x => checksumTable.getD ((c ^^^ x.toUInt32) &&& 0xFF).toNat 0 ^^^ (c >>> 8))
    0xFFFFFFFF)

/-- What keeps a byte string from being read. -/
inductive Fault
  | badHeader
  | truncated
  | corrupt
  | badChecksum
  | exceedsLimit
  deriving DecidableEq, Repr

def Fault.message : Fault → String
  | .badHeader => "invalid gzip header"
  | .truncated => "unexpected end of file"
  | .corrupt => "corrupt deflate stream"
  | .badChecksum => "corrupt gzip stream does not have a matching checksum"
  | .exceedsLimit => "decompressed payload exceeds limit"

/-- The longest name or comment in a header. -/
def maxHeaderText : Nat := 65535

/-- What follows a text that ends with a zero byte. -/
def skipText (b : Bytes) : Except Fault Bytes :=
  match b.dropWhile (· ≠ 0) with
  | [] => .error (if maxHeaderText < b.length then .badHeader else .truncated)
  | _ :: rest =>
    if b.length - rest.length - 1 ≤ maxHeaderText then .ok rest else .error .badHeader

def skip (count : Nat) (b : Bytes) : Except Fault Bytes :=
  if b.length < count then .error .truncated else .ok (b.drop count)

/-- What follows the fields of a header that its flags announce. -/
def skipFields (flags : UInt8) (rest : Bytes) : Except Fault Bytes := do
  let rest ← if flags &&& 4 = 0 then pure rest else do
    let fields ← skip 2 rest
    skip (Bytes.toNatLE (rest.take 2)) fields
  let rest ← if flags &&& 8 = 0 then pure rest else skipText rest
  if flags &&& 16 = 0 then pure rest else skipText rest

/-- What follows the header of a member. The header may carry a checksum of its own. -/
def skipHeader (b : Bytes) : Except Fault Bytes := do
  let fields ← skip 10 b
  match b with
  | m0 :: m1 :: method :: flags :: _ =>
    if m0 ≠ 0x1F ∨ m1 ≠ 0x8B ∨ method ≠ 8 ∨ flags &&& 0xE0 ≠ 0 then throw .badHeader
    let rest ← skipFields flags fields
    if flags &&& 2 = 0 then return rest
    let stream ← skip 2 rest
    let sum := (checksum (b.take (b.length - rest.length))).toNat % 65536
    if Bytes.toNatLE (rest.take 2) = sum then return stream else throw .corrupt
  | _ => throw .truncated

/-- How many bytes of text reach a reader before a fault behind `decoded` of them: text is handed out
a window at a time, and a window with a fault in it is not. -/
def deliveredBefore (decoded : Nat) : Nat := (decoded - 1) / Deflate.reach * Deflate.reach

/-- The checksum and the length that close a member. -/
def checkTrailer (text : Bytes) (rest : Bytes) : Except Fault Bytes := do
  let _ ← skip 8 rest
  if Bytes.toNatLE (rest.take 4) = (checksum text).toNat ∧
      Bytes.toNatLE ((rest.drop 4).take 4) = text.length % 0x100000000 then
    return text
  else throw .badChecksum

/-- The text of the first member of a byte string, if it is no longer than `limit`. -/
def decompress (limit : Nat) (b : Bytes) : Except Fault Bytes := do
  let stream ← skipHeader b
  let windows := (limit / Deflate.reach + 1) * Deflate.reach
  match Deflate.inflate windows stream with
  | ⟨text, .ok s⟩ =>
    if limit < text.size then throw .exceedsLimit else checkTrailer text.toList s.align.rest
  | ⟨text, .error .truncated⟩ =>
    throw (if limit < text.size then .exceedsLimit else .truncated)
  | ⟨text, .error .corrupt⟩ =>
    throw (if limit < deliveredBefore text.size then .exceedsLimit else .corrupt)
  | ⟨_, .error .enough⟩ => throw .exceedsLimit

/-- The header of a member without name, time or comment. -/
def header : Bytes := [0x1F, 0x8B, 8, 0, 0, 0, 0, 0, 0, 255]

def compress (text : Bytes) : Bytes :=
  header ++ Deflate.deflate text ++ Bytes.ofNatLE 4 (checksum text).toNat ++
    Bytes.ofNatLE 4 (text.length % 0x100000000)

end PaymentCredentials.Gzip
