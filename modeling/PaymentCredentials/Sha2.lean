import PaymentCredentials.Bytes

/-!
The SHA-2 hash functions, written once for both word widths. A hash is a chain of states: each block
of sixteen words turns a state into the next one, and the last state is the digest.
-/
namespace PaymentCredentials.Sha2

/-- The arithmetic of one word width: 32 bits in SHA-256, 64 bits in SHA-384 and SHA-512. -/
class Word (W : Type) extends Add W, XorOp W, AndOp W, Complement W where
  /-- Bytes in a word. -/
  size : Nat
  bigSigma0 : W → W
  bigSigma1 : W → W
  smallSigma0 : W → W
  smallSigma1 : W → W
  /-- One constant a round. -/
  constants : List W
  /-- The big-endian bytes of a word. -/
  toBytes : W → Bytes
  /-- The word at the beginning of a byte string, and what follows it. -/
  read : Bytes → W × Bytes
  length_toBytes (w : W) : (toBytes w).length = size

/-- The eight chaining words. -/
structure State (W : Type) where
  a : W
  b : W
  c : W
  d : W
  e : W
  f : W
  g : W
  h : W

/-- Sixteen consecutive words of the message schedule. -/
structure Window (W : Type) where
  w0 : W
  w1 : W
  w2 : W
  w3 : W
  w4 : W
  w5 : W
  w6 : W
  w7 : W
  w8 : W
  w9 : W
  w10 : W
  w11 : W
  w12 : W
  w13 : W
  w14 : W
  w15 : W

variable {W : Type} [Word W]

/-- The first sixteen words of a byte string, and what follows them. -/
@[specialize] def Window.read (m : Bytes) : Window W × Bytes :=
  let (w0, m) := Word.read m
  let (w1, m) := Word.read m
  let (w2, m) := Word.read m
  let (w3, m) := Word.read m
  let (w4, m) := Word.read m
  let (w5, m) := Word.read m
  let (w6, m) := Word.read m
  let (w7, m) := Word.read m
  let (w8, m) := Word.read m
  let (w9, m) := Word.read m
  let (w10, m) := Word.read m
  let (w11, m) := Word.read m
  let (w12, m) := Word.read m
  let (w13, m) := Word.read m
  let (w14, m) := Word.read m
  let (w15, m) := Word.read m
  (⟨w0, w1, w2, w3, w4, w5, w6, w7, w8, w9, w10, w11, w12, w13, w14, w15⟩, m)

@[inline] def Window.next (w : Window W) : Window W :=
  ⟨w.w1, w.w2, w.w3, w.w4, w.w5, w.w6, w.w7, w.w8, w.w9, w.w10, w.w11, w.w12, w.w13, w.w14, w.w15,
    Word.smallSigma1 w.w14 + w.w9 + Word.smallSigma0 w.w1 + w.w0⟩

/-- One round, with its constant and its word of the schedule. -/
@[inline] def State.round (s : State W) (k w : W) : State W :=
  let choice := (s.e &&& s.f) ^^^ (~~~s.e &&& s.g)
  let majority := (s.a &&& s.b) ^^^ (s.a &&& s.c) ^^^ (s.b &&& s.c)
  let t := s.h + Word.bigSigma1 s.e + choice + k + w
  ⟨t + (Word.bigSigma0 s.a + majority), s.a, s.b, s.c, s.d + t, s.e, s.f, s.g⟩

@[specialize] def State.rounds : List W → Window W → State W → State W
  | [], _, s => s
  | k :: ks, w, s => State.rounds ks w.next (s.round k w.w0)

@[specialize] def State.compress (s : State W) (block : Window W) : State W :=
  let t := State.rounds Word.constants block s
  ⟨s.a + t.a, s.b + t.b, s.c + t.c, s.d + t.d, s.e + t.e, s.f + t.f, s.g + t.g, s.h + t.h⟩

@[specialize] def State.absorb : (count : Nat) → Bytes → State W → State W
  | 0, _, s => s
  | n + 1, m, s =>
    let (block, rest) := Window.read m
    State.absorb n rest (s.compress block)

variable (W) in
def blockSize : Nat := 16 * Word.size W

variable (W) in
/-- What follows a message of `total` bytes: a single one bit, zeros up to the end of a block less
two words, and the count of its bits. -/
def padding (total : Nat) : Bytes :=
  let used := (total + 1 + 2 * Word.size W) % blockSize W
  0x80 :: List.replicate ((blockSize W - used) % blockSize W) 0 ++
    Bytes.ofNatBE (2 * Word.size W) (8 * total)

/-- The last state for a message of which `absorbed` bytes are in the state already. -/
@[specialize] def State.finish (s : State W) (absorbed : Nat) (m : Bytes) : State W :=
  let padded := m ++ padding W (absorbed + m.length)
  s.absorb (padded.length / blockSize W) padded

@[specialize] def State.toBytes (s : State W) : Bytes :=
  [s.a, s.b, s.c, s.d, s.e, s.f, s.g, s.h].flatMap Word.toBytes

theorem State.length_toBytes (s : State W) : s.toBytes.length = 8 * Word.size W := by
  simp [State.toBytes, Word.length_toBytes]
  omega

/-- The constants of the 32-bit rounds: the first fractional bits of cube roots of primes. -/
def constants32 : List UInt32 := [
  0x428a2f98, 0x71374491, 0xb5c0fbcf, 0xe9b5dba5, 0x3956c25b, 0x59f111f1, 0x923f82a4, 0xab1c5ed5,
  0xd807aa98, 0x12835b01, 0x243185be, 0x550c7dc3, 0x72be5d74, 0x80deb1fe, 0x9bdc06a7, 0xc19bf174,
  0xe49b69c1, 0xefbe4786, 0x0fc19dc6, 0x240ca1cc, 0x2de92c6f, 0x4a7484aa, 0x5cb0a9dc, 0x76f988da,
  0x983e5152, 0xa831c66d, 0xb00327c8, 0xbf597fc7, 0xc6e00bf3, 0xd5a79147, 0x06ca6351, 0x14292967,
  0x27b70a85, 0x2e1b2138, 0x4d2c6dfc, 0x53380d13, 0x650a7354, 0x766a0abb, 0x81c2c92e, 0x92722c85,
  0xa2bfe8a1, 0xa81a664b, 0xc24b8b70, 0xc76c51a3, 0xd192e819, 0xd6990624, 0xf40e3585, 0x106aa070,
  0x19a4c116, 0x1e376c08, 0x2748774c, 0x34b0bcb5, 0x391c0cb3, 0x4ed8aa4a, 0x5b9cca4f, 0x682e6ff3,
  0x748f82ee, 0x78a5636f, 0x84c87814, 0x8cc70208, 0x90befffa, 0xa4506ceb, 0xbef9a3f7, 0xc67178f2]

/-- The constants of the 64-bit rounds. -/
def constants64 : List UInt64 := [
  0x428a2f98d728ae22, 0x7137449123ef65cd, 0xb5c0fbcfec4d3b2f, 0xe9b5dba58189dbbc,
  0x3956c25bf348b538, 0x59f111f1b605d019, 0x923f82a4af194f9b, 0xab1c5ed5da6d8118,
  0xd807aa98a3030242, 0x12835b0145706fbe, 0x243185be4ee4b28c, 0x550c7dc3d5ffb4e2,
  0x72be5d74f27b896f, 0x80deb1fe3b1696b1, 0x9bdc06a725c71235, 0xc19bf174cf692694,
  0xe49b69c19ef14ad2, 0xefbe4786384f25e3, 0x0fc19dc68b8cd5b5, 0x240ca1cc77ac9c65,
  0x2de92c6f592b0275, 0x4a7484aa6ea6e483, 0x5cb0a9dcbd41fbd4, 0x76f988da831153b5,
  0x983e5152ee66dfab, 0xa831c66d2db43210, 0xb00327c898fb213f, 0xbf597fc7beef0ee4,
  0xc6e00bf33da88fc2, 0xd5a79147930aa725, 0x06ca6351e003826f, 0x142929670a0e6e70,
  0x27b70a8546d22ffc, 0x2e1b21385c26c926, 0x4d2c6dfc5ac42aed, 0x53380d139d95b3df,
  0x650a73548baf63de, 0x766a0abb3c77b2a8, 0x81c2c92e47edaee6, 0x92722c851482353b,
  0xa2bfe8a14cf10364, 0xa81a664bbc423001, 0xc24b8b70d0f89791, 0xc76c51a30654be30,
  0xd192e819d6ef5218, 0xd69906245565a910, 0xf40e35855771202a, 0x106aa07032bbd1b8,
  0x19a4c116b8d2d0c8, 0x1e376c085141ab53, 0x2748774cdf8eeb99, 0x34b0bcb5e19b48a8,
  0x391c0cb3c5c95a63, 0x4ed8aa4ae3418acb, 0x5b9cca4f7763e373, 0x682e6ff3d6b2b8a3,
  0x748f82ee5defb2fc, 0x78a5636f43172f60, 0x84c87814a1f0ab72, 0x8cc702081a6439ec,
  0x90befffa23631e28, 0xa4506cebde82bde9, 0xbef9a3f7b2c67915, 0xc67178f2e372532b,
  0xca273eceea26619c, 0xd186b8c721c0c207, 0xeada7dd6cde0eb1e, 0xf57d4f7fee6ed178,
  0x06f067aa72176fba, 0x0a637dc5a2c898a6, 0x113f9804bef90dae, 0x1b710b35131c471b,
  0x28db77f523047d84, 0x32caab7b40c72493, 0x3c9ebe0a15c9bebc, 0x431d67c49c100d4c,
  0x4cc5d4becb3e42b6, 0x597f299cfc657e2a, 0x5fcb6fab3ad6faec, 0x6c44198c4a475817]

@[inline] def rotate32 (x : UInt32) (n : UInt32) : UInt32 := (x >>> n) ||| (x <<< (32 - n))

@[inline] def rotate64 (x : UInt64) (n : UInt64) : UInt64 := (x >>> n) ||| (x <<< (64 - n))

instance : Word UInt32 where
  size := 4
  bigSigma0 x := rotate32 x 2 ^^^ rotate32 x 13 ^^^ rotate32 x 22
  bigSigma1 x := rotate32 x 6 ^^^ rotate32 x 11 ^^^ rotate32 x 25
  smallSigma0 x := rotate32 x 7 ^^^ rotate32 x 18 ^^^ (x >>> 3)
  smallSigma1 x := rotate32 x 17 ^^^ rotate32 x 19 ^^^ (x >>> 10)
  constants := constants32
  toBytes x := [(x >>> 24).toUInt8, (x >>> 16).toUInt8, (x >>> 8).toUInt8, x.toUInt8]
  read
    | a :: b :: c :: d :: m =>
      ((a.toUInt32 <<< 24) ||| (b.toUInt32 <<< 16) ||| (c.toUInt32 <<< 8) ||| d.toUInt32, m)
    | _ => (0, [])
  length_toBytes _ := rfl

instance : Word UInt64 where
  size := 8
  bigSigma0 x := rotate64 x 28 ^^^ rotate64 x 34 ^^^ rotate64 x 39
  bigSigma1 x := rotate64 x 14 ^^^ rotate64 x 18 ^^^ rotate64 x 41
  smallSigma0 x := rotate64 x 1 ^^^ rotate64 x 8 ^^^ (x >>> 7)
  smallSigma1 x := rotate64 x 19 ^^^ rotate64 x 61 ^^^ (x >>> 6)
  constants := constants64
  toBytes x :=
    [(x >>> 56).toUInt8, (x >>> 48).toUInt8, (x >>> 40).toUInt8, (x >>> 32).toUInt8,
      (x >>> 24).toUInt8, (x >>> 16).toUInt8, (x >>> 8).toUInt8, x.toUInt8]
  read
    | a :: b :: c :: d :: e :: f :: g :: h :: m =>
      ((a.toUInt64 <<< 56) ||| (b.toUInt64 <<< 48) ||| (c.toUInt64 <<< 40) ||| (d.toUInt64 <<< 32) |||
        (e.toUInt64 <<< 24) ||| (f.toUInt64 <<< 16) ||| (g.toUInt64 <<< 8) ||| h.toUInt64, m)
    | _ => (0, [])
  length_toBytes _ := rfl

/-- The first state of SHA-256. -/
def initial256 : State UInt32 :=
  ⟨0x6a09e667, 0xbb67ae85, 0x3c6ef372, 0xa54ff53a,
    0x510e527f, 0x9b05688c, 0x1f83d9ab, 0x5be0cd19⟩

/-- The first state of SHA-384. -/
def initial384 : State UInt64 :=
  ⟨0xcbbb9d5dc1059ed8, 0x629a292a367cd507, 0x9159015a3070dd17, 0x152fecd8f70e5939,
    0x67332667ffc00b31, 0x8eb44a8768581511, 0xdb0c2e0d64f98fa7, 0x47b5481dbefa4fa4⟩

/-- The first state of SHA-512. -/
def initial512 : State UInt64 :=
  ⟨0x6a09e667f3bcc908, 0xbb67ae8584caa73b, 0x3c6ef372fe94f82b, 0xa54ff53a5f1d36f1,
    0x510e527fade682d1, 0x9b05688c2b3e6c1f, 0x1f83d9abfb41bd6b, 0x5be0cd19137e2179⟩

end PaymentCredentials.Sha2
