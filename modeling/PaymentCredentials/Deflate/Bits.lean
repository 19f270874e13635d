import PaymentCredentials.Bytes

/-!
Bit streams: the bits of a byte string, the least significant bit of each byte first.
-/
namespace PaymentCredentials.Deflate

/-- The bits of a byte, least significant first. -/
def bitsOfByte (b : UInt8) : List Bool :=
  [b &&& 1 != 0, b &&& 2 != 0, b &&& 4 != 0, b &&& 8 != 0, b &&& 16 != 0, b &&& 32 != 0,
    b &&& 64 != 0, b &&& 128 != 0]

/-- The number that a list of bits spells, least significant first. -/
def natOfBits : List Bool → Nat
  | [] => 0
  | b :: bs => b.toNat + 2 * natOfBits bs

/-- A number in a given count of bits, least significant first. -/
def bitsOfNat : (count n : Nat) → List Bool
  | 0, _ => []
  | k + 1, n => (n % 2 == 1) :: bitsOfNat k (n / 2)

/-- The bytes that a list of bits fills, the last one filled up with zeros. -/
def bytesOfBits : List Bool → Bytes
  | a :: b :: c :: d :: e :: f :: g :: h :: rest =>
    UInt8.ofNat (natOfBits [a, b, c, d, e, f, g, h]) :: bytesOfBits rest
  | [] => []
  | bs => [UInt8.ofNat (natOfBits bs)]

/-- What is left of a bit stream: the bits of a byte begun, and the bytes after it. -/
structure Bits where
  pending : List Bool
  rest : Bytes

namespace Bits

def ofBytes (b : Bytes) : Bits := ⟨[], b⟩

def size (s : Bits) : Nat := s.pending.length + 8 * s.rest.length

def next? (s : Bits) : Option (Bool × Bits) :=
  match s.pending with
  | b :: bs => some (b, ⟨bs, s.rest⟩)
  | [] =>
    match s.rest with
    | [] => none
    | x :: xs =>
      match bitsOfByte x with
      | b :: bs => some (b, ⟨bs, xs⟩)
      | [] => none

/-- The next bits as a number, the first one least significant. -/
def take? : (count : Nat) → Bits → Option (Nat × Bits)
  | 0, s => some (0, s)
  | n + 1, s => do
    let (b, s) ← s.next?
    let (v, s) ← take? n s
    return (b.toNat + 2 * v, s)

def align (s : Bits) : Bits := ⟨[], s.rest⟩

end Bits

end PaymentCredentials.Deflate
