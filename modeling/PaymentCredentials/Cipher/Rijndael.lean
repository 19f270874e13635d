import PaymentCredentials.Bytes

/-!
The block cipher AES-256. A block is four columns of four bytes; a key is expanded into a list of round
keys of the same shape.
-/
namespace PaymentCredentials.Rijndael

/-- Multiplication by `x` in the field of 256 elements. -/
def double (b : UInt8) : UInt8 := (b <<< 1) ^^^ (if b &&& 0x80 = 0 then 0 else 0x1b)

/-- The first `n` steps of the product of two field elements. -/
def productFrom : (n : Nat) → UInt8 → UInt8 → UInt8
  | 0, _, _ => 0
  | n + 1, a, b => (if b &&& 1 = 0 then 0 else a) ^^^ productFrom n (double a) (b >>> 1)

def product (a b : UInt8) : UInt8 := productFrom 8 a b

/-- The inverse of a field element, and zero for zero: its power with exponent 254. -/
def inverse (b : UInt8) : UInt8 :=
  let p2 := product b b
  let p4 := product p2 p2
  let p8 := product p4 p4
  let p16 := product p8 p8
  let p32 := product p16 p16
  let p64 := product p32 p32
  let p128 := product p64 p64
  product (product (product p2 p4) (product p8 p16)) (product (product p32 p64) p128)

def rotate (b n : UInt8) : UInt8 := (b <<< n) ||| (b >>> (8 - n))

/-- The substitution of one byte: the inverse, followed by an affine map. -/
def substitution (b : UInt8) : UInt8 :=
  let i := inverse b
  i ^^^ rotate i 1 ^^^ rotate i 2 ^^^ rotate i 3 ^^^ rotate i 4 ^^^ 0x63

/-- The substitution of every byte, in order. -/
def substitutionTable : Array UInt8 :=
  ((List.range 256).map fun n => substitution (UInt8.ofNat n)).toArray

/-- The substitution, looked up. -/
def substitute (b : UInt8) : UInt8 := substitutionTable.getD b.toNat 0

/-- Four bytes. -/
structure Column where
  a : UInt8
  b : UInt8
  c : UInt8
  d : UInt8

namespace Column

def xor (s t : Column) : Column := ⟨s.a ^^^ t.a, s.b ^^^ t.b, s.c ^^^ t.c, s.d ^^^ t.d⟩

def substitute (s : Column) : Column :=
  ⟨Rijndael.substitute s.a, Rijndael.substitute s.b, Rijndael.substitute s.c, Rijndael.substitute s.d⟩

def rotate (s : Column) : Column := ⟨s.b, s.c, s.d, s.a⟩

/-- The column as a polynomial, multiplied by the fixed one of the cipher. -/
def mix (s : Column) : Column :=
  let all := s.a ^^^ s.b ^^^ s.c ^^^ s.d
  ⟨s.a ^^^ all ^^^ double (s.a ^^^ s.b), s.b ^^^ all ^^^ double (s.b ^^^ s.c),
    s.c ^^^ all ^^^ double (s.c ^^^ s.d), s.d ^^^ all ^^^ double (s.d ^^^ s.a)⟩

end Column

/-- Four columns. -/
structure Block where
  c0 : Column
  c1 : Column
  c2 : Column
  c3 : Column

namespace Block

def xor (s t : Block) : Block := ⟨s.c0.xor t.c0, s.c1.xor t.c1, s.c2.xor t.c2, s.c3.xor t.c3⟩

/-- Substitution of every byte and rotation of the rows. -/
def shift (s : Block) : Block :=
  let t : Block := ⟨s.c0.substitute, s.c1.substitute, s.c2.substitute, s.c3.substitute⟩
  ⟨⟨t.c0.a, t.c1.b, t.c2.c, t.c3.d⟩, ⟨t.c1.a, t.c2.b, t.c3.c, t.c0.d⟩,
    ⟨t.c2.a, t.c3.b, t.c0.c, t.c1.d⟩, ⟨t.c3.a, t.c0.b, t.c1.c, t.c2.d⟩⟩

def mix (s : Block) : Block := ⟨s.c0.mix, s.c1.mix, s.c2.mix, s.c3.mix⟩

/-- The block that starts with the given bytes, zeros standing for missing ones. -/
def ofBytes (m : Bytes) : Block :=
  let byte (n : Nat) : UInt8 := m.getD n 0
  ⟨⟨byte 0, byte 1, byte 2, byte 3⟩, ⟨byte 4, byte 5, byte 6, byte 7⟩, ⟨byte 8, byte 9, byte 10, byte 11⟩,
    ⟨byte 12, byte 13, byte 14, byte 15⟩⟩

def toBytes (s : Block) : Bytes :=
  [s.c0.a, s.c0.b, s.c0.c, s.c0.d, s.c1.a, s.c1.b, s.c1.c, s.c1.d,
    s.c2.a, s.c2.b, s.c2.c, s.c2.d, s.c3.a, s.c3.b, s.c3.c, s.c3.d]

end Block

/-- The two blocks of the key schedule after a pair of blocks, with the constant of their step. -/
def expandPair (low high : Block) (constant : UInt8) : Block × Block :=
  let n0 := (low.c0.xor high.c3.rotate.substitute).xor ⟨constant, 0, 0, 0⟩
  let n1 := low.c1.xor n0
  let n2 := low.c2.xor n1
  let n3 := low.c3.xor n2
  let n4 := high.c0.xor n3.substitute
  let n5 := high.c1.xor n4
  let n6 := high.c2.xor n5
  let n7 := high.c3.xor n6
  (⟨n0, n1, n2, n3⟩, ⟨n4, n5, n6, n7⟩)

def expandFrom : (pairs : Nat) → (low high : Block) → (constant : UInt8) → List Block
  | 0, low, _, _ => [low]
  | n + 1, low, high, constant =>
    let (low', high') := expandPair low high constant
    low :: high :: expandFrom n low' high' (double constant)

/-- The fifteen round keys of a key of 32 bytes. -/
def roundKeys (key : Bytes) : List Block :=
  expandFrom 7 (Block.ofBytes key) (Block.ofBytes (key.drop 16)) 1

/-- The rounds for the remaining round keys; the last one does not mix. -/
def rounds : List Block → Block → Block
  | [], s => s
  | [k], s => s.shift.xor k
  | k :: ks, s => rounds ks (s.shift.mix.xor k)

def encipher : List Block → Block → Block
  | [], s => s
  | k :: ks, s => rounds ks (s.xor k)

end PaymentCredentials.Rijndael
