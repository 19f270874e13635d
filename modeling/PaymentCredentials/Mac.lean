import PaymentCredentials.Sha2

/-!
Keyed hashes: HMAC over the SHA-2 family, and keys derived by repeating it. A tag is as long as the
digest of its hash.
-/
namespace PaymentCredentials

/-- The hash of a message authentication code. -/
inductive HashAlgorithm
  | sha256
  | sha384
  | sha512
  deriving DecidableEq, Repr

namespace HashAlgorithm

/-- All hashes, weakest first. -/
def all : List HashAlgorithm := [.sha256, .sha384, .sha512]

/-- Bytes in a digest, and so in a tag. -/
def outputSize : HashAlgorithm → Nat
  | .sha256 => 32
  | .sha384 => 48
  | .sha512 => 64

def name : HashAlgorithm → String
  | .sha256 => "sha256"
  | .sha384 => "sha384"
  | .sha512 => "sha512"

end HashAlgorithm

namespace Mac

open Sha2

/-- The states of a hash after the inner and the outer block of a key. -/
structure Keyed (W : Type) where
  inner : State W
  outer : State W

/-- A key made ready for any number of tags. -/
inductive Prepared
  | narrow (size : Nat) (key : Keyed UInt32)
  | wide (size : Nat) (key : Keyed UInt64)

section

variable {W : Type} [Word W]

@[specialize] def digest (initial : State W) (size : Nat) (m : Bytes) : Bytes :=
  (initial.finish 0 m).toBytes.take size

/-- A key as the two states it starts tags with. A key longer than a block is replaced by its
digest. -/
@[specialize] def Keyed.ofKey (initial : State W) (size : Nat) (key : Bytes) : Keyed W :=
  let short := if blockSize W < key.length then digest initial size key else key
  let block := short ++ List.replicate (blockSize W - short.length) 0
  ⟨initial.absorb 1 (block.map (· ^^^ 0x36)), initial.absorb 1 (block.map (· ^^^ 0x5c))⟩

/-- The tag of a message. -/
@[specialize] def Keyed.tag (key : Keyed W) (size : Nat) (m : Bytes) : Bytes :=
  let inner := (key.inner.finish (blockSize W) m).toBytes.take size
  (key.outer.finish (blockSize W) inner).toBytes.take size

theorem Keyed.length_tag (key : Keyed W) (size : Nat) (m : Bytes) (h : size ≤ 8 * Word.size W) :
    (key.tag size m).length = size := by
  simp [Keyed.tag, State.length_toBytes, Nat.min_eq_left h]

end

/-- Makes a key ready. -/
def prepare : HashAlgorithm → Bytes → Prepared
  | .sha256, key => .narrow 32 (Keyed.ofKey initial256 32 key)
  | .sha384, key => .wide 48 (Keyed.ofKey initial384 48 key)
  | .sha512, key => .wide 64 (Keyed.ofKey initial512 64 key)

def Prepared.tag : Prepared → Bytes → Bytes
  | .narrow size key, m => key.tag size m
  | .wide size key, m => key.tag size m

end Mac

/-- The message authentication code of a message under a key. -/
def hmac (hash : HashAlgorithm) (key m : Bytes) : Bytes := (Mac.prepare hash key).tag m

theorem length_hmac (hash : HashAlgorithm) (key m : Bytes) :
    (hmac hash key m).length = hash.outputSize := by
  cases hash <;>
    exact Mac.Keyed.length_tag _ _ _ (by decide)

def derivationRounds : Nat := 4096

def derivedKeySize : Nat := 32

/-- The exclusive or of the next `n` tags, each taken of the one before it. -/
def Mac.Prepared.fold (key : Prepared) : (n : Nat) → (last acc : Bytes) → Bytes
  | 0, _, acc => acc
  | n + 1, last, acc =>
    let next := key.tag last
    fold key n next (acc.xor next)

/-- A cipher key derived from a secret and a salt by PBKDF2. A key of 32 bytes is part of the first
block of its output, whatever the hash. -/
def deriveKey (hash : HashAlgorithm) (secret salt : Bytes) : Bytes :=
  let key := Mac.prepare hash secret
  let first := key.tag (salt ++ [0, 0, 0, 1])
  (key.fold (derivationRounds - 1) first first).take derivedKeySize

end PaymentCredentials
