import PaymentCredentials.Cipher.Rijndael

/-!
AES-256 in counter mode. A ciphertext carries its initial counter in front. Deciphering with the key
that enciphered gives the text back.
-/
namespace PaymentCredentials.Cipher

/-- Bytes in a block, and in the initial counter. -/
def blockSize : Nat := 16

/-- The enciphered counters of consecutive blocks. -/
def keystream (keys : List Rijndael.Block) : (blocks counter : Nat) → Bytes
  | 0, _ => []
  | n + 1, counter =>
    (Rijndael.encipher keys (Rijndael.Block.ofBytes (Bytes.ofNatBE blockSize counter))).toBytes ++
      keystream keys n (counter + 1)

/-- A text combined with the keystream of a key and an initial counter. The counter wraps around at
the end of its 128 bits. -/
def apply (key counter text : Bytes) : Bytes :=
  text.xor (keystream (Rijndael.roundKeys key) ((text.length + 15) / blockSize)
    (Bytes.toNatBE counter))

/-- The initial counter, followed by the text enciphered from it on. -/
def encrypt (key counter text : Bytes) : Bytes := counter ++ apply key counter text

/-- The text of a ciphertext. One that is no longer than a block holds no text. -/
def decrypt? (key data : Bytes) : Option Bytes :=
  if data.length ≤ blockSize then none
  else some (apply key (data.take blockSize) (data.drop blockSize))

end PaymentCredentials.Cipher
