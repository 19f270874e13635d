import PaymentCredentials.Claims
import PaymentCredentials.Container
import PaymentCredentials.Entropy
import PaymentCredentials.Instant
import PaymentCredentials.Signature

/-!
Authorizations: claims that services with a common key hand each other, with an expiry. Encoding seals the
claims into a container, decoding takes them out of it. The container is enciphered under a key derived
for it alone, and signed over its timestamp, salt and ciphertext. Decoding an expired container succeeds:
its expiry is for the reader to look at.
-/
namespace PaymentCredentials

/-- A sealed container, and the claims in the clear. Before encoding and after reading a wire form the
two have nothing to do with each other. -/
structure Authorization where
  container : Container
  claims : Claims
  hash : HashAlgorithm
  maxMessageSize : UInt64

namespace Authorization

def defaultMaxMessageSize : UInt64 := 4096

/-- How many times longer than the limit of compressed claims their text may be. -/
def decompressionFactor : Nat := 16

/-- An authorization without claims, not encoded yet. -/
def new (hash : HashAlgorithm) (maxMessageSize : UInt64) : Authorization :=
  ⟨⟨0, List.replicate saltSize 0, List.replicate hash.outputSize 0, [], by decide⟩, .empty, hash,
    maxMessageSize⟩

/-- The authorization of a wire form, with the hash and the limit of this one. Its claims are sealed. -/
def readWire (a : Authorization) (wire : String) : Except CredentialFault Authorization := do
  let container ← (Container.ofWire a.hash.outputSize a.maxMessageSize wire).mapError .malformed
  return { a with container := container, claims := .empty }

/-- The authorization of a byte stream, under the default limit. No more of the stream is looked at than
one byte behind the longest wire form. -/
def readStream (hash : HashAlgorithm) (stream : Bytes) : Except CredentialFault Authorization := do
  let limit := Container.maxWireLength hash.outputSize defaultMaxMessageSize
  match ofUtf8? (stream.take (limit + 1)) with
  | none => throw (.malformed .notText)
  | some wire => (new hash defaultMaxMessageSize).readWire wire

/-- The wire form, for use after encoding. -/
def toWire (a : Authorization) : String := a.container.toWire

/-- The authorization with an expiry, to the second. -/
def expiringAt (a : Authorization) (time : Instant) : Authorization :=
  { a with container := { a.container with timestamp := time.timestamp } }

/-- The authorization with one more claim, or with a new value for it. -/
def insert (a : Authorization) (key : String) (value : OrderedJson) : Authorization :=
  { a with claims := a.claims.insert key value }

/-- The expiry. Timestamps beyond the calendar count as its beginning, and so as expired. -/
def expiry (a : Authorization) : Instant :=
  (Instant.ofUnix? a.container.timestamp.toInt 0).getD .earliest

/-- Whether the authorization is expired. At its expiry it is not. -/
def isExpiredAt (a : Authorization) (now : Instant) : Bool := a.expiry.before now

/-- The message that is signed: the timestamp, the salt and the ciphertext. -/
def message (a : Authorization) : Bytes :=
  utf8 (Decimal.ofInt a.container.timestamp.toInt) ++ a.container.salt ++ a.container.ciphertext

instance : Signed Authorization where
  message a := .ok a.message
  hash a := a.hash
  signature a := .ok a.container.signature

/-- The longest text of decompressed claims. -/
def maxTextLength (a : Authorization) : Nat :=
  min (decompressionFactor * a.maxMessageSize.toNat) Container.maxSize

/-- The authorization with a given salt and initial counter, its claims sealed under a key. -/
def sealWith (a : Authorization) (key : Bytes) (salt : Draw saltSize) (counter compressed : Bytes) :
    Authorization :=
  let cipherKey := deriveKey a.hash key salt.bytes
  let container : Container :=
    ⟨a.container.timestamp, salt.bytes, a.container.signature,
      Cipher.encrypt cipherKey counter compressed, salt.size⟩
  let unsigned := { a with container := container }
  { a with container := { container with signature := hmac a.hash key unsigned.message } }

/-- Seals the claims under a key, with a new salt and a new initial counter. Claims that are too large
when compressed are refused before anything is drawn. -/
def encode (a : Authorization) (key : Bytes) (e : Entropy) :
    Except CredentialFault (Authorization × Entropy) := do
  let compressed := a.claims.compress
  if a.maxMessageSize.toNat < compressed.length then
    throw (.messageTooLarge compressed.length a.maxMessageSize.toNat)
  let (salt, e) ← e.draw saltSize
  let (counter, e) ← e.draw Cipher.blockSize
  return (a.sealWith key salt counter.bytes compressed, e)

/-- Takes the claims out of the container, with the key it was sealed under. The signature is not looked
at. -/
def decode (a : Authorization) (key : Bytes) : Except CredentialFault Authorization := do
  match Cipher.decrypt? (deriveKey a.hash key a.container.salt) a.container.ciphertext with
  | none => throw .undecipherable
  | some compressed =>
    let claims ← Claims.decompress a.maxTextLength compressed
    return { a with claims := claims }

/-- What is shown of an authorization: its expiry, its hash and its sizes. -/
def summary (a : Authorization) : String :=
  "Authorization \x7b expiry: " ++ Decimal.ofInt a.container.timestamp.toInt ++ ", hash: " ++
    (match a.hash with
    | .sha256 => "Sha256"
    | .sha384 => "Sha384"
    | .sha512 => "Sha512") ++
    ", ciphertext_len: " ++ Decimal.ofInt a.container.ciphertext.length ++ ", claims: " ++
    Decimal.ofInt a.claims.size ++ " \x7d"

end Authorization

end PaymentCredentials
