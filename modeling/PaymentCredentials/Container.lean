import PaymentCredentials.Base64
import PaymentCredentials.Cipher
import PaymentCredentials.Fault
import PaymentCredentials.Text.Blank

/-!
The wire form of sealed containers: base64 of an expiry in decimal digits, a bar, a salt, a signature and
a ciphertext. Only the ciphertext may have any length, so the text needs no other marks. Nothing is
verified here.
-/
namespace PaymentCredentials

/-- Bytes in a salt. -/
def saltSize : Nat := 8

/-- A sealed container. The timestamp is its expiry in seconds since the beginning of 1970. -/
structure Container where
  timestamp : Int64
  salt : Bytes
  signature : Bytes
  ciphertext : Bytes
  salt_size : salt.length = saltSize

namespace Container

/-- The bar between the timestamp and what follows it. -/
def separator : UInt8 := 0x7C

/-- The most digits of a timestamp, its sign included. -/
def maxTimestampLength : Nat := 20

/-- The greatest size that is told apart from greater ones. -/
def maxSize : Nat := 0xFFFFFFFFFFFFFFFF

/-- The longest ciphertext of a compressed text within a limit. -/
def maxCiphertextLength (maxMessageSize : UInt64) : Nat :=
  min (maxMessageSize.toNat + Cipher.blockSize) maxSize

/-- The longest wire form of a container with a compressed text within a limit. -/
def maxWireLength (signatureSize : Nat) (maxMessageSize : UInt64) : Nat :=
  let bytes := min (maxTimestampLength + 1 + saltSize + Cipher.blockSize + signatureSize +
    maxMessageSize.toNat) maxSize
  min ((bytes + 2) / 3 * 4) maxSize

def toBytes (c : Container) : Bytes :=
  utf8 (Decimal.ofInt c.timestamp.toInt) ++ separator :: c.salt ++ c.signature ++ c.ciphertext

def toWire (c : Container) : String := Base64.encode c.toBytes

def readTimestamp (b : Bytes) : Except Malformation Int64 :=
  match ofUtf8? b with
  | none => .error .badTimestamp
  | some s => (Decimal.readInt64 s).mapError fun _ => .badTimestamp

/-- What follows the separator, if it stands close enough to the beginning for a timestamp. -/
def readSealed (signatureSize : Nat) (maxMessageSize : UInt64) (timestamp : Int64) (rest : Bytes) :
    Except Malformation Container :=
  if h : rest.length < saltSize + signatureSize then .error .tooShort
  else
    let tail := rest.drop saltSize
    if maxCiphertextLength maxMessageSize < (tail.drop signatureSize).length then
      .error .ciphertextExceedsLimit
    else
      .ok ⟨timestamp, rest.take saltSize, tail.take signatureSize, tail.drop signatureSize, by
        simp only [List.length_take]; omega⟩

def ofBytes (signatureSize : Nat) (maxMessageSize : UInt64) (b : Bytes) :
    Except Malformation Container :=
  let front := b.takeWhile (· ≠ separator)
  match b.dropWhile (· ≠ separator) with
  | [] => .error .noSeparator
  | _ :: rest =>
    if maxTimestampLength < front.length then .error .noSeparator
    else do
      let timestamp ← readTimestamp front
      readSealed signatureSize maxMessageSize timestamp rest

/-- The container of a wire form. Blanks around it do not matter. -/
def ofWire (signatureSize : Nat) (maxMessageSize : UInt64) (wire : String) :
    Except Malformation Container :=
  let wire := Text.trim wire
  if maxWireLength signatureSize maxMessageSize < wire.utf8ByteSize then .error .exceedsSizeLimit
  else
    match Base64.decode? wire with
    | none => .error .notBase64
    | some b => ofBytes signatureSize maxMessageSize b

end Container

end PaymentCredentials
