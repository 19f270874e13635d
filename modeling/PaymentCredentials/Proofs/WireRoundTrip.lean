import PaymentCredentials.Proofs.WireGrammar

/-!
Containers read back from their wire forms. The bytes of a container are laid out as the container, so a
ciphertext within its limit is all that it takes; the sizes of what is read follow from the layout as well.
-/
namespace PaymentCredentials.Container

theorem denotes_ofInt (n : Int64) : Decimal.Denotes (Decimal.ofInt n.toInt).toList n.toInt := by
  rw [Decimal.ofInt, String.toList_ofList]
  exact Decimal.denotes_numeral n.toInt

theorem frames_toBytes (c : Container) {limit : UInt64}
    (hciphertext : c.ciphertext.length ≤ maxCiphertextLength limit) :
    Frames c.signature.length limit c.toBytes (Decimal.ofInt c.timestamp.toInt) c where
  bytes := by simp only [toBytes, List.append_assoc, List.cons_append]
  numeral_length := by
    rw [Decimal.utf8_ofInt, List.length_map]
    exact Decimal.length_numeral_le c.timestamp
  no_separator := separator_not_mem (denotes_ofInt c.timestamp)
  denotes := denotes_ofInt c.timestamp
  signature := rfl
  ciphertext := hciphertext

theorem length_toBytes_le (c : Container) : c.toBytes.length ≤
    maxTimestampLength + 1 + saltSize + c.signature.length + c.ciphertext.length := by
  have hfront := Decimal.length_numeral_le c.timestamp
  have hsalt := c.salt_size
  simp only [toBytes, Decimal.utf8_ofInt, List.length_append, List.length_cons, List.length_map,
    maxTimestampLength]
  omega

theorem length_ciphertext_le_maxSize (c : Container) (hsize : c.toWire.utf8ByteSize ≤ maxSize) :
    c.ciphertext.length ≤ maxSize := by
  have hbytes : c.ciphertext.length ≤ c.toBytes.length := by
    simp only [toBytes, List.length_append]
    omega
  rw [toWire, Base64.utf8ByteSize_encode] at hsize
  omega

/-- A ciphertext within its limit makes a wire form within its own, as long as the size of a text. -/
theorem utf8ByteSize_toWire_le (c : Container) {limit : UInt64}
    (hciphertext : c.ciphertext.length ≤ limit.toNat + Cipher.blockSize)
    (hsize : c.toWire.utf8ByteSize ≤ maxSize) :
    c.toWire.utf8ByteSize ≤ maxWireLength c.signature.length limit :=
  (frames_toBytes c (Nat.le_min.mpr ⟨hciphertext, length_ciphertext_le_maxSize c hsize⟩)).utf8ByteSize_le hsize

/-- **Containers read back.** The wire form of a container is read as the container, under the size of its
signature and any limit that its ciphertext keeps to. -/
theorem ofWire_toWire (c : Container) {limit : UInt64}
    (hciphertext : c.ciphertext.length ≤ limit.toNat + Cipher.blockSize)
    (hsize : c.toWire.utf8ByteSize ≤ maxSize) :
    ofWire c.signature.length limit c.toWire = .ok c := by
  have hmax : c.ciphertext.length ≤ maxCiphertextLength limit :=
    Nat.le_min.mpr ⟨hciphertext, length_ciphertext_le_maxSize c hsize⟩
  have htrim : Text.trim c.toWire = c.toWire := Base64.trim_encode _
  rw [ofWire_eq_ok_iff_frames, htrim]
  exact ⟨hsize, c.toBytes, Decimal.ofInt c.timestamp.toInt, rfl, frames_toBytes c hmax⟩

/-! ### Sizes -/

/-- A limit of compressed texts under which wire forms have the size of a text, whatever is in them. It takes
up three quarters of the range of limits. -/
def moderateLimit : Nat := 0xBFFFFFFFFFFFFF00

theorem utf8ByteSize_toWire_le_maxSize (c : Container) (hsignature : c.signature.length ≤ 64)
    (hciphertext : c.ciphertext.length ≤ moderateLimit + Cipher.blockSize) :
    c.toWire.utf8ByteSize ≤ maxSize := by
  have hbytes := length_toBytes_le c
  rw [toWire, Base64.utf8ByteSize_encode]
  simp only [maxTimestampLength, saltSize, Cipher.blockSize, moderateLimit, maxSize] at hbytes hciphertext ⊢
  omega

/-- What is read as a container has a signature of the size asked for and a ciphertext within the limit. -/
theorem sizes_of_ofWire {signatureSize : Nat} {limit : UInt64} {wire : String} {c : Container}
    (h : ofWire signatureSize limit wire = .ok c) :
    c.signature.length = signatureSize ∧ c.ciphertext.length ≤ maxCiphertextLength limit := by
  obtain ⟨-, _, _, -, hframes⟩ := ofWire_eq_ok_iff_frames.mp h
  exact ⟨hframes.signature, hframes.ciphertext⟩

end PaymentCredentials.Container
