import PaymentCredentials.Proofs.CipherRoundTrip
import PaymentCredentials.Proofs.ClaimsRoundTrip
import PaymentCredentials.Proofs.ContainerMac

/-!
Claims sealed into a container and taken out of it again. Encoding bounds the compressed claims, reading
bounds the text that they decompress to, so not everything that can be sealed can be read back.
-/
namespace PaymentCredentials

theorem Entropy.draw_of_le {count : Nat} {e : Entropy} (h : count ≤ e.supply.length) :
    ∃ drawn, e.draw count = .ok (drawn, ⟨e.supply.drop count⟩) := ⟨_, dif_pos h⟩

theorem Entropy.error_of_draw {count : Nat} {e : Entropy} {fault : CredentialFault}
    (h : e.draw count = .error fault) : ∃ reason, fault = .random reason := by
  unfold draw at h
  split at h
  · cases h
  · exact ⟨_, (Except.error.inj h).symm⟩

namespace Authorization

/-- The authorization as it is read from a wire form: the same container, the claims not taken out. -/
def closed (a : Authorization) : Authorization := { a with claims := .empty }

/-- The signature has the size of a code, and the ciphertext keeps to the limit. -/
structure Framed (a : Authorization) : Prop where
  signature : a.container.signature.length = a.hash.outputSize
  ciphertext : a.container.ciphertext.length ≤ a.maxMessageSize.toNat + Cipher.blockSize

theorem Framed.length_signature_le {a : Authorization} (h : a.Framed) : a.container.signature.length ≤ 64 := by
  rw [h.signature]
  cases a.hash <;> decide

/-- A wire form of the size of a text is read as the container that it was made of. -/
theorem Framed.readWire_toWire {r a : Authorization} (h : a.Framed) (hhash : r.hash = a.hash)
    (hlimit : r.maxMessageSize = a.maxMessageSize) (hsize : a.toWire.utf8ByteSize ≤ Container.maxSize) :
    r.readWire a.toWire = .ok a.closed := by
  have hread := Container.ofWire_toWire a.container h.ciphertext hsize
  rw [h.signature, ← hhash, ← hlimit] at hread
  rw [toWire, readWire_of_ofWire hread, closed, hhash, hlimit]

theorem readWire_of_maxSize_lt {r a : Authorization} (h : Container.maxSize < a.toWire.utf8ByteSize) :
    r.readWire a.toWire = .error (.malformed .exceedsSizeLimit) := by
  have hlong : Container.maxWireLength r.hash.outputSize r.maxMessageSize < a.toWire.utf8ByteSize :=
    Nat.lt_of_le_of_lt (Nat.min_le_right _ _) h
  have htrim : Text.trim a.toWire = a.toWire := Base64.trim_encode _
  have hread : Container.ofWire r.hash.outputSize r.maxMessageSize a.toWire = .error .exceedsSizeLimit := by
    simp only [Container.ofWire, htrim, if_pos hlong]
  rw [readWire, hread]
  rfl

section

variable (a : Authorization) (key : Bytes) (salt : Draw saltSize) (counter : Draw Cipher.blockSize)

/-- The authorization with its own claims sealed. -/
def sealed : Authorization := a.sealWith key salt counter.bytes a.claims.compress

theorem length_signature_sealed :
    (a.sealed key salt counter).container.signature.length = a.hash.outputSize := length_hmac _ _ _

theorem length_ciphertext_sealed : (a.sealed key salt counter).container.ciphertext.length =
    a.claims.compress.length + Cipher.blockSize := by
  have hlength := Cipher.length_encrypt (deriveKey a.hash key salt.bytes) counter.bytes a.claims.compress
  rw [counter.size, Nat.add_comm] at hlength
  exact hlength

theorem framed_sealed (h : a.claims.compress.length ≤ a.maxMessageSize.toNat) :
    (a.sealed key salt counter).Framed := by
  refine ⟨length_signature_sealed a key salt counter, ?_⟩
  rw [length_ciphertext_sealed]
  exact Nat.add_le_add_right h _

theorem isAuthentic_sealed : isAuthentic (a.sealed key salt counter).closed key = .ok true :=
  congrArg Except.ok (sameBytes_iff.mpr rfl)

variable {a}

theorem decode_of_decrypt {compressed : Bytes}
    (h : Cipher.decrypt? (deriveKey a.hash key a.container.salt) a.container.ciphertext = some compressed) :
    a.decode key = (do return { a with claims := ← Claims.decompress a.maxTextLength compressed }) := by
  rw [decode, h]

/-- Taking the claims out touches nothing but the claims. -/
theorem claims_of_decode {b : Authorization} {key : Bytes} (h : a.decode key = .ok b) :
    ∃ claims, b = { a with claims := claims } := by
  unfold decode at h
  split at h
  · cases h
  · obtain ⟨claims, -, h⟩ := ok_of_bind h
    exact ⟨claims, (Except.ok.inj h).symm⟩

/-- Sealed claims are taken out again under the key they were sealed under, if their text is within the
bounds of reading. -/
theorem decode_sealed (h : a.claims.Integral) : (a.sealed key salt counter).closed.decode key =
    if a.maxTextLength < a.claims.text.length then .error (.compression (.gzip .exceedsLimit))
    else if a.claims.nesting ≤ Json.maxDepth then .ok (a.sealed key salt counter)
    else .error (.serialization (.json .malformed)) := by
  have hdecrypt : Cipher.decrypt?
      (deriveKey (a.sealed key salt counter).closed.hash key (a.sealed key salt counter).closed.container.salt)
      (a.sealed key salt counter).closed.container.ciphertext = some a.claims.compress :=
    Cipher.decrypt?_encrypt _ counter.size a.claims.compress_ne_nil
  have hclaims : Claims.decompress (a.sealed key salt counter).closed.maxTextLength a.claims.compress = _ :=
    Claims.decompress_compress h a.maxTextLength
  rw [decode_of_decrypt key hdecrypt, hclaims]
  split
  · rfl
  split <;> rfl

end

/-- Encoding seals the claims, and does so only if they are within the limit when compressed. -/
theorem encode_cases {a b : Authorization} {key : Bytes} {e e' : Entropy}
    (h : a.encode key e = .ok (b, e')) : a.claims.compress.length ≤ a.maxMessageSize.toNat ∧
      ∃ (salt : Draw saltSize) (counter : Draw Cipher.blockSize), b = a.sealed key salt counter := by
  by_cases hlimit : a.maxMessageSize.toNat < a.claims.compress.length
  · simp only [encode, if_pos hlimit] at h
    cases h
  simp only [encode, if_neg hlimit] at h
  obtain ⟨⟨salt, _⟩, -, h⟩ := ok_of_bind h
  obtain ⟨⟨counter, _⟩, -, h⟩ := ok_of_bind h
  obtain ⟨hsealed, -⟩ := Prod.mk.inj (Except.ok.inj h)
  exact ⟨Nat.le_of_not_lt hlimit, salt, counter, hsealed.symm⟩

/-- Encoding fails with claims beyond the limit, or for want of random bytes. -/
theorem error_of_encode {a : Authorization} {key : Bytes} {e : Entropy} {fault : CredentialFault}
    (h : a.encode key e = .error fault) :
    (∃ size limit, fault = .messageTooLarge size limit) ∨ ∃ reason, fault = .random reason := by
  by_cases hlimit : a.maxMessageSize.toNat < a.claims.compress.length
  · simp only [encode, if_pos hlimit] at h
    exact Or.inl ⟨_, _, (Except.error.inj h).symm⟩
  simp only [encode, if_neg hlimit] at h
  rcases error_of_bind h with hsalt | ⟨⟨salt, e₁⟩, -, h⟩
  · exact Or.inr (Entropy.error_of_draw hsalt)
  rcases error_of_bind h with hcounter | ⟨⟨counter, e₂⟩, -, h⟩
  · exact Or.inr (Entropy.error_of_draw hcounter)
  · cases h

/-- Claims within the limit are encoded, given enough random bytes. -/
theorem exists_encode (a : Authorization) {e : Entropy}
    (hlimit : a.claims.compress.length ≤ a.maxMessageSize.toNat)
    (hsupply : saltSize + Cipher.blockSize ≤ e.supply.length) (key : Bytes) :
    ∃ b e', a.encode key e = .ok (b, e') := by
  have hrest : Cipher.blockSize ≤ (Entropy.mk (e.supply.drop saltSize)).supply.length := by
    rw [List.length_drop]
    omega
  obtain ⟨salt, hsalt⟩ := Entropy.draw_of_le (Nat.le_of_add_right_le hsupply)
  obtain ⟨counter, hcounter⟩ := Entropy.draw_of_le hrest
  refine ⟨a.sealed key salt counter, ⟨(e.supply.drop saltSize).drop Cipher.blockSize⟩, ?_⟩
  simp only [encode, if_neg (Nat.not_lt_of_le hlimit)]
  exact (bind_of_ok hsalt _).trans (bind_of_ok hcounter _)

end Authorization

end PaymentCredentials
