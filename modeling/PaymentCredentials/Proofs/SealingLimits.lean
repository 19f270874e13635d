import PaymentCredentials.Proofs.CompressedSize
import PaymentCredentials.Proofs.ContainerRun

/-!
What can be sealed and what can be opened. Sealing asks only that the claims, when compressed, are within
the limit. Opening gives back what was sealed, whatever was drawn for it and whether or not the container
travelled in between, as long as the text of the claims is no longer than the bound of decompression and
nests no deeper than texts are read.
-/
namespace PaymentCredentials.Authorization

/-- The claims can be taken out again: their text is within the bound of decompression, and it nests no deeper
than texts are read. -/
structure Readable (a : Authorization) : Prop where
  text : a.claims.text.length ≤ min (16 * a.maxMessageSize.toNat) Container.maxSize
  nesting : a.claims.nesting ≤ Json.maxDepth

theorem decode_sealed_eq_ok_iff {a : Authorization} (hintegral : a.claims.Integral) (key : Bytes)
    (salt : Draw saltSize) (counter : Draw Cipher.blockSize) (c : Authorization) :
    (a.sealed key salt counter).closed.decode key = .ok c ↔
      a.Readable ∧ c = a.sealed key salt counter := by
  rw [decode_sealed key salt counter hintegral]
  split
  · rename_i hlong
    refine ⟨fun h => (nomatch h), fun ⟨hreadable, _⟩ => ?_⟩
    exact absurd hreadable.text (Nat.not_le_of_lt hlong)
  rename_i htext
  split
  · rename_i hnesting
    refine ⟨fun h => ⟨⟨Nat.le_of_not_lt htext, hnesting⟩, (Except.ok.inj h).symm⟩, fun ⟨_, h⟩ => ?_⟩
    rw [h]
  · rename_i hnesting
    exact ⟨fun h => (nomatch h), fun ⟨hreadable, _⟩ => absurd hreadable.nesting hnesting⟩

/-- **Opening inverts sealing within its bounds.** Claims without fractions are sealed, given enough random
bytes, exactly if they are within the limit when compressed. What was sealed is opened under the same key
exactly if it is readable, and gives the claims that were sealed. The same goes for its wire form, if that is
one that there can be, wherever it is read under the same hash and limit. -/
theorem opened_iff_readable (a : Authorization) (key : Bytes) (hintegral : a.claims.Integral) :
    (∀ e : Entropy, saltSize + Cipher.blockSize ≤ e.supply.length →
      ((∃ b e', a.encode key e = .ok (b, e')) ↔ a.claims.compress.length ≤ a.maxMessageSize.toNat)) ∧
    ∀ e b e', a.encode key e = .ok (b, e') →
      b.claims = a.claims ∧ (∀ c, b.decode key = .ok c ↔ a.Readable ∧ c = b) ∧
        (b.Writable → ∀ reader : Authorization, reader.hash = a.hash →
          reader.maxMessageSize = a.maxMessageSize →
            ∃ r, reader.readWire b.toWire = .ok r ∧ ∀ c, r.decode key = .ok c ↔ a.Readable ∧ c = b) := by
  refine ⟨fun e hsupply => ⟨?_, fun hlimit => exists_encode a hlimit hsupply key⟩, ?_⟩
  · rintro ⟨b, e', hencode⟩
    exact (encode_cases hencode).1
  · rintro e b e' hencode
    obtain ⟨hlimit, salt, counter, rfl⟩ := encode_cases hencode
    -- The claims in the clear have no part in opening, so this speaks of what was sealed and of what is read.
    have hopened := decode_sealed_eq_ok_iff hintegral key salt counter
    have hframed := framed_sealed a key salt counter hlimit
    refine ⟨rfl, hopened, fun hwritable reader hhash hmax => ⟨_, ?_, hopened⟩⟩
    exact hframed.readWire_toWire hhash hmax (hframed.utf8ByteSize_toWire_le hwritable)

/-- An authorization with claims of a user and of a route, not sealed yet. -/
def courier : Authorization :=
  ((new .sha384 4096).insert Claims.userKey (.ofText "zoë \"Z\" 🦀")).insert "route" (.ofText "a\\b\n")

/-- It is sealed and, after a journey, opened. -/
theorem opened_iff_readable_courier : courier.claims.Integral ∧ courier.Readable ∧
    ∃ b e' r, courier.encode [0x0B] ⟨List.replicate 32 0x5C⟩ = .ok (b, e') ∧
      (new .sha384 4096).readWire b.toWire = .ok r ∧ r.decode [0x0B] = .ok b := by
  have hintegral : courier.claims.Integral := by
    rw [Claims.Integral]
    decide +kernel
  have hreadable : courier.Readable := ⟨by decide +kernel, by decide +kernel⟩
  have hlimit : courier.claims.compress.length ≤ courier.maxMessageSize.toNat := by
    calc courier.claims.compress.length ≤ courier.claims.text.length + 23 :=
          Gzip.length_compress_le (by decide +kernel) (by decide +kernel)
      _ ≤ courier.maxMessageSize.toNat := by decide +kernel
  obtain ⟨hsealed, hopened⟩ := opened_iff_readable courier [0x0B] hintegral
  obtain ⟨b, e', hencode⟩ := (hsealed ⟨List.replicate 32 0x5C⟩ (by decide)).mpr hlimit
  obtain ⟨-, -, htravelled⟩ := hopened _ _ _ hencode
  have hwritable : b.Writable := by
    obtain ⟨-, salt, counter, rfl⟩ := encode_cases hencode
    have hmoderate : courier.maxMessageSize.toNat ≤ Container.moderateLimit := by decide
    exact Or.inl hmoderate
  obtain ⟨r, hread, hdecode⟩ := htravelled hwritable (new .sha384 4096) rfl rfl
  exact ⟨hintegral, hreadable, b, e', r, hencode, hread, (hdecode b).mpr ⟨hreadable, rfl⟩⟩

end PaymentCredentials.Authorization
