import PaymentCredentials.Cipher

/-!
Counter mode undoes itself: enciphering and deciphering combine a text with one keystream, which is at
least as long as the text.
-/
namespace PaymentCredentials

theorem Bytes.length_xor (a b : Bytes) : (a.xor b).length = min a.length b.length := List.length_zipWith

theorem Bytes.xor_xor {a b : Bytes} (h : a.length ≤ b.length) : (a.xor b).xor b = a := by
  induction a generalizing b with
  | nil => rfl
  | cons x a ih =>
      cases b with
      | nil => exact absurd h (Nat.not_succ_le_zero _)
      | cons y b =>
          have htail := ih (Nat.le_of_succ_le_succ h)
          simp only [Bytes.xor, List.zipWith_cons_cons] at htail ⊢
          rw [htail, UInt8.xor_assoc, UInt8.xor_self, UInt8.xor_zero]

namespace Cipher

theorem length_keystream (keys : List Rijndael.Block) (blocks counter : Nat) :
    (keystream keys blocks counter).length = blockSize * blocks := by
  induction blocks generalizing counter with
  | zero => rfl
  | succ blocks ih =>
      have hblock : ∀ b : Rijndael.Block, b.toBytes.length = blockSize := fun _ => rfl
      rw [keystream, List.length_append, ih, hblock, Nat.mul_succ, Nat.add_comm]

/-- The keystream of a text covers it. -/
theorem length_le_keystream (keys : List Rijndael.Block) (text : Bytes) (counter : Nat) :
    text.length ≤ (keystream keys ((text.length + 15) / blockSize) counter).length := by
  rw [length_keystream, blockSize]
  omega

theorem length_apply (key counter text : Bytes) : (apply key counter text).length = text.length := by
  rw [apply, Bytes.length_xor]
  exact Nat.min_eq_left (length_le_keystream _ _ _)

theorem apply_apply (key counter text : Bytes) : apply key counter (apply key counter text) = text := by
  have hlength := length_apply key counter text
  rw [apply, hlength, apply]
  exact Bytes.xor_xor (length_le_keystream _ _ _)

theorem length_encrypt (key counter text : Bytes) :
    (encrypt key counter text).length = counter.length + text.length := by
  rw [encrypt, List.length_append, length_apply]

/-- **Deciphering undoes enciphering** of any text that is not empty. -/
theorem decrypt?_encrypt (key : Bytes) {counter text : Bytes} (hcounter : counter.length = blockSize)
    (htext : text ≠ []) : decrypt? key (encrypt key counter text) = some text := by
  have hlong : ¬ (encrypt key counter text).length ≤ blockSize := by
    have hpos := List.length_pos_iff.mpr htext
    rw [length_encrypt, hcounter]
    omega
  rw [decrypt?, if_neg hlong, encrypt, ← hcounter, List.take_left, List.drop_left, apply_apply]

end Cipher

end PaymentCredentials
