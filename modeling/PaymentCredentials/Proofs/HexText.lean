import PaymentCredentials.Hex

/-!
Hexadecimal text read back. A byte is spelled by the digits of its halves, and these give the halves again.
-/
namespace PaymentCredentials.Hex

/-- The halves of a byte are below sixteen and make up the byte. -/
theorem halves (x : UInt8) : x >>> 4 < 16 ∧ x &&& 15 < 16 ∧ ((x >>> 4) <<< 4) ||| (x &&& 15) = x :=
  Bytes.forall_lt (by decide +kernel) x x.toNat_lt

theorem value?_digit {n : UInt8} (h : n < 16) : value? (digit n) = some n :=
  Bytes.forall_lt (by decide) n h

theorem ofDigits?_digits (b : Bytes) : ofDigits? (digits b) = some b := by
  induction b with
  | nil => rfl
  | cons x b ih =>
      obtain ⟨hhigh, hlow, hjoined⟩ := halves x
      have hdigits : digits (x :: b) = digit (x >>> 4) :: digit (x &&& 15) :: digits b := rfl
      rw [hdigits, ofDigits?, value?_digit hhigh, value?_digit hlow, ih]
      exact congrArg (fun y => some (y :: b)) hjoined

/-- Reading what was written gives the bytes back. -/
theorem decode?_encode (b : Bytes) : decode? (encode b) = some b := by
  rw [decode?, encode, String.toList_ofList, ofDigits?_digits]

theorem encode_ne_empty {b : Bytes} (h : b ≠ []) : encode b ≠ "" := by
  intro hempty
  have hread := decode?_encode b
  rw [hempty] at hread
  exact h (Option.some.inj hread).symm

end PaymentCredentials.Hex
