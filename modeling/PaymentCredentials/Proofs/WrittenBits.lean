import Mathlib.Algebra.Order.Ring.Nat
import PaymentCredentials.Proofs.BitReaders

/-!
Bits that are written are read back. A reader that stands in front of the bits that were written for it takes
these and no others, and so do readers one after the other.
-/
namespace PaymentCredentials.Deflate

/-! ### Bits of bytes -/

theorem length_bitsOfNat (count n : Nat) : (bitsOfNat count n).length = count := by
  induction count generalizing n with
  | zero => rfl
  | succ count ih => rw [bitsOfNat, List.length_cons, ih]

theorem length_flatMap_bitsOfByte (b : Bytes) : (b.flatMap bitsOfByte).length = 8 * b.length := by
  induction b with
  | nil => rfl
  | cons x b ih =>
      rw [List.flatMap_cons, List.length_append, ih, List.length_cons, bitsOfByte]
      simp only [List.length_cons, List.length_nil]
      omega

theorem natOfBits_bitsOfByte : ∀ x : UInt8, UInt8.ofNat (natOfBits (bitsOfByte x)) = x :=
  fun x => Bytes.forall_lt (by decide +kernel) x x.toNat_lt

theorem bitsOfByte_inj {x y : UInt8} (h : bitsOfByte x = bitsOfByte y) : x = y := by
  rw [← natOfBits_bitsOfByte x, h, natOfBits_bitsOfByte]

/-- Bytes in front of a stream are told by their bits. -/
theorem exists_append_of_flatMap {front rest : Bytes} {bits : List Bool}
    (h : rest.flatMap bitsOfByte = front.flatMap bitsOfByte ++ bits) :
    ∃ behind, rest = front ++ behind ∧ behind.flatMap bitsOfByte = bits := by
  induction front generalizing rest with
  | nil => exact ⟨rest, rfl, h⟩
  | cons x front ih =>
      cases rest with
      | nil => cases h
      | cons y rest =>
          rw [List.flatMap_cons, List.flatMap_cons, List.append_assoc] at h
          obtain ⟨hbyte, hbehind⟩ := List.append_inj h rfl
          obtain ⟨behind, rfl, hbits⟩ := ih hbehind
          exact ⟨behind, by rw [bitsOfByte_inj hbyte, List.cons_append], hbits⟩

theorem bitsOfByte_natOfBits : ∀ a b c d e f g h : Bool,
    bitsOfByte (UInt8.ofNat (natOfBits [a, b, c, d, e, f, g, h])) = [a, b, c, d, e, f, g, h] := by decide

/-- The bytes that bits fill have these bits, and some more behind them. -/
theorem flatMap_bytesOfBits : ∀ bits : List Bool, ∃ padding : List Bool, padding.length < 8 ∧
    (bytesOfBits bits).flatMap bitsOfByte = bits ++ padding
  | [] => ⟨[], by decide, rfl⟩
  | [a] => ⟨List.replicate 7 false, by decide, by revert a; decide⟩
  | [a, b] => ⟨List.replicate 6 false, by decide, by revert a b; decide⟩
  | [a, b, c] => ⟨List.replicate 5 false, by decide, by revert a b c; decide⟩
  | [a, b, c, d] => ⟨List.replicate 4 false, by decide, by revert a b c d; decide⟩
  | [a, b, c, d, e] => ⟨List.replicate 3 false, by decide, by revert a b c d e; decide⟩
  | [a, b, c, d, e, f] => ⟨List.replicate 2 false, by decide, by revert a b c d e f; decide⟩
  | [a, b, c, d, e, f, g] => ⟨List.replicate 1 false, by decide, by revert a b c d e f g; decide⟩
  | a :: b :: c :: d :: e :: f :: g :: h :: rest => by
      obtain ⟨padding, hlength, hrest⟩ := flatMap_bytesOfBits rest
      refine ⟨padding, hlength, ?_⟩
      rw [bytesOfBits, List.flatMap_cons, hrest, bitsOfByte_natOfBits]
      rfl

/-! ### Where a reader stands -/

/-- The bits that are left. -/
def Bits.toList (s : Bits) : List Bool := s.pending ++ s.rest.flatMap bitsOfByte

/-- A reader has taken `begun` bits, and these are left. What is left of the byte begun is pending. -/
structure Bits.Stands (s : Bits) (begun : Nat) (bits : List Bool) : Prop where
  toList_eq : s.toList = bits
  pending_lt : s.pending.length < 8
  aligned : (begun + s.pending.length) % 8 = 0

namespace Bits

variable {s : Bits} {begun : Nat} {bits : List Bool}

theorem stands_ofBytes (b : Bytes) : (ofBytes b).Stands 0 (b.flatMap bitsOfByte) :=
  ⟨rfl, Nat.zero_lt_succ 7, rfl⟩

/-- Only the place within a byte matters. -/
theorem Stands.of_mod {begun' : Nat} (h : s.Stands begun bits) (hmod : begun % 8 = begun' % 8) :
    s.Stands begun' bits := by
  have haligned := h.aligned
  exact ⟨h.toList_eq, h.pending_lt, by omega⟩

theorem Stands.next? {b : Bool} (h : s.Stands begun (b :: bits)) :
    ∃ s', s.next? = some (b, s') ∧ s'.Stands (begun + 1) bits := by
  obtain ⟨pending, rest⟩ := s
  obtain ⟨htoList, hpending, haligned⟩ := h
  cases pending with
  | cons c pending =>
      obtain ⟨rfl, hbits⟩ := List.cons.inj htoList
      rw [List.length_cons] at hpending haligned
      exact ⟨⟨pending, rest⟩, rfl, hbits, Nat.lt_of_succ_lt hpending, by dsimp only; omega⟩
  | nil =>
      cases rest with
      | nil => cases htoList
      | cons x rest =>
          obtain ⟨rfl, hbits⟩ := List.cons.inj htoList
          refine ⟨⟨(bitsOfByte x).tail, rest⟩, rfl, hbits, Nat.lt_succ_self 7, ?_⟩
          rw [List.length_nil] at haligned
          simp only [bitsOfByte, List.tail_cons, List.length_cons, List.length_nil]
          omega

theorem bit_add_double (n : Nat) : (n % 2 == 1).toNat + 2 * (n / 2) = n := by
  rcases Nat.mod_two_eq_zero_or_one n with h | h
  · simp only [h, Nat.reduceBEq, Bool.toNat_false]
    omega
  · simp only [h, BEq.rfl, Bool.toNat_true]
    omega

/-- A number is read back if it fits the count of bits that it is written in. -/
theorem Stands.take? {count n : Nat} (hn : n < 2 ^ count) (h : s.Stands begun (bitsOfNat count n ++ bits)) :
    ∃ s', s.take? count = some (n, s') ∧ s'.Stands (begun + count) bits := by
  induction count generalizing s begun n with
  | zero =>
      obtain rfl : n = 0 := by omega
      exact ⟨s, rfl, h⟩
  | succ count ih =>
      obtain ⟨s₁, hnext, h₁⟩ := h.next?
      obtain ⟨s', htake, h'⟩ := ih (by rw [Nat.pow_succ] at hn; omega) h₁
      refine ⟨s', ?_, h'.of_mod (by omega)⟩
      simp only [Bits.take?, hnext, htake, Option.bind_eq_bind, Option.bind_some, bit_add_double]
      rfl

/-- Bytes that begin on a byte boundary, behind less than a byte that fills up to it. -/
theorem Stands.bytes {padding : List Bool} {front : Bytes} (hpadding : padding.length < 8)
    (haligned : (begun + padding.length) % 8 = 0)
    (h : s.Stands begun (padding ++ (front.flatMap bitsOfByte ++ bits))) :
    ∃ rest, s = ⟨padding, front ++ rest⟩ ∧ rest.flatMap bitsOfByte = bits := by
  obtain ⟨pending, bytes⟩ := s
  have hpending := h.pending_lt
  have hwhole := h.aligned
  dsimp only at hpending hwhole
  have htoList : pending ++ bytes.flatMap bitsOfByte = padding ++ (front.flatMap bitsOfByte ++ bits) := h.toList_eq
  obtain ⟨rfl, hbytes⟩ := List.append_inj htoList (by omega)
  obtain ⟨rest, rfl, hrest⟩ := exists_append_of_flatMap hbytes
  exact ⟨rest, rfl, hrest⟩

/-- Nothing follows where less than a byte is left. -/
theorem Stands.rest_eq_nil (h : s.Stands begun bits) (hbits : bits.length < 8) : s.rest = [] := by
  have hlength := congrArg List.length h.toList_eq
  rw [Bits.toList, List.length_append, length_flatMap_bitsOfByte] at hlength
  exact List.eq_nil_of_length_eq_zero (by omega)

end Bits

/-! ### Readers -/

section

variable {α β γ : Type} {glue : α → Bits → β} {a : α}

/-- Where a reader stands in front of the given bits, it takes them and no others, and comes to the given value. -/
def Reads (glue : α → Bits → β) (f : Bits → Except Stop β) (word : List Bool) (a : α) : Prop :=
  ∀ ⦃s : Bits⦄ ⦃begun : Nat⦄ ⦃bits : List Bool⦄, s.Stands begun (word ++ bits) →
    ∃ s', f s = .ok (glue a s') ∧ s'.Stands (begun + word.length) bits

theorem reads_pure (glue : α → Bits → β) (a : α) : Reads glue (fun s => pure (glue a s)) [] a :=
  fun s _ _ h => ⟨s, rfl, h⟩

theorem Reads.bind {f : Bits → Except Stop (γ × Bits)} {g : γ × Bits → Except Stop β} {c : γ}
    {front behind : List Bool} (hf : Reads Prod.mk f front c) (hg : Reads glue (fun s => g (c, s)) behind a) :
    Reads glue (fun s => f s >>= g) (front ++ behind) a := by
  intro s begun bits h
  rw [List.append_assoc] at h
  obtain ⟨s₁, hread₁, h₁⟩ := hf h
  obtain ⟨s₂, hread₂, h₂⟩ := hg h₁
  refine ⟨s₂, (bind_of_ok hread₁ g).trans hread₂, ?_⟩
  rwa [List.length_append, ← Nat.add_assoc]

/-- Behind a step that does not read. -/
theorem Reads.after {x : Except Stop γ} {f : γ → Bits → Except Stop β} {c : γ} {word : List Bool} (hx : x = .ok c)
    (hf : Reads glue (f c) word a) : Reads glue (fun s => x >>= fun c => f c s) word a := by
  subst hx
  exact hf

section

variable {p : Prop} [Decidable p] {f g : Bits → Except Stop β} {word : List Bool}

theorem Reads.of_pos (hf : Reads glue f word a) (h : p) : Reads glue (fun s => if p then f s else g s) word a := by
  simpa only [if_pos h] using hf

theorem Reads.of_neg (hg : Reads glue g word a) (h : ¬ p) : Reads glue (fun s => if p then f s else g s) word a := by
  simpa only [if_neg h] using hg

end

theorem reads_take {count n : Nat} (hn : n < 2 ^ count) :
    Reads Prod.mk (Bits.take count) (bitsOfNat count n) n := by
  intro s begun bits h
  obtain ⟨s', htake, h'⟩ := h.take? hn
  refine ⟨s', ?_, by rwa [length_bitsOfNat]⟩
  rw [Bits.take, htake]

end

end PaymentCredentials.Deflate
