import PaymentCredentials.Proofs.NumeralSpelling
import PaymentCredentials.Proofs.Utf8

/-!
Decimal numerals as texts and as bytes. A numeral spells its integer, so reading gives the integer back, and it
is the plain one of the spellings. Its characters are digits, but for a sign in front, so that a numeral goes
on in no way but by further digits.
-/
namespace PaymentCredentials.Decimal

theorem isDigit_digit {n : Nat} (h : n < 10) : IsDigit (digit n) :=
  (show ∀ m : Fin 10, IsDigit (digit m) by decide) ⟨n, h⟩

theorem digits_ne_nil (n : Nat) : digits n ≠ [] := by
  rw [digits]
  split <;> simp

theorem isDigit_of_mem_digits {n : Nat} {c : Char} (h : c ∈ digits n) : IsDigit c := by
  induction n using Nat.strongRecOn with
  | ind n ih =>
      rw [digits] at h
      split at h
      · rw [List.mem_singleton.mp h]
        exact isDigit_digit (by omega)
      · rcases List.mem_append.mp h with hmem | hmem
        · exact ih (n / 10) (by omega) hmem
        · rw [List.mem_singleton.mp hmem]
          exact isDigit_digit (by omega)

theorem length_digits_le {n k : Nat} (hk : k ≠ 0) (h : n < Nat.pow 10 k) : (digits n).length ≤ k := by
  induction k generalizing n with
  | zero => exact absurd rfl hk
  | succ k ih =>
      rw [digits]
      split
      · exact Nat.succ_le_succ (Nat.zero_le k)
      · rename_i hten
        have hk : k ≠ 0 := by
          rintro rfl
          exact hten h
        have hdiv : n / 10 < Nat.pow 10 k := by
          rw [Nat.div_lt_iff_lt_mul (by decide)]
          exact h
        have hlength := ih hk hdiv
        rw [List.length_append, List.length_singleton]
        omega

/-! ### Reading -/

theorem toNat_digit {n : Nat} (h : n < 10) : (digit n).toNat - 48 = n :=
  (show ∀ m : Fin 10, (digit m).toNat - 48 = m.val by decide) ⟨n, h⟩

theorem valueFrom_digits (n : Nat) : valueFrom 0 (digits n) = n := by
  induction n using Nat.strongRecOn with
  | ind n ih =>
      rw [digits]
      split
      · rename_i hlt
        exact (Nat.zero_add _).trans (toNat_digit hlt)
      · calc valueFrom 0 (digits (n / 10) ++ [digit (n % 10)])
            = valueFrom (valueFrom 0 (digits (n / 10))) [digit (n % 10)] := List.foldl_append
          _ = valueFrom (n / 10) [digit (n % 10)] := by rw [ih (n / 10) (by omega)]
          _ = 10 * (n / 10) + n % 10 := congrArg _ (toNat_digit (by omega))
          _ = n := Nat.div_add_mod n 10

theorem denotes_numeral (i : Int) : Denotes (numeral i) i := by
  have hdigit : ∀ c ∈ digits i.natAbs, IsDigit c := fun _ hc => isDigit_of_mem_digits hc
  unfold numeral
  split
  · have hminus := Denotes.minus _ (digits_ne_nil i.natAbs) hdigit
    rwa [valueFrom_digits, show -((i.natAbs : Nat) : Int) = i by omega] at hminus
  · have hunsigned := Denotes.unsigned _ (digits_ne_nil i.natAbs) hdigit
    rwa [valueFrom_digits, show ((i.natAbs : Nat) : Int) = i by omega] at hunsigned

theorem read_numeral {lower upper : Nat} {i : Int} (hlower : lower ≠ 0) (h : -(lower : Int) ≤ i)
    (h' : i ≤ upper) : read lower upper (numeral i) = .ok i :=
  (read_eq_ok_iff hlower).mpr ⟨denotes_numeral i, h, h'⟩

/-- Reading the numeral of a 64-bit integer gives the integer back. -/
theorem readInt64_ofInt (n : Int64) : readInt64 (ofInt n.toInt) = .ok n := by
  have hle := n.le_toInt
  have hlt := n.toInt_lt
  rw [readInt64, ofInt, String.toList_ofList, read_numeral (by decide) (by omega) (by omega), Except.map,
    Int64.ofInt_toInt]

/-- Reading the numeral of an 8-bit integer gives the integer back. -/
theorem readInt8_ofInt (n : Int8) : readInt8 (ofInt n.toInt) = .ok n := by
  have hle := n.le_toInt
  have hlt := n.toInt_lt
  rw [readInt8, ofInt, String.toList_ofList, read_numeral (by decide) (by omega) (by omega), Except.map,
    Int8.ofInt_toInt]

theorem numeral_inj {i j : Int} (h : numeral i = numeral j) : i = j := by
  have hi : read (i.natAbs + j.natAbs + 1) (i.natAbs + j.natAbs) (numeral i) = .ok i :=
    read_numeral (by omega) (by omega) (by omega)
  have hj : read (i.natAbs + j.natAbs + 1) (i.natAbs + j.natAbs) (numeral j) = .ok j :=
    read_numeral (by omega) (by omega) (by omega)
  rw [h, hj] at hi
  exact (Except.ok.inj hi).symm

/-! ### Bytes -/

theorem ascii_of_mem_numeral {i : Int} {c : Char} (h : c ∈ numeral i) : c.toNat < 128 :=
  ((denotes_numeral i).ascii c h).1

theorem utf8_ofInt (i : Int) : utf8 (ofInt i) = (numeral i).map fun c => UInt8.ofNat c.toNat :=
  utf8_ofList_ascii fun _ hc => ascii_of_mem_numeral hc

theorem ofInt_inj {i j : Int} (h : ofInt i = ofInt j) : i = j := numeral_inj (String.ofList_injective h)

theorem utf8_ofInt_inj {i j : Int} (h : utf8 (ofInt i) = utf8 (ofInt j)) : i = j := ofInt_inj (utf8_inj.mp h)

theorem numeral_ne_nil (i : Int) : numeral i ≠ [] := by
  unfold numeral
  split
  · exact List.cons_ne_nil _ _
  · exact digits_ne_nil _

/-- The numeral of a 64-bit integer has at most twenty characters. -/
theorem length_numeral_le (n : Int64) : (numeral n.toInt).length ≤ 20 := by
  have hle := n.le_toInt
  have hlt := n.toInt_lt
  have hpower : Nat.pow 10 19 = 10000000000000000000 := rfl
  have hdigits : (digits n.toInt.natAbs).length ≤ 19 :=
    length_digits_le (by decide) (by rw [hpower]; omega)
  unfold numeral
  split
  · exact Nat.succ_le_succ hdigits
  · omega

/-- What follows the first character of a numeral are digits. -/
theorem isDigit_of_mem_tail {i : Int} {c : Char} (h : c ∈ (numeral i).tail) : IsDigit c := by
  unfold numeral at h
  split at h
  · exact isDigit_of_mem_digits h
  · exact isDigit_of_mem_digits (List.mem_of_mem_tail h)

/-- Bytes that go on from one numeral to another spell digits. -/
theorem digits_of_utf8_append {i j : Int} {bytes : Bytes}
    (h : utf8 (ofInt j) = utf8 (ofInt i) ++ bytes) :
    ∃ ds : List Char, (∀ c ∈ ds, IsDigit c) ∧ numeral j = numeral i ++ ds ∧
      bytes = utf8 (String.ofList ds) := by
  rw [utf8_ofInt j] at h
  obtain ⟨front, ds, hnumeral, hfront, hds⟩ := List.map_eq_append_iff.mp h
  have hascii : ∀ c ∈ front ++ ds, c.toNat < 128 := fun c hc =>
    ascii_of_mem_numeral (i := j) (by rw [hnumeral]; exact hc)
  have hfront : front = numeral i := by
    rw [← utf8_ofList_ascii fun c hc => hascii c (List.mem_append_left _ hc)] at hfront
    exact String.ofList_injective (utf8_inj.mp hfront)
  have hbytes : bytes = utf8 (String.ofList ds) := by
    rw [utf8_ofList_ascii fun c hc => hascii c (List.mem_append_right _ hc), hds]
  subst hfront
  refine ⟨ds, fun c hc => isDigit_of_mem_tail (i := j) ?_, hnumeral, hbytes⟩
  rw [hnumeral, List.tail_append_of_ne_nil (numeral_ne_nil i)]
  exact List.mem_append_right _ hc

/-! ### Plain spellings -/

/-- A spelling without a plus sign, without zeros in front of other digits, and without a sign in front of
zero. -/
inductive Plain : List Char → Prop
  | zero : Plain ['0']
  | positive (c : Char) (ds : List Char) (hc : c ≠ '0') (hdigit : ∀ d ∈ c :: ds, IsDigit d) : Plain (c :: ds)
  | negative (c : Char) (ds : List Char) (hc : c ≠ '0') (hdigit : ∀ d ∈ c :: ds, IsDigit d) :
      Plain ('-' :: c :: ds)

/-- A plain text spells some integer. -/
theorem Plain.denotes {cs : List Char} (h : Plain cs) : ∃ i, Denotes cs i := by
  cases h with
  | zero =>
    have hzero : ∀ c ∈ ['0'], IsDigit c := List.forall_mem_singleton.mpr (by decide)
    exact ⟨_, .unsigned ['0'] (List.cons_ne_nil _ _) hzero⟩
  | positive c ds _ hdigit => exact ⟨_, .unsigned _ (List.cons_ne_nil c ds) hdigit⟩
  | negative c ds _ hdigit => exact ⟨_, .minus _ (List.cons_ne_nil c ds) hdigit⟩

theorem digit_toNat {c : Char} (h : IsDigit c) : digit (c.toNat - 48) = c := by
  have hbounds := h.bounds
  rw [digit, Nat.add_sub_cancel' hbounds.1, Char.ofNat_toNat]

/-- Digits behind a number that is not zero are written as they are. -/
theorem digits_valueFrom {acc : Nat} (hacc : acc ≠ 0) {ds : List Char} (hdigit : ∀ c ∈ ds, IsDigit c) :
    digits (valueFrom acc ds) = digits acc ++ ds := by
  induction ds generalizing acc with
  | nil => exact (List.append_nil _).symm
  | cons c ds ih =>
      obtain ⟨hc, hds⟩ := List.forall_mem_cons.mp hdigit
      have hbounds := hc.bounds
      have hnext : 10 * acc + (c.toNat - 48) ≠ 0 := by omega
      have hstep : digits (10 * acc + (c.toNat - 48)) = digits acc ++ [c] := by
        rw [digits, if_neg (by omega), show (10 * acc + (c.toNat - 48)) / 10 = acc by omega,
          show (10 * acc + (c.toNat - 48)) % 10 = c.toNat - 48 by omega, digit_toNat hc]
      calc digits (valueFrom acc (c :: ds)) = digits (10 * acc + (c.toNat - 48)) ++ ds := ih hnext hds
        _ = digits acc ++ c :: ds := by rw [hstep, List.append_assoc, List.singleton_append]

theorem value_ne_zero {c : Char} (h : IsDigit c) (hc : c ≠ '0') : c.toNat - 48 ≠ 0 := by
  have hbounds := h.bounds
  have hne : c.toNat ≠ 48 := fun h => hc (Char.toNat_inj.mp h)
  omega

/-- Digits that do not begin with zero are the digits of what they spell, which is not zero. -/
theorem digits_value {c : Char} {ds : List Char} (hc : c ≠ '0') (hdigit : ∀ d ∈ c :: ds, IsDigit d) :
    digits (valueFrom 0 (c :: ds)) = c :: ds ∧ valueFrom 0 (c :: ds) ≠ 0 := by
  obtain ⟨hfirst, hds⟩ := List.forall_mem_cons.mp hdigit
  have hbounds := hfirst.bounds
  have hvalue : valueFrom 0 (c :: ds) = valueFrom (c.toNat - 48) ds :=
    congrArg (valueFrom · ds) (Nat.zero_add _)
  have hne := value_ne_zero hfirst hc
  have hle := le_valueFrom (c.toNat - 48) ds
  rw [hvalue, digits_valueFrom hne hds, digits, if_pos (by omega), digit_toNat hfirst]
  exact ⟨rfl, by omega⟩

/-- The digits of a number other than zero do not begin with zero. -/
theorem exists_digits_eq_cons {n : Nat} (h : n ≠ 0) : ∃ c ds, digits n = c :: ds ∧ c ≠ '0' := by
  induction n using Nat.strongRecOn with
  | ind n ih =>
      rw [digits]
      split
      · rename_i hlt
        exact ⟨digit n, [], rfl,
          (show ∀ m : Fin 10, m.val ≠ 0 → digit m ≠ '0' by decide) ⟨n, hlt⟩ h⟩
      · obtain ⟨c, ds, hdigits, hc⟩ := ih (n / 10) (by omega) (by omega)
        exact ⟨c, ds ++ [digit (n % 10)], by rw [hdigits, List.cons_append], hc⟩

theorem plain_numeral (i : Int) : Plain (numeral i) := by
  have hdigit : ∀ c ∈ digits i.natAbs, IsDigit c := fun _ hc => isDigit_of_mem_digits hc
  by_cases hzero : i = 0
  · subst hzero
    have hnumeral : numeral 0 = ['0'] := by simp [numeral, digits, digit]
    rw [hnumeral]
    exact .zero
  obtain ⟨c, ds, hdigits, hc⟩ := exists_digits_eq_cons (n := i.natAbs) (by omega)
  rw [hdigits] at hdigit
  rw [numeral, hdigits]
  split
  · exact .negative c ds hc hdigit
  · exact .positive c ds hc hdigit

theorem numeral_natCast (n : Nat) : numeral (n : Int) = digits n := by
  rw [numeral, if_neg (by omega), Int.natAbs_natCast]

theorem numeral_neg_natCast {n : Nat} (h : n ≠ 0) : numeral (-(n : Int)) = '-' :: digits n := by
  rw [numeral, if_pos (by omega), Int.natAbs_neg, Int.natAbs_natCast]

/-- Of the spellings of an integer, the one that is written is the plain one. -/
theorem Denotes.plain_iff {cs : List Char} {i : Int} (h : Denotes cs i) : Plain cs ↔ cs = numeral i := by
  constructor
  · intro hplain
    cases h with
    | unsigned _ hne hdigit =>
      rw [numeral_natCast]
      cases hplain with
      | zero => simp [valueFrom, digits, digit]
      | positive c ds hc _ => exact (digits_value hc hdigit).1.symm
      | negative c ds _ _ => exact absurd rfl (hdigit '-' List.mem_cons_self).ne_minus
    | plus ds hne hdigit =>
      cases hplain with
      | positive _ _ _ hfirst => exact absurd rfl (hfirst '+' List.mem_cons_self).ne_plus
    | minus ds hne hdigit =>
      cases hplain with
      | positive _ _ _ hfirst => exact absurd rfl (hfirst '-' List.mem_cons_self).ne_minus
      | negative c ds hc _ =>
        obtain ⟨hdigits, hvalue⟩ := digits_value hc hdigit
        rw [numeral_neg_natCast hvalue, hdigits]
  · rintro rfl
    exact plain_numeral i

/-! ### Lengths -/

theorem valueFrom_lt {acc : Nat} {ds : List Char} (hdigit : ∀ c ∈ ds, IsDigit c) :
    valueFrom acc ds < (acc + 1) * Nat.pow 10 ds.length := by
  induction ds generalizing acc with
  | nil => exact (Nat.mul_one (acc + 1)).symm ▸ Nat.lt_succ_self acc
  | cons c ds ih =>
      obtain ⟨hc, hds⟩ := List.forall_mem_cons.mp hdigit
      have hbounds := hc.bounds
      calc valueFrom acc (c :: ds) < (10 * acc + (c.toNat - 48) + 1) * Nat.pow 10 ds.length := ih hds
        _ ≤ ((acc + 1) * 10) * Nat.pow 10 ds.length := Nat.mul_le_mul_right _ (by omega)
        _ = (acc + 1) * (10 * Nat.pow 10 ds.length) := Nat.mul_assoc _ _ _
        _ = (acc + 1) * Nat.pow 10 (c :: ds).length := congrArg _ (Nat.mul_comm _ _)

theorem length_digits_valueFrom_le {ds : List Char} (hne : ds ≠ []) (hdigit : ∀ c ∈ ds, IsDigit c) :
    (digits (valueFrom 0 ds)).length ≤ ds.length := by
  have hlt : valueFrom 0 ds < (0 + 1) * Nat.pow 10 ds.length := valueFrom_lt hdigit
  rw [Nat.zero_add, Nat.one_mul] at hlt
  exact length_digits_le (fun h => hne (List.length_eq_zero_iff.mp h)) hlt

/-- No spelling is shorter than the numeral. -/
theorem Denotes.length_numeral_le {cs : List Char} {i : Int} (h : Denotes cs i) :
    (numeral i).length ≤ cs.length := by
  cases h with
  | unsigned _ hne hdigit =>
    rw [numeral_natCast]
    exact length_digits_valueFrom_le hne hdigit
  | plus ds hne hdigit =>
    rw [numeral_natCast]
    exact Nat.le_succ_of_le (length_digits_valueFrom_le hne hdigit)
  | minus ds hne hdigit =>
    have hdigits := length_digits_valueFrom_le hne hdigit
    rw [numeral, Int.natAbs_neg, Int.natAbs_natCast]
    split
    · exact Nat.succ_le_succ hdigits
    · exact Nat.le_succ_of_le hdigits

end PaymentCredentials.Decimal
