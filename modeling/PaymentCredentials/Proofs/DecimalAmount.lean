import Mathlib.Data.List.TakeWhile
import PaymentCredentials.Message.Amount
import PaymentCredentials.Proofs.DecimalText

/-!
Amounts of money as rational numbers. An amount is its count of smallest units over a power of ten, or times one
where the places are below zero. What is written for an amount stands for this number and is the reduced numeral
of it, so that two amounts are written alike just in case they are the same number.
-/
namespace PaymentCredentials.Message

open Decimal

/-! ### Zeros at the end -/

theorem exists_withoutFinalZeros (ds : List Char) :
    ∃ k, ds = withoutFinalZeros ds ++ List.replicate k '0' := by
  have hzero : ∀ c ∈ ds.reverse.takeWhile (· = '0'), c = '0' := by
    intro c hc
    have hfinal := List.mem_takeWhile_imp hc
    exact of_decide_eq_true hfinal
  obtain ⟨k, hzeros⟩ : ∃ k, ds.reverse.takeWhile (· = '0') = List.replicate k '0' :=
    ⟨_, List.eq_replicate_of_mem hzero⟩
  refine ⟨k, ?_⟩
  calc ds = (ds.reverse.takeWhile (· = '0') ++ ds.reverse.dropWhile (· = '0')).reverse := by
        rw [List.takeWhile_append_dropWhile, List.reverse_reverse]
    _ = withoutFinalZeros ds ++ (ds.reverse.takeWhile (· = '0')).reverse := List.reverse_append
    _ = withoutFinalZeros ds ++ List.replicate k '0' := by rw [hzeros, List.reverse_replicate]

theorem getLast?_withoutFinalZeros (ds : List Char) : (withoutFinalZeros ds).getLast? ≠ some '0' := by
  intro h
  rw [withoutFinalZeros, List.getLast?_reverse] at h
  have hfirst := List.head?_dropWhile_not (· = '0') ds.reverse
  rw [h] at hfirst
  exact absurd hfirst (by decide)

/-! ### The numeral of an amount -/

/-- The number that an amount is. -/
def quantity (amount : Int64) (places : Int8) : ℚ := amount.toInt * 10 ^ (-places.toInt)

/-- A numeral that is written for an amount. -/
structure Writes (amount : Int64) (places : Int8) (x : Parts) : Prop where
  text : decimalAmount amount places = String.ofList x.text
  reduced : x.Reduced
  negative : x.negative = decide (amount < 0)
  value : x.value = quantity amount places

theorem natAbs_toInt_eq_zero_iff {amount : Int64} : amount.toInt.natAbs = 0 ↔ amount = 0 := by
  rw [Int.natAbs_eq_zero, ← Int64.toInt_inj]
  rfl

theorem not_neg_of_zero {amount : Int64} (h : amount.toInt.natAbs = 0) : ¬ amount < 0 := by
  rw [natAbs_toInt_eq_zero_iff.mp h]
  decide

/-- The sign in front of the digits is that of the amount. -/
theorem units_eq_toInt {amount : Int64} {x : Parts} {m k : Nat} (hnegative : x.negative = decide (amount < 0))
    (hcoefficient : x.coefficient * m = amount.toInt.natAbs * k) : x.units * m = amount.toInt * k := by
  have hcast : (x.coefficient : Int) * m = amount.toInt.natAbs * k := by exact_mod_cast hcoefficient
  rw [Parts.units, hnegative]
  by_cases hsign : amount < 0
  · have hlt : amount.toInt < 0 := Int64.lt_iff_toInt_lt.mp hsign
    rw [if_pos (decide_eq_true hsign), Int.neg_mul, hcast, ← Int.neg_mul,
      show -((amount.toInt.natAbs : Nat) : Int) = amount.toInt by omega]
  · have hle : ¬ amount.toInt < 0 := fun h => hsign (Int64.lt_iff_toInt_lt.mpr h)
    rw [if_neg (by simpa using hsign), hcast, show ((amount.toInt.natAbs : Nat) : Int) = amount.toInt by omega]

/-! ### No places behind the point -/

theorem writes_zero {places : Int8} (hplaces : places ≤ 0) : Writes 0 places ⟨false, ['0'], []⟩ := by
  have hdigit : ∀ c ∈ ['0'], IsDigit c := List.forall_mem_singleton.mpr (by decide)
  refine ⟨?_, ⟨hdigit, List.cons_ne_nil _ _, ?_, nofun, nofun⟩, rfl, ?_⟩
  · rw [decimalAmount, if_pos hplaces, if_pos rfl]
    rfl
  · intro ds hds
    exact (List.cons.inj hds).2.symm
  · simp [Parts.value, Parts.units, Parts.coefficient, valueFrom, quantity]

/-- The digits of a number with zeros added. -/
def raised (negative : Bool) (zeros n : Nat) : Parts :=
  ⟨negative, digits n ++ List.replicate zeros '0', []⟩

theorem raised_coefficient (negative : Bool) (zeros n : Nat) :
    (raised negative zeros n).coefficient = n * 10 ^ zeros := by
  rw [raised, Parts.coefficient, List.append_nil, valueFrom_append, valueFrom_digits, valueFrom_zeros]

theorem reduced_raised (negative : Bool) (zeros : Nat) {n : Nat} (hn : n ≠ 0) :
    (raised negative zeros n).Reduced := by
  obtain ⟨c, cs, hdigits, hc⟩ := exists_digits_eq_cons hn
  refine ⟨fun d hd => ?_, ?_, fun ds hds => ?_, nofun, fun _ => ?_⟩
  · rw [raised, List.append_nil] at hd
    rcases List.mem_append.mp hd with hdigit | hzero
    · exact isDigit_of_mem_digits hdigit
    · exact isDigit_of_mem_zeros hzero
  · exact List.append_ne_nil_of_left_ne_nil (digits_ne_nil n) _
  · rw [raised, hdigits] at hds
    exact absurd (List.cons.inj hds).1 hc
  · rw [raised_coefficient]
    exact Nat.mul_ne_zero hn (pow_ne_zero _ (by decide))

theorem writes_raised {amount : Int64} {places : Int8} (hplaces : places ≤ 0) (hamount : amount ≠ 0) :
    Writes amount places (raised (decide (amount < 0)) places.toInt.natAbs amount.toInt.natAbs) := by
  have hle : places.toInt ≤ 0 := Int8.le_iff_toInt_le.mp hplaces
  have hzeros : -places.toInt = (places.toInt.natAbs : Nat) := by omega
  have hn : amount.toInt.natAbs ≠ 0 := fun h => hamount (natAbs_toInt_eq_zero_iff.mp h)
  have hcoefficient := raised_coefficient (decide (amount < 0)) places.toInt.natAbs amount.toInt.natAbs
  have hunits := units_eq_toInt (m := 1) rfl ((Nat.mul_one _).trans hcoefficient)
  rw [Nat.cast_one, Int.mul_one] at hunits
  refine ⟨?_, reduced_raised _ _ hn, rfl, ?_⟩
  · rw [decimalAmount, if_pos hplaces, if_neg hamount]
    simp [Parts.text, raised]
  · rw [Parts.value, show (raised _ _ _).fraction.length = 0 from rfl, pow_zero, div_one, quantity, hzeros,
      zpow_natCast]
    exact_mod_cast hunits

/-! ### Places behind the point -/

/-- The digits of a number cut so many places before their end, without the zeros at the end. -/
def cut (negative : Bool) (places n : Nat) : Parts :=
  let all := padded (places + 1) n
  ⟨negative, all.take (all.length - places), withoutFinalZeros (all.drop (all.length - places))⟩

section

variable (negative : Bool) (places n : Nat)

theorem cut_digits : ∃ k, (cut negative places n).fraction.length + k = places ∧
    (cut negative places n).whole ++ (cut negative places n).fraction ++ List.replicate k '0' =
      padded (places + 1) n := by
  have hlong : places + 1 ≤ (padded (places + 1) n).length := by
    rw [length_padded]
    omega
  obtain ⟨k, hk⟩ := exists_withoutFinalZeros
    ((padded (places + 1) n).drop ((padded (places + 1) n).length - places))
  have hlength := congrArg List.length hk
  rw [List.length_drop, List.length_append, List.length_replicate] at hlength
  refine ⟨k, ?_, ?_⟩
  · change (withoutFinalZeros _).length + k = places
    omega
  · rw [cut, List.append_assoc, ← hk, List.take_append_drop]

theorem cut_coefficient : ∃ k, (cut negative places n).fraction.length + k = places ∧
    (cut negative places n).coefficient * 10 ^ k = n := by
  obtain ⟨k, hplaces, hdigits⟩ := cut_digits negative places n
  refine ⟨k, hplaces, ?_⟩
  rw [Parts.coefficient, ← valueFrom_zeros, ← valueFrom_append, hdigits, valueFrom_padded]

theorem cut_coefficient_ne_zero (hn : n ≠ 0) : (cut negative places n).coefficient ≠ 0 := by
  obtain ⟨k, -, hcoefficient⟩ := cut_coefficient negative places n
  intro hzero
  rw [hzero, Nat.zero_mul] at hcoefficient
  exact hn hcoefficient.symm

theorem reduced_cut (hsign : negative = true → n ≠ 0) : (cut negative places n).Reduced := by
  obtain ⟨k, -, hdigits⟩ := cut_digits negative places n
  refine ⟨fun c hc => ?_, fun hnil => ?_, fun ds => leading_padded, getLast?_withoutFinalZeros _, fun h => ?_⟩
  · have hmem : c ∈ padded (places + 1) n := by
      rw [← hdigits]
      exact List.mem_append_left _ hc
    exact isDigit_of_mem_padded hmem
  · have hlength := congrArg List.length hnil
    rw [cut, List.length_take, length_padded, List.length_nil] at hlength
    omega
  · exact cut_coefficient_ne_zero negative places n (hsign h)

end

theorem decimalAmount_of_pos (amount : Int64) {places : Int8} (hplaces : ¬ places ≤ 0) :
    decimalAmount amount places =
      String.ofList (cut (decide (amount < 0)) places.toInt.natAbs amount.toInt.natAbs).text := by
  have hzero := cut_coefficient_ne_zero (decide (amount < 0)) places.toInt.natAbs amount.toInt.natAbs
  rw [decimalAmount, if_neg hplaces]
  by_cases hfraction : (cut (decide (amount < 0)) places.toInt.natAbs amount.toInt.natAbs).fraction = []
  · refine (if_pos hfraction).trans ?_
    by_cases hwhole : (cut (decide (amount < 0)) places.toInt.natAbs amount.toInt.natAbs).whole = ['0']
    · -- Nothing but a zero is written only for zero, which has no sign.
      have hn : amount.toInt.natAbs = 0 := by
        by_contra hn
        exact hzero hn (by rw [Parts.coefficient, hfraction, hwhole]; rfl)
      refine (if_pos hwhole).trans ?_
      rw [Parts.text, hfraction, hwhole]
      simp [cut, not_neg_of_zero hn]
    · refine (if_neg hwhole).trans ?_
      rw [Parts.text, hfraction]
      simp [cut]
  · refine (if_neg hfraction).trans ?_
    rw [Parts.text, if_neg hfraction]
    simp [cut]

theorem writes_cut (amount : Int64) {places : Int8} (hplaces : ¬ places ≤ 0) :
    Writes amount places (cut (decide (amount < 0)) places.toInt.natAbs amount.toInt.natAbs) := by
  have hlt : 0 < places.toInt := Int.lt_of_not_ge fun h => hplaces (Int8.le_iff_toInt_le.mpr h)
  have hscale : places.toInt = (places.toInt.natAbs : Nat) := by omega
  have hsign : decide (amount < 0) = true → amount.toInt.natAbs ≠ 0 :=
    fun hnegative hzero => not_neg_of_zero hzero (of_decide_eq_true hnegative)
  obtain ⟨k, hk, hcoefficient⟩ := cut_coefficient (decide (amount < 0)) places.toInt.natAbs amount.toInt.natAbs
  have hunits := units_eq_toInt rfl (hcoefficient.trans (Nat.mul_one _).symm)
  rw [Nat.cast_one, Int.mul_one] at hunits
  refine ⟨decimalAmount_of_pos amount hplaces, reduced_cut _ _ _ hsign, rfl, ?_⟩
  rw [Parts.value_eq hk (i := amount.toInt) (by exact_mod_cast hunits), quantity, zpow_neg,
    show (10 : ℚ) ^ places.toInt = 10 ^ places.toInt.natAbs by rw [← zpow_natCast, ← hscale], div_eq_mul_inv]

/-! ### Amounts -/

theorem exists_writes (amount : Int64) (places : Int8) : ∃ x, Writes amount places x := by
  by_cases hplaces : places ≤ 0
  · by_cases hamount : amount = 0
    · subst hamount
      exact ⟨_, writes_zero hplaces⟩
    · exact ⟨_, writes_raised hplaces hamount⟩
  · exact ⟨_, writes_cut amount hplaces⟩

/-- What is asked of the text that is written for an amount. -/
structure Exact (amount : Int64) (places : Int8) (s : String) : Prop where
  value : rational s = quantity amount places
  /-- There is a sign only in front of negative amounts, and nothing superfluous. -/
  form : ∃ x : Parts, x.Reduced ∧ s = String.ofList x.text ∧ (x.negative = true ↔ amount < 0)
  zero : s = "0" ↔ amount = 0

theorem quantity_eq_zero_iff {amount : Int64} {places : Int8} : quantity amount places = 0 ↔ amount = 0 := by
  rw [quantity, mul_eq_zero_iff_right (zpow_ne_zero _ (by norm_num)), Int.cast_eq_zero, ← Int.natAbs_eq_zero,
    natAbs_toInt_eq_zero_iff]

theorem Writes.rational {amount : Int64} {places : Int8} {x : Parts} (h : Writes amount places x) :
    rational (decimalAmount amount places) = quantity amount places := by
  rw [Decimal.rational, h.text, String.toList_ofList, Parts.ofText_text h.reduced, h.value]

theorem exact_decimalAmount (amount : Int64) (places : Int8) :
    Exact amount places (decimalAmount amount places) := by
  obtain ⟨x, h⟩ := exists_writes amount places
  refine ⟨h.rational, ⟨x, h.reduced, h.text, ?_⟩, ?_, ?_⟩
  · rw [h.negative, decide_eq_true_iff]
  · intro hzero
    have hvalue := h.rational
    rw [hzero] at hvalue
    refine quantity_eq_zero_iff.mp (hvalue.symm.trans ?_)
    simp [Decimal.rational, Parts.ofText, Parts.ofUnsigned, Parts.value, Parts.units, Parts.coefficient, valueFrom]
  · intro hzero
    have hvalue := h.value.trans (quantity_eq_zero_iff.mpr hzero)
    rw [Parts.value_eq_zero_iff] at hvalue
    rw [h.text, h.reduced.of_coefficient_eq_zero hvalue]
    rfl

/-- **Amounts are written exactly and in one way.** The text of an amount stands for the amount over the power of
ten that its places ask for. It has a sign just in case the amount is negative, no zero in front of other digits,
and behind the point, if there is one, digits of which the last is no zero; zero is the text of no other amount.
So two amounts are written alike just in case they are the same number. -/
theorem decimal_amounts_exact (amount : Int64) (places : Int8) :
    Exact amount places (decimalAmount amount places) ∧
    ∀ amount' places', decimalAmount amount places = decimalAmount amount' places' ↔
      quantity amount places = quantity amount' places' := by
  refine ⟨exact_decimalAmount amount places, fun amount' places' => ?_⟩
  obtain ⟨x, hx⟩ := exists_writes amount places
  obtain ⟨y, hy⟩ := exists_writes amount' places'
  constructor
  · intro h
    rw [← hx.rational, h, hy.rational]
  · intro h
    have hvalue : x.value = y.value := by rw [hx.value, h, hy.value]
    rw [hx.text, hy.text, hx.reduced.eq_of_value_eq hy.reduced hvalue]

example : decimalAmount (-1050) 2 = "-10.5" ∧ rational "-10.5" = -21 / 2 := by decide +kernel

end PaymentCredentials.Message
