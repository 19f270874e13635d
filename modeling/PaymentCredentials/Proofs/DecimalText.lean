import Mathlib.Algebra.Order.Field.Rat
import Mathlib.Tactic.FieldSimp
import Mathlib.Tactic.NormNum
import PaymentCredentials.Proofs.Numerals

/-!
Decimal numerals with a point, as rational numbers. A numeral is reduced if it says nothing twice: no zero stands
in front of the other digits before the point, none at the end behind it, and zero has no sign. Of the reduced
numerals only one stands for a given number.
-/
namespace PaymentCredentials.Decimal

/-! ### Digits -/

theorem valueFrom_append (acc : Nat) (ds es : List Char) :
    valueFrom acc (ds ++ es) = valueFrom (valueFrom acc ds) es := List.foldl_append

theorem valueFrom_zeros (acc k : Nat) : valueFrom acc (List.replicate k '0') = acc * 10 ^ k := by
  induction k generalizing acc with
  | zero => exact (Nat.mul_one acc).symm
  | succ k ih =>
      calc valueFrom acc (List.replicate (k + 1) '0') = valueFrom (10 * acc) (List.replicate k '0') := rfl
        _ = 10 * acc * 10 ^ k := ih (10 * acc)
        _ = acc * 10 ^ (k + 1) := by rw [pow_succ', Nat.mul_comm 10 acc, Nat.mul_assoc]

theorem isDigit_of_mem_zeros {k : Nat} {c : Char} (h : c ∈ List.replicate k '0') : IsDigit c := by
  rw [List.eq_of_mem_replicate h]
  decide

/-- Digits are those of the number that they spell, filled up to their count. -/
theorem padded_valueFrom {ds : List Char} (hne : ds ≠ []) (hdigit : ∀ c ∈ ds, IsDigit c) :
    padded ds.length (valueFrom 0 ds) = ds := by
  induction ds with
  | nil => exact absurd rfl hne
  | cons c ds ih =>
      by_cases hc : c = '0'
      · subst hc
        by_cases hds : ds = []
        · subst hds
          simp [padded, valueFrom, digits, digit]
        · have htail : ∀ d ∈ ds, IsDigit d := fun d hd => hdigit d (List.mem_cons_of_mem _ hd)
          have hvalue : valueFrom 0 ('0' :: ds) = valueFrom 0 ds := rfl
          have hlength := length_digits_valueFrom_le hds htail
          rw [hvalue, padded, List.length_cons, Nat.succ_sub hlength, List.replicate_succ, List.cons_append,
            ← padded, ih hds htail]
      · rw [padded, (digits_value hc hdigit).1, Nat.sub_self]
        rfl

/-- As many digits for the same number are the same digits. -/
theorem eq_of_valueFrom_eq {ds es : List Char} (hds : ∀ c ∈ ds, IsDigit c) (hes : ∀ c ∈ es, IsDigit c)
    (hlength : ds.length = es.length) (hvalue : valueFrom 0 ds = valueFrom 0 es) : ds = es := by
  by_cases hne : ds = []
  · subst hne
    exact (List.eq_nil_of_length_eq_zero hlength.symm).symm
  · have hne' : es ≠ [] := by
      rintro rfl
      exact hne (List.eq_nil_of_length_eq_zero hlength)
    rw [← padded_valueFrom hne hds, hlength, hvalue, padded_valueFrom hne' hes]

theorem eq_zeros_of_valueFrom_eq_zero {ds : List Char} (hdigit : ∀ c ∈ ds, IsDigit c)
    (h : valueFrom 0 ds = 0) : ds = List.replicate ds.length '0' := by
  refine eq_of_valueFrom_eq hdigit (fun _ => isDigit_of_mem_zeros) List.length_replicate.symm ?_
  rw [h, valueFrom_zeros, Nat.zero_mul]

theorem valueFrom_padded (width n : Nat) : valueFrom 0 (padded width n) = n := by
  rw [padded, valueFrom_append, valueFrom_zeros, Nat.zero_mul, valueFrom_digits]

theorem isDigit_of_mem_padded {width n : Nat} {c : Char} (h : c ∈ padded width n) : IsDigit c := by
  rcases List.mem_append.mp h with hzero | hdigit
  · exact isDigit_of_mem_zeros hzero
  · exact isDigit_of_mem_digits hdigit

theorem length_padded (width n : Nat) : (padded width n).length = max width (digits n).length := by
  rw [padded, List.length_append, List.length_replicate]
  omega

/-- With one digit more asked for than stand behind the point, no zero is in front of other digits. -/
theorem leading_padded {places n : Nat} {ds : List Char}
    (h : (padded (places + 1) n).take ((padded (places + 1) n).length - places) = '0' :: ds) : ds = [] := by
  have hlength := congrArg List.length h
  rw [List.length_take, length_padded, List.length_cons] at hlength
  by_cases hshort : (digits n).length ≤ places + 1
  · exact List.eq_nil_of_length_eq_zero (by omega)
  have hn : n ≠ 0 := by
    rintro rfl
    simp [digits] at hshort
  obtain ⟨c, cs, hdigits, hc⟩ := exists_digits_eq_cons hn
  have hpadded : padded (places + 1) n = c :: cs := by
    rw [padded, Nat.sub_eq_zero_of_le (by omega), ← hdigits]
    rfl
  obtain ⟨m, hm⟩ := Nat.exists_eq_succ_of_ne_zero
    (show (padded (places + 1) n).length - places ≠ 0 by rw [length_padded]; omega)
  rw [hm, hpadded, List.take_succ_cons] at h
  exact absurd (List.cons.inj h).1 hc

/-! ### Numerals in parts -/

/-- A decimal numeral, cut at its sign and at its point. -/
@[ext]
structure Parts where
  negative : Bool
  /-- The digits before the point. -/
  whole : List Char
  /-- The digits behind it. -/
  fraction : List Char
  deriving DecidableEq

namespace Parts

/-- A text without a sign, cut at its first point. -/
def ofUnsigned (negative : Bool) (cs : List Char) : Parts :=
  ⟨negative, cs.takeWhile (· ≠ '.'), (cs.dropWhile (· ≠ '.')).tail⟩

def ofText : List Char → Parts
  | '-' :: cs => ofUnsigned true cs
  | cs => ofUnsigned false cs

/-- The text of a numeral. The point is left out where nothing stands behind it. -/
def text (x : Parts) : List Char :=
  (if x.negative then ['-'] else []) ++ x.whole ++ if x.fraction = [] then [] else '.' :: x.fraction

/-- What all the digits spell, the point aside. -/
def coefficient (x : Parts) : Nat := valueFrom 0 (x.whole ++ x.fraction)

/-- The number in units of the last place. -/
def units (x : Parts) : Int := if x.negative then -x.coefficient else x.coefficient

/-- The number that a numeral stands for. -/
def value (x : Parts) : ℚ := x.units / 10 ^ x.fraction.length

/-- A numeral with nothing superfluous. -/
structure Reduced (x : Parts) : Prop where
  digits : ∀ c ∈ x.whole ++ x.fraction, IsDigit c
  whole : x.whole ≠ []
  /-- A zero is the first of the digits only if it is all that stands before the point. -/
  leading : ∀ ds, x.whole = '0' :: ds → ds = []
  final : x.fraction.getLast? ≠ some '0'
  sign : x.negative = true → x.coefficient ≠ 0

variable {x y : Parts}

theorem Reduced.isDigit_whole (h : x.Reduced) : ∀ c ∈ x.whole, IsDigit c :=
  fun c hc => h.digits c (List.mem_append_left _ hc)

theorem Reduced.isDigit_fraction (h : x.Reduced) : ∀ c ∈ x.fraction, IsDigit c :=
  fun c hc => h.digits c (List.mem_append_right _ hc)

/-! ### Cutting a text -/

theorem ofUnsigned_text {whole : List Char} (hwhole : ∀ c ∈ whole, IsDigit c) (fraction : List Char)
    (negative : Bool) : ofUnsigned negative (whole ++ if fraction = [] then [] else '.' :: fraction) =
      ⟨negative, whole, fraction⟩ := by
  have hdigits : ∀ c ∈ whole, decide (c ≠ '.') = true := by
    intro c hc
    rw [decide_eq_true_iff]
    rintro rfl
    exact absurd (hwhole '.' hc) (by decide)
  rw [ofUnsigned, List.takeWhile_append_of_pos hdigits, List.dropWhile_append_of_pos hdigits]
  split
  · rename_i hnil
    simp [hnil]
  · simp

/-- A text that is cut gives the parts that it was put together from. -/
theorem ofText_text (h : x.Reduced) : ofText x.text = x := by
  obtain ⟨negative, whole, fraction⟩ := x
  have hcut := ofUnsigned_text h.isDigit_whole fraction
  cases negative with
  | true => exact hcut true
  | false =>
      obtain ⟨c, ds, rfl⟩ := List.exists_cons_of_ne_nil h.whole
      have hminus : c ≠ '-' := (h.isDigit_whole c List.mem_cons_self).ne_minus
      refine Eq.trans ?_ (hcut false)
      rw [ofText.eq_def]
      split
      · rename_i htext
        exact absurd (List.cons.inj htext).1 hminus
      · rfl

/-! ### One numeral for a number -/

theorem Reduced.of_coefficient_eq_zero (h : x.Reduced) (hzero : x.coefficient = 0) :
    x = ⟨false, ['0'], []⟩ := by
  obtain ⟨-, hwhole, hfraction⟩ :=
    List.append_eq_replicate_iff.mp (eq_zeros_of_valueFrom_eq_zero h.digits hzero)
  obtain ⟨negative, whole, fraction⟩ := x
  have hnegative : negative = false := Bool.eq_false_iff.mpr fun hsign => h.sign hsign hzero
  have hone : whole = ['0'] := by
    obtain ⟨c, ds, rfl⟩ := List.exists_cons_of_ne_nil h.whole
    obtain ⟨rfl, -⟩ := List.cons.inj (hwhole.trans List.replicate_succ)
    rw [h.leading ds rfl]
  have hnone : fraction = [] := by
    by_contra hne
    refine h.final ?_
    rw [hfraction, List.getLast?_replicate, if_neg fun hlength => hne (List.eq_nil_of_length_eq_zero hlength)]
  rw [hnegative, hone, hnone]

/-- The digits of a numeral are those of its coefficient, with zeros before the point if that is small. -/
theorem Reduced.padded_coefficient (h : x.Reduced) :
    padded (x.fraction.length + 1) x.coefficient = x.whole ++ x.fraction := by
  obtain ⟨c, ds, hwhole⟩ := List.exists_cons_of_ne_nil h.whole
  -- A single digit before the point may be one of the zeros that fill up; of several, the first one is no zero.
  by_cases hds : ds = []
  · have hlength : (x.whole ++ x.fraction).length = x.fraction.length + 1 := by
      rw [hwhole, hds, List.singleton_append, List.length_cons]
    rw [coefficient, ← hlength]
    exact padded_valueFrom (List.append_ne_nil_of_left_ne_nil h.whole _) h.digits
  · have hc : c ≠ '0' := by
      rintro rfl
      exact hds (h.leading ds hwhole)
    have hdigits : ∀ d ∈ c :: (ds ++ x.fraction), IsDigit d := by
      rw [← List.cons_append, ← hwhole]
      exact h.digits
    have hpositive := List.length_pos_of_ne_nil hds
    rw [coefficient, hwhole, List.cons_append, padded, (digits_value hc hdigits).1, List.length_cons,
      List.length_append, Nat.sub_eq_zero_of_le (by omega)]
    rfl

theorem natAbs_units (x : Parts) : x.units.natAbs = x.coefficient := by
  rw [units]
  split
  · exact Int.natAbs_neg _
  · rfl

theorem Reduced.units_neg_iff (h : x.Reduced) : x.units < 0 ↔ x.negative = true := by
  have hpositive := h.sign
  rw [units]
  split
  · rename_i hnegative
    have hne := hpositive hnegative
    exact iff_of_true (by omega) hnegative
  · rename_i hnegative
    exact iff_of_false (by omega) hnegative

/-- The last place of a reduced numeral is needed. -/
theorem Reduced.not_dvd_units (h : x.Reduced) (hne : x.fraction ≠ []) : ¬ (10 : Int) ∣ x.units := by
  obtain ⟨ds, d, hfraction⟩ := (List.eq_nil_or_concat' x.fraction).resolve_left hne
  have hdigit : IsDigit d := by
    refine h.isDigit_fraction d ?_
    rw [hfraction]
    exact List.mem_append_right ds (List.mem_singleton_self d)
  have hd : d ≠ '0' := by
    rintro rfl
    exact h.final (by rw [hfraction, List.getLast?_concat])
  have hbounds := hdigit.bounds
  have hlast := value_ne_zero hdigit hd
  have hcoefficient : x.coefficient = 10 * valueFrom 0 (x.whole ++ ds) + (d.toNat - 48) := by
    rw [coefficient, hfraction, ← List.append_assoc, valueFrom_append]
    rfl
  have hunits := natAbs_units x
  omega

theorem value_eq_iff : x.value = y.value ↔
    x.units * 10 ^ y.fraction.length = y.units * 10 ^ x.fraction.length := by
  rw [value, value, div_eq_div_iff (pow_ne_zero _ (by norm_num)) (pow_ne_zero _ (by norm_num))]
  exact_mod_cast Iff.rfl

/-- Zeros at the end behind the point may be left out. -/
theorem value_eq {i : Int} {k places : Nat} (hplaces : x.fraction.length + k = places)
    (hunits : x.units * 10 ^ k = i) : x.value = i / 10 ^ places := by
  rw [value, ← hplaces, ← hunits, pow_add]
  push_cast
  field_simp

theorem value_eq_zero_iff : x.value = 0 ↔ x.coefficient = 0 := by
  rw [value, div_eq_zero_iff, or_iff_left (pow_ne_zero _ (by norm_num)), Int.cast_eq_zero, ← natAbs_units,
    Int.natAbs_eq_zero]

/-- A reduced numeral has no more places than another one for its number: the units of the other one would be
multiples of ten. -/
theorem Reduced.places_le (hy : y.Reduced) (h : x.value = y.value) : y.fraction.length ≤ x.fraction.length := by
  by_contra hlt
  obtain ⟨k, hk⟩ := Nat.exists_eq_add_of_lt (Nat.lt_of_not_le hlt)
  have hne : y.fraction ≠ [] := by
    intro hnil
    rw [hnil] at hk
    simp at hk
  have hunits : x.units * 10 ^ (k + 1) * 10 ^ x.fraction.length = y.units * 10 ^ x.fraction.length := by
    rw [← value_eq_iff.mp h, hk, Int.mul_assoc, ← pow_add]
    congr 2
    omega
  have hmultiple := mul_right_cancel₀ (pow_ne_zero _ (by norm_num)) hunits
  refine hy.not_dvd_units hne ⟨x.units * 10 ^ k, ?_⟩
  rw [← hmultiple, pow_succ, ← Int.mul_assoc, Int.mul_comm]

/-- **A number has one reduced numeral.** -/
theorem Reduced.eq_of_value_eq (hx : x.Reduced) (hy : y.Reduced) (h : x.value = y.value) : x = y := by
  -- First the places agree, then the units of the last place, and with these the digits and the sign.
  have hplaces : x.fraction.length = y.fraction.length := Nat.le_antisymm (hx.places_le h.symm) (hy.places_le h)
  have hunits : x.units = y.units := by
    have hcross := value_eq_iff.mp h
    rw [hplaces] at hcross
    exact mul_right_cancel₀ (pow_ne_zero _ (by norm_num)) hcross
  have hcoefficient : x.coefficient = y.coefficient := by rw [← natAbs_units, hunits, natAbs_units]
  have hdigits : x.whole ++ x.fraction = y.whole ++ y.fraction := by
    rw [← hx.padded_coefficient, ← hy.padded_coefficient, hplaces, hcoefficient]
  obtain ⟨hwhole, hfraction⟩ := List.append_inj' hdigits hplaces
  have hnegative : x.negative = y.negative := by
    rw [Bool.eq_iff_iff, ← hx.units_neg_iff, ← hy.units_neg_iff, hunits]
  exact Parts.ext hnegative hwhole hfraction

end Parts

/-- The number that a decimal text stands for. -/
def rational (s : String) : ℚ := (Parts.ofText s.toList).value

end PaymentCredentials.Decimal
