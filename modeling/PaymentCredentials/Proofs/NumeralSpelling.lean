import PaymentCredentials.Decimal
import PaymentCredentials.Proofs.Results

/-!
The spellings of integers. What is read as an integer is a sign or none and at least one digit, and many
texts are read as the same integer: a plus sign may stand in front, and so may zeros.
-/
namespace PaymentCredentials.Decimal

/-- The decimal digits. -/
def IsDigit (c : Char) : Prop := '0' ≤ c ∧ c ≤ '9'

instance : DecidablePred IsDigit := fun c => inferInstanceAs (Decidable ('0' ≤ c ∧ c ≤ '9'))

theorem IsDigit.ascii {c : Char} (h : IsDigit c) : c.toNat < 128 :=
  Nat.lt_of_le_of_lt (UInt32.le_iff_toNat_le.mp h.2) (by decide)

theorem IsDigit.ne_plus {c : Char} (h : IsDigit c) : c ≠ '+' := by
  rintro rfl
  exact absurd h (by decide)

theorem IsDigit.ne_minus {c : Char} (h : IsDigit c) : c ≠ '-' := by
  rintro rfl
  exact absurd h (by decide)

theorem IsDigit.bounds {c : Char} (h : IsDigit c) : 48 ≤ c.toNat ∧ c.toNat ≤ 57 :=
  ⟨UInt32.le_iff_toNat_le.mp h.1, UInt32.le_iff_toNat_le.mp h.2⟩

/-- The number that digits spell behind those of `acc`. -/
def valueFrom (acc : Nat) (ds : List Char) : Nat := ds.foldl (fun n c => 10 * n + (c.toNat - 48)) acc

/-- A text spells an integer: digits, at least one, behind a sign or none. -/
inductive Denotes : List Char → Int → Prop
  | unsigned (ds : List Char) (hne : ds ≠ []) (hdigit : ∀ c ∈ ds, IsDigit c) : Denotes ds (valueFrom 0 ds)
  | plus (ds : List Char) (hne : ds ≠ []) (hdigit : ∀ c ∈ ds, IsDigit c) :
      Denotes ('+' :: ds) (valueFrom 0 ds)
  | minus (ds : List Char) (hne : ds ≠ []) (hdigit : ∀ c ∈ ds, IsDigit c) :
      Denotes ('-' :: ds) (-(valueFrom 0 ds : Int))

/-! ### Reading -/

theorem le_valueFrom (acc : Nat) (ds : List Char) : acc ≤ valueFrom acc ds := by
  induction ds generalizing acc with
  | nil => exact Nat.le_refl acc
  | cons c ds ih =>
      calc acc ≤ 10 * acc + (c.toNat - 48) := by omega
        _ ≤ valueFrom acc (c :: ds) := ih _

/-- Digits are read as the number that they spell, unless it is too large. The numbers on the way only
grow, so that one that is too large is the end. -/
theorem natFrom_eq_ok_iff {upper acc : Nat} (overflow : Fault) {n : Nat} {ds : List Char} (hacc : acc ≤ upper) :
    natFrom upper overflow acc ds = .ok n ↔
      (∀ c ∈ ds, IsDigit c) ∧ valueFrom acc ds = n ∧ n ≤ upper := by
  induction ds generalizing acc with
  | nil =>
      constructor
      · intro h
        obtain rfl := Except.ok.inj h
        exact ⟨fun c hc => absurd hc List.not_mem_nil, rfl, hacc⟩
      · rintro ⟨-, rfl, -⟩
        rfl
  | cons c ds ih =>
      rw [natFrom, List.forall_mem_cons]
      by_cases hc : IsDigit c
      · have hvalue : value? c = some (c.toNat - 48) := if_pos hc
        simp only [hvalue, hc, true_and]
        by_cases hover : upper < 10 * acc + (c.toNat - 48)
        · rw [if_pos hover]
          constructor
          · intro h
            cases h
          · rintro ⟨-, rfl, hle⟩
            have hfirst := le_valueFrom (10 * acc + (c.toNat - 48)) ds
            exact absurd (Nat.lt_of_lt_of_le hover hfirst) (Nat.not_lt_of_le hle)
        · rw [if_neg hover]
          exact ih (Nat.le_of_not_lt hover)
      · have hvalue : value? c = none := if_neg hc
        simp only [hvalue, hc, false_and, iff_false]
        intro h
        cases h

theorem map_natFrom_eq_ok_iff {upper : Nat} (overflow : Fault) (sign : Nat → Int) {ds : List Char} {i : Int} :
    (natFrom upper overflow 0 ds).map sign = .ok i ↔
      (∀ c ∈ ds, IsDigit c) ∧ sign (valueFrom 0 ds) = i ∧ valueFrom 0 ds ≤ upper := by
  constructor
  · intro h
    obtain ⟨n, hn, rfl⟩ := ok_of_map h
    obtain ⟨hdigit, rfl, hle⟩ := (natFrom_eq_ok_iff overflow (Nat.zero_le upper)).mp hn
    exact ⟨hdigit, rfl, hle⟩
  · rintro ⟨hdigit, rfl, hle⟩
    rw [(natFrom_eq_ok_iff overflow (Nat.zero_le upper)).mpr ⟨hdigit, rfl, hle⟩]
    rfl

theorem read_plus {lower upper : Nat} {ds : List Char} (hne : ds ≠ []) :
    read lower upper ('+' :: ds) = (natFrom upper .tooLarge 0 ds).map Int.ofNat := by
  cases ds with
  | nil => exact absurd rfl hne
  | cons c ds => rfl

theorem read_minus {lower upper : Nat} {ds : List Char} (hlower : lower ≠ 0) (hne : ds ≠ []) :
    read lower upper ('-' :: ds) = (natFrom lower .tooSmall 0 ds).map fun n : Nat => -(n : Int) := by
  cases ds with
  | nil => exact absurd rfl hne
  | cons c ds =>
      refine (if_neg hlower).trans ?_
      cases natFrom lower .tooSmall 0 (c :: ds) <;> rfl

theorem read_unsigned {lower upper : Nat} {c : Char} {ds : List Char} (hplus : c ≠ '+') (hminus : c ≠ '-') :
    read lower upper (c :: ds) = (natFrom upper .tooLarge 0 (c :: ds)).map Int.ofNat := by
  rw [read.eq_def]
  split <;> simp_all

/-- A text is read as an integer just in case it spells the integer, which is within the range. -/
theorem read_eq_ok_iff {lower upper : Nat} (hlower : lower ≠ 0) {cs : List Char} {i : Int} :
    read lower upper cs = .ok i ↔ Denotes cs i ∧ -(lower : Int) ≤ i ∧ i ≤ upper := by
  have hnegative : ∀ n : Nat, -(lower : Int) ≤ n := fun n => by omega
  constructor
  · intro h
    cases cs with
    | nil => cases h
    | cons c ds =>
      by_cases hplus : c = '+'
      · subst hplus
        have hne : ds ≠ [] := by
          rintro rfl
          cases h
        rw [read_plus hne, map_natFrom_eq_ok_iff] at h
        obtain ⟨hdigit, rfl, hle⟩ := h
        exact ⟨.plus ds hne hdigit, hnegative _, Int.ofNat_le.mpr hle⟩
      by_cases hminus : c = '-'
      · subst hminus
        have hne : ds ≠ [] := by
          rintro rfl
          cases h
        rw [read_minus hlower hne, map_natFrom_eq_ok_iff] at h
        obtain ⟨hdigit, rfl, hle⟩ := h
        exact ⟨.minus ds hne hdigit, by omega, by omega⟩
      · rw [read_unsigned hplus hminus, map_natFrom_eq_ok_iff] at h
        obtain ⟨hdigit, rfl, hle⟩ := h
        exact ⟨.unsigned _ (List.cons_ne_nil c ds) hdigit, hnegative _, Int.ofNat_le.mpr hle⟩
  · rintro ⟨hdenotes, hleast, hmost⟩
    cases hdenotes with
    | unsigned _ hne hdigit =>
      cases cs with
      | nil => exact absurd rfl hne
      | cons c ds =>
        have hc := hdigit c List.mem_cons_self
        rw [read_unsigned hc.ne_plus hc.ne_minus, map_natFrom_eq_ok_iff]
        exact ⟨hdigit, rfl, Int.ofNat_le.mp hmost⟩
    | plus ds hne hdigit =>
      rw [read_plus hne, map_natFrom_eq_ok_iff]
      exact ⟨hdigit, rfl, Int.ofNat_le.mp hmost⟩
    | minus ds hne hdigit =>
      rw [read_minus hlower hne, map_natFrom_eq_ok_iff]
      exact ⟨hdigit, rfl, by omega⟩

/-- A text is read as a 64-bit integer just in case it spells that. -/
theorem readInt64_eq_ok_iff {s : String} {n : Int64} : readInt64 s = .ok n ↔ Denotes s.toList n.toInt := by
  have hle := n.le_toInt
  have hlt := n.toInt_lt
  constructor
  · intro h
    obtain ⟨i, hi, rfl⟩ := ok_of_map h
    obtain ⟨hdenotes, hleast, hmost⟩ := (read_eq_ok_iff (by decide)).mp hi
    rwa [Int64.toInt_ofInt_of_le (by omega) (by omega)]
  · intro h
    rw [readInt64, (read_eq_ok_iff (by decide)).mpr ⟨h, by omega, by omega⟩, Except.map, Int64.ofInt_toInt]

/-- A spelling is of digits and a sign, so it holds no bar and nothing but ASCII. -/
theorem Denotes.ascii {cs : List Char} {i : Int} (h : Denotes cs i) : ∀ c ∈ cs, c.toNat < 128 ∧ c ≠ '|' := by
  have hdigits : ∀ ds : List Char, (∀ c ∈ ds, IsDigit c) → ∀ c ∈ ds, c.toNat < 128 ∧ c ≠ '|' := by
    intro ds hdigit c hc
    refine ⟨(hdigit c hc).ascii, ?_⟩
    rintro rfl
    exact absurd (hdigit '|' hc) (by decide)
  cases h with
  | unsigned _ _ hdigit => exact hdigits _ hdigit
  | plus ds _ hdigit => exact List.forall_mem_cons.mpr ⟨by decide, hdigits ds hdigit⟩
  | minus ds _ hdigit => exact List.forall_mem_cons.mpr ⟨by decide, hdigits ds hdigit⟩

end PaymentCredentials.Decimal
