/-!
Byte strings, and texts seen as byte strings through UTF-8. Reading the UTF-8 form of a text gives
the text back.
-/
namespace PaymentCredentials

/-- A byte string. Every encoder and decoder of this library works on lists of bytes. -/
abbrev Bytes := List UInt8

/-- The UTF-8 form of a text. -/
def utf8 (s : String) : Bytes := s.toByteArray.data.toList

/-- The text with the given UTF-8 form; there is none for ill-formed bytes. -/
def ofUtf8? (b : Bytes) : Option String := String.fromUTF8? ⟨b.toArray⟩

theorem ofUtf8?_utf8 (s : String) : ofUtf8? (utf8 s) = some s := by
  have h : (⟨(utf8 s).toArray⟩ : ByteArray) = s.toByteArray := by simp [utf8]
  simp only [ofUtf8?, h, String.fromUTF8?]
  rw [dif_pos (by simpa using s.isValidUTF8)]
  rfl

theorem utf8_inj {s t : String} : utf8 s = utf8 t ↔ s = t :=
  ⟨fun h => Option.some.inj (by rw [← ofUtf8?_utf8 s, ← ofUtf8?_utf8 t, h]), congrArg utf8⟩

/-- Lexicographic order of byte strings, the order every sorted map of this library is written in. -/
def Bytes.le : Bytes → Bytes → Bool
  | [], _ => true
  | _ :: _, [] => false
  | a :: s, b :: t => a < b || (a == b && Bytes.le s t)

theorem Bytes.le_cons {a b : UInt8} {s t : Bytes} :
    Bytes.le (a :: s) (b :: t) = true ↔ a < b ∨ a = b ∧ Bytes.le s t = true := by
  simp [Bytes.le]

theorem Bytes.le_refl (s : Bytes) : Bytes.le s s = true := by
  induction s with
  | nil => rfl
  | cons a s ih => exact Bytes.le_cons.2 (.inr ⟨rfl, ih⟩)

theorem Bytes.le_trans {s t u : Bytes} (hst : Bytes.le s t = true) (htu : Bytes.le t u = true) :
    Bytes.le s u = true := by
  induction s generalizing t u with
  | nil => rfl
  | cons a s ih =>
    cases t with
    | nil => cases hst
    | cons b t =>
      cases u with
      | nil => cases htu
      | cons c u =>
        rcases Bytes.le_cons.1 hst with hab | ⟨rfl, head⟩
        · rcases Bytes.le_cons.1 htu with hbc | ⟨rfl, -⟩
          · exact Bytes.le_cons.2 (.inl (UInt8.lt_trans hab hbc))
          · exact Bytes.le_cons.2 (.inl hab)
        · rcases Bytes.le_cons.1 htu with hbc | ⟨rfl, tail⟩
          · exact Bytes.le_cons.2 (.inl hbc)
          · exact Bytes.le_cons.2 (.inr ⟨rfl, ih head tail⟩)

theorem Bytes.le_total (s t : Bytes) : Bytes.le s t = true ∨ Bytes.le t s = true := by
  induction s generalizing t with
  | nil => exact .inl rfl
  | cons a s ih =>
    cases t with
    | nil => exact .inr rfl
    | cons b t =>
      by_cases hab : a = b
      · subst hab
        exact (ih t).imp (fun h => Bytes.le_cons.2 (.inr ⟨rfl, h⟩))
          fun h => Bytes.le_cons.2 (.inr ⟨rfl, h⟩)
      · exact (UInt8.lt_or_lt_of_ne hab).imp (fun h => Bytes.le_cons.2 (.inl h))
          fun h => Bytes.le_cons.2 (.inl h)

theorem Bytes.le_antisymm {s t : Bytes} (hst : Bytes.le s t = true) (hts : Bytes.le t s = true) :
    s = t := by
  induction s generalizing t with
  | nil =>
    cases t with
    | nil => rfl
    | cons b t => cases hts
  | cons a s ih =>
    cases t with
    | nil => cases hst
    | cons b t =>
      rcases Bytes.le_cons.1 hst with hab | ⟨rfl, head⟩
      · rcases Bytes.le_cons.1 hts with hba | ⟨rfl, -⟩
        · exact absurd hba (UInt8.lt_asymm hab)
        · exact absurd hab (UInt8.lt_irrefl _)
      · rcases Bytes.le_cons.1 hts with hba | ⟨-, tail⟩
        · exact absurd hba (UInt8.lt_irrefl _)
        · rw [ih head tail]

/-- The order of texts by their UTF-8 forms. -/
def textLe (s t : String) : Bool := Bytes.le (utf8 s) (utf8 t)

theorem textLe_trans {s t u : String} (hst : textLe s t = true) (htu : textLe t u = true) :
    textLe s u = true := Bytes.le_trans hst htu

theorem textLe_total (s t : String) : textLe s t = true ∨ textLe t s = true := Bytes.le_total _ _

theorem textLe_antisymm {s t : String} (hst : textLe s t = true) (hts : textLe t s = true) : s = t :=
  utf8_inj.1 (Bytes.le_antisymm hst hts)

/-- What is so for every number below a bound is so for every byte below it. -/
@[elab_as_elim]
theorem Bytes.forall_lt {bound : Nat} {p : UInt8 → Prop} (h : ∀ m : Fin bound, p (UInt8.ofNat m)) (b : UInt8)
    (hb : b.toNat < bound) : p b := by
  have hp := h ⟨b.toNat, hb⟩
  rwa [UInt8.ofNat_toNat] at hp

/-- The bitwise exclusive or of two byte strings, as long as the shorter one. -/
def Bytes.xor (a b : Bytes) : Bytes := List.zipWith (· ^^^ ·) a b

theorem Bytes.eq_of_xor_eq_zero {a b : Bytes} (hlength : a.length = b.length) (h : ∀ x ∈ a.xor b, x = 0) :
    a = b := by
  induction a generalizing b with
  | nil => exact (List.length_eq_zero_iff.mp hlength.symm).symm
  | cons x a ih =>
    cases b with
    | nil => cases hlength
    | cons y b =>
      obtain ⟨hhead, htail⟩ := List.forall_mem_cons.mp h
      rw [UInt8.xor_eq_zero_iff.mp hhead, ih (Nat.succ.inj hlength) htail]

theorem Bytes.xor_self_eq_zero {a : Bytes} : ∀ x ∈ a.xor a, x = 0 := by
  intro x hx
  rw [Bytes.xor, List.zipWith_self] at hx
  obtain ⟨y, -, rfl⟩ := List.mem_map.mp hx
  exact UInt8.xor_self

/-- A number in a given count of bytes, least significant first. -/
def Bytes.ofNatLE : (count n : Nat) → Bytes
  | 0, _ => []
  | k + 1, n => UInt8.ofNat n :: Bytes.ofNatLE k (n / 256)

/-- A number in a given count of bytes, most significant first. -/
def Bytes.ofNatBE (count n : Nat) : Bytes := (Bytes.ofNatLE count n).reverse

/-- The number a byte string spells, least significant byte first. -/
def Bytes.toNatLE : Bytes → Nat
  | [] => 0
  | b :: s => b.toNat + 256 * Bytes.toNatLE s

/-- The number a byte string spells, most significant byte first. -/
def Bytes.toNatBE (s : Bytes) : Nat := s.foldl (fun n b => 256 * n + b.toNat) 0

theorem Bytes.length_ofNatLE (k n : Nat) : (Bytes.ofNatLE k n).length = k := by
  induction k generalizing n with
  | zero => rfl
  | succ k ih => simp [Bytes.ofNatLE, ih]

theorem Bytes.toNatLE_ofNatLE (k n : Nat) (h : n < 1 <<< (8 * k)) :
    Bytes.toNatLE (Bytes.ofNatLE k n) = n := by
  induction k generalizing n with
  | zero => simp at h; simp [Bytes.ofNatLE, Bytes.toNatLE, h]
  | succ k ih =>
    have hd : n / 256 < 1 <<< (8 * k) := by
      rw [Nat.mul_succ, Nat.shiftLeft_add, Nat.shiftLeft_eq _ 8] at h
      rw [Nat.div_lt_iff_lt_mul (by decide)]
      exact h
    simp only [Bytes.ofNatLE, Bytes.toNatLE, ih _ hd, UInt8.toNat_ofNat']
    omega

theorem Bytes.toNatLE_lt (b : Bytes) : Bytes.toNatLE b < 1 <<< (8 * b.length) := by
  induction b with
  | nil => decide
  | cons x b ih =>
    have hx := x.toNat_lt
    rw [List.length_cons, Nat.mul_succ, Nat.shiftLeft_add, Nat.shiftLeft_eq _ 8, Bytes.toNatLE]
    omega

theorem Bytes.ofNatLE_toNatLE (b : Bytes) : Bytes.ofNatLE b.length (Bytes.toNatLE b) = b := by
  induction b with
  | nil => rfl
  | cons x b ih =>
    have hx := x.toNat_lt
    have hhead : UInt8.ofNat (x.toNat + 256 * Bytes.toNatLE b) = x := by
      rw [← UInt8.toNat_inj, UInt8.toNat_ofNat']
      omega
    have htail : (x.toNat + 256 * Bytes.toNatLE b) / 256 = Bytes.toNatLE b := by omega
    simp only [List.length_cons, Bytes.toNatLE, Bytes.ofNatLE, hhead, htail, ih]

end PaymentCredentials
