import PaymentCredentials.Base64
import PaymentCredentials.Proofs.Blanks
import PaymentCredentials.Proofs.Utf8

/-!
Base64 read back. Every byte string is spelled by its digits; these are characters of ASCII other than
blanks, four of them for every three bytes begun. Nothing else is read: padding and unused bits leave no
choice, so a text that is read is the text of what it is read as.
-/
namespace PaymentCredentials.Base64

theorem eq_of_getLsbD {a b : UInt8} (h0 : a.toBitVec.getLsbD 0 = b.toBitVec.getLsbD 0)
    (h1 : a.toBitVec.getLsbD 1 = b.toBitVec.getLsbD 1) (h2 : a.toBitVec.getLsbD 2 = b.toBitVec.getLsbD 2)
    (h3 : a.toBitVec.getLsbD 3 = b.toBitVec.getLsbD 3) (h4 : a.toBitVec.getLsbD 4 = b.toBitVec.getLsbD 4)
    (h5 : a.toBitVec.getLsbD 5 = b.toBitVec.getLsbD 5) (h6 : a.toBitVec.getLsbD 6 = b.toBitVec.getLsbD 6)
    (h7 : a.toBitVec.getLsbD 7 = b.toBitVec.getLsbD 7) : a = b := by
  refine UInt8.eq_of_toBitVec_eq (BitVec.eq_of_getLsbD_eq fun i hi => ?_)
  have hi : i = 0 ∨ i = 1 ∨ i = 2 ∨ i = 3 ∨ i = 4 ∨ i = 5 ∨ i = 6 ∨ i = 7 := by omega
  rcases hi with rfl | rfl | rfl | rfl | rfl | rfl | rfl | rfl <;> assumption

/-! ### Digits -/

theorem lt_of_and_eq {n : UInt8} (h : n &&& 63 = n) : n < 64 := by
  rw [← h, UInt8.lt_iff_toNat_lt, UInt8.toNat_and]
  exact Nat.lt_of_le_of_lt Nat.and_le_right (by decide)

theorem value?_digit {n : UInt8} (h : n < 64) : value? (digit n) = some n :=
  Bytes.forall_lt (by decide) n h

theorem digit_ne_pad {n : UInt8} (h : n < 64) : digit n ≠ '=' :=
  Bytes.forall_lt (by decide) n h

/-- A digit is a printed character of ASCII. -/
theorem digit_printed (n : UInt8) : (digit n).toNat < 128 ∧ Text.isBlank (digit n) = false :=
  Bytes.forall_lt (by decide +kernel) n n.toNat_lt

/-! ### Groups -/

theorem first_lt (a : UInt8) : a >>> 2 < 64 := by
  apply lt_of_and_eq
  apply eq_of_getLsbD <;> simp

theorem second_lt (a b : UInt8) : ((a &&& 3) <<< 4 ||| b >>> 4) < 64 := by
  apply lt_of_and_eq
  apply eq_of_getLsbD <;> simp

theorem third_lt (b c : UInt8) : ((b &&& 15) <<< 2 ||| c >>> 6) < 64 := by
  apply lt_of_and_eq
  apply eq_of_getLsbD <;> simp

theorem fourth_lt (c : UInt8) : c &&& 63 < 64 := by
  apply lt_of_and_eq
  apply eq_of_getLsbD <;> simp

theorem first_byte (a b : UInt8) : (a >>> 2) <<< 2 ||| ((a &&& 3) <<< 4 ||| b >>> 4) >>> 4 = a := by
  apply eq_of_getLsbD <;> simp

theorem second_byte (a b c : UInt8) :
    ((a &&& 3) <<< 4 ||| b >>> 4) <<< 4 ||| ((b &&& 15) <<< 2 ||| c >>> 6) >>> 2 = b := by
  apply eq_of_getLsbD <;> simp

theorem third_byte (b c : UInt8) : ((b &&& 15) <<< 2 ||| c >>> 6) <<< 6 ||| (c &&& 63) = c := by
  apply eq_of_getLsbD <;> simp

theorem group?_three (a b c : UInt8) :
    group? (digit (a >>> 2)) (digit ((a &&& 3) <<< 4 ||| b >>> 4))
      (digit ((b &&& 15) <<< 2 ||| c >>> 6)) (digit (c &&& 63)) = some [a, b, c] := by
  simp only [group?, value?_digit (first_lt a), value?_digit (second_lt a b), value?_digit (third_lt b c),
    value?_digit (fourth_lt c), if_neg (digit_ne_pad (third_lt b c)), if_neg (digit_ne_pad (fourth_lt c)),
    Option.bind_eq_bind, Option.bind_some, first_byte, second_byte, third_byte]

theorem group?_two (a b : UInt8) :
    group? (digit (a >>> 2)) (digit ((a &&& 3) <<< 4 ||| b >>> 4)) (digit ((b &&& 15) <<< 2)) '=' =
      some [a, b] := by
  have hlt := third_lt b 0
  have hbyte := second_byte a b 0
  have hzero : ((b &&& 15) <<< 2) &&& 3 = 0 := by apply eq_of_getLsbD <;> simp
  rw [UInt8.zero_shiftRight, UInt8.or_zero] at hlt hbyte
  simp only [group?, value?_digit (first_lt a), value?_digit (second_lt a b), value?_digit hlt,
    if_neg (digit_ne_pad hlt), Option.bind_eq_bind, Option.bind_some, first_byte, hbyte, hzero, if_true]

theorem group?_one (a : UInt8) :
    group? (digit (a >>> 2)) (digit ((a &&& 3) <<< 4)) '=' '=' = some [a] := by
  have hlt := second_lt a 0
  have hbyte := first_byte a 0
  have hzero : ((a &&& 3) <<< 4) &&& 15 = 0 := by apply eq_of_getLsbD <;> simp
  rw [UInt8.zero_shiftRight, UInt8.or_zero] at hlt hbyte
  simp only [group?, value?_digit (first_lt a), value?_digit hlt, Option.bind_eq_bind, Option.bind_some,
    hbyte, hzero, and_self, if_true]

/-! ### Texts -/

theorem ofDigits?_digits (b : Bytes) : ofDigits? (digits b) = some b := by
  induction b using digits.induct with
  | case1 => rfl
  | case2 a =>
      simp only [digits, ofDigits?, group?_one, Option.bind_eq_bind, Option.bind_some, if_true]
  | case3 a b =>
      simp only [digits, ofDigits?, group?_two, Option.bind_eq_bind, Option.bind_some, if_true]
  | case4 a b c rest ih =>
      simp only [digits, ofDigits?, group?_three, ih, if_neg (digit_ne_pad (fourth_lt c)),
        Option.bind_eq_bind, Option.bind_some, Option.pure_def, List.cons_append, List.nil_append]

/-- Reading the text of a byte string gives the byte string back. -/
theorem decode?_encode (b : Bytes) : decode? (encode b) = some b := by
  rw [decode?, encode, String.toList_ofList, ofDigits?_digits]

theorem encode_inj {b b' : Bytes} : encode b = encode b' ↔ b = b' := by
  constructor
  · intro h
    rw [← Option.some_inj, ← decode?_encode, h, decode?_encode]
  · exact congrArg encode

theorem printed_of_mem_digits {b : Bytes} {c : Char} (h : c ∈ digits b) :
    c.toNat < 128 ∧ Text.isBlank c = false := by
  have hpad : ('=').toNat < 128 ∧ Text.isBlank '=' = false := by decide
  induction b using digits.induct with
  | case1 => exact absurd h List.not_mem_nil
  | case2 a =>
      simp only [digits, List.mem_cons, List.not_mem_nil, or_false] at h
      rcases h with rfl | rfl | rfl | rfl
      · exact digit_printed _
      · exact digit_printed _
      · exact hpad
      · exact hpad
  | case3 a b =>
      simp only [digits, List.mem_cons, List.not_mem_nil, or_false] at h
      rcases h with rfl | rfl | rfl | rfl
      · exact digit_printed _
      · exact digit_printed _
      · exact digit_printed _
      · exact hpad
  | case4 a b d rest ih =>
      simp only [digits, List.mem_cons] at h
      rcases h with rfl | rfl | rfl | rfl | hmem
      · exact digit_printed _
      · exact digit_printed _
      · exact digit_printed _
      · exact digit_printed _
      · exact ih hmem

theorem trim_encode (b : Bytes) : Text.trim (encode b) = encode b :=
  Text.trim_eq_self fun c hc => by
    rw [encode, String.toList_ofList] at hc
    exact (printed_of_mem_digits hc).2

theorem length_digits (b : Bytes) : (digits b).length = (b.length + 2) / 3 * 4 := by
  induction b using digits.induct with
  | case1 => rfl
  | case2 a => simp [digits]
  | case3 a b => simp [digits]
  | case4 a b c rest ih =>
      simp only [digits, List.length_cons, ih]
      omega

theorem utf8ByteSize_encode (b : Bytes) : (encode b).utf8ByteSize = (b.length + 2) / 3 * 4 := by
  rw [← length_utf8, encode, utf8_ofList_ascii fun c hc => (printed_of_mem_digits hc).1, List.length_map,
    length_digits]

/-! ### Canonical texts -/

theorem ascii_of_le {c d : Char} (h : c ≤ d) (hd : d.toNat < 128) : c.toNat < 128 :=
  Nat.lt_of_le_of_lt (UInt32.le_iff_toNat_le.mp h) hd

theorem ascii_of_value? {c : Char} {n : UInt8} (h : value? c = some n) : c.toNat < 128 := by
  unfold value? at h
  split at h
  · rename_i hupper
    exact ascii_of_le hupper.2 (by decide)
  split at h
  · rename_i hlower
    exact ascii_of_le hlower.2 (by decide)
  split at h
  · rename_i hnumeral
    exact ascii_of_le hnumeral.2 (by decide)
  split at h
  · rename_i hplus
    subst hplus
    decide
  split at h
  · rename_i hslash
    subst hslash
    decide
  · cases h

theorem digit_of_value? {c : Char} {n : UInt8} (h : value? c = some n) : n < 64 ∧ digit n = c := by
  have htable : ∀ m : Fin 128,
      (value? (Char.ofNat m)).all (fun k => decide (k < 64 ∧ digit k = Char.ofNat m)) = true := by decide +kernel
  have hdigit := htable ⟨c.toNat, ascii_of_value? h⟩
  rw [Char.ofNat_toNat, h] at hdigit
  exact of_decide_eq_true hdigit

theorem high_bits_of_lt {n : UInt8} (h : n < 64) : n.toBitVec[6] = false ∧ n.toBitVec[7] = false :=
  Bytes.forall_lt (by decide) n h

theorem first_digit {a b : UInt8} (ha : a < 64) (hb : b < 64) : (a <<< 2 ||| b >>> 4) >>> 2 = a := by
  obtain ⟨ha6, ha7⟩ := high_bits_of_lt ha
  obtain ⟨hb6, hb7⟩ := high_bits_of_lt hb
  apply eq_of_getLsbD <;> simp [ha6, ha7, hb6, hb7]

theorem second_digit {a b c : UInt8} (hb : b < 64) (hc : c < 64) :
    ((a <<< 2 ||| b >>> 4) &&& 3) <<< 4 ||| (b <<< 4 ||| c >>> 2) >>> 4 = b := by
  obtain ⟨hb6, hb7⟩ := high_bits_of_lt hb
  obtain ⟨hc6, hc7⟩ := high_bits_of_lt hc
  apply eq_of_getLsbD <;> simp [hb6, hb7, hc6, hc7]

theorem third_digit {b c d : UInt8} (hc : c < 64) (hd : d < 64) :
    ((b <<< 4 ||| c >>> 2) &&& 15) <<< 2 ||| (c <<< 6 ||| d) >>> 6 = c := by
  obtain ⟨hc6, hc7⟩ := high_bits_of_lt hc
  obtain ⟨hd6, hd7⟩ := high_bits_of_lt hd
  apply eq_of_getLsbD <;> simp [hc6, hc7, hd6, hd7]

theorem fourth_digit {c d : UInt8} (hd : d < 64) : (c <<< 6 ||| d) &&& 63 = d := by
  obtain ⟨hd6, hd7⟩ := high_bits_of_lt hd
  apply eq_of_getLsbD <;> simp [hd6, hd7]

theorem shiftLeft_four_eq_zero {b : UInt8} : b &&& 15 = 0 → b <<< 4 = 0 :=
  Bytes.forall_lt (by decide +kernel) b b.toNat_lt

theorem shiftLeft_six_eq_zero {c : UInt8} : c &&& 3 = 0 → c <<< 6 = 0 :=
  Bytes.forall_lt (by decide +kernel) c c.toNat_lt

theorem last_digit_of_one {a b : UInt8} (hb : b < 64) (h : b &&& 15 = 0) :
    ((a <<< 2 ||| b >>> 4) &&& 3) <<< 4 = b := by
  have hdigit := second_digit (a := a) (c := 0) hb (by decide)
  rwa [shiftLeft_four_eq_zero h, UInt8.zero_shiftRight, UInt8.or_zero, UInt8.zero_shiftRight, UInt8.or_zero] at hdigit

theorem last_digit_of_two {b c : UInt8} (hc : c < 64) (h : c &&& 3 = 0) :
    ((b <<< 4 ||| c >>> 2) &&& 15) <<< 2 = c := by
  have hdigit := third_digit (b := b) (d := 0) hc (by decide)
  rwa [shiftLeft_six_eq_zero h, UInt8.or_zero, UInt8.zero_shiftRight, UInt8.or_zero] at hdigit

/-- A group is the digits of the bytes it stands for, and stands for fewer than three if it is padded. -/
theorem digits_of_group? {p q r s : Char} {b : Bytes} (h : group? p q r s = some b) :
    digits b = [p, q, r, s] ∧ (s = '=' ∨ b.length = 3) := by
  obtain ⟨x, hp, h⟩ := Option.bind_eq_some_iff.mp h
  obtain ⟨y, hq, h⟩ := Option.bind_eq_some_iff.mp h
  obtain ⟨hx, hp⟩ := digit_of_value? hp
  obtain ⟨hy, hq⟩ := digit_of_value? hq
  dsimp only at h
  split at h
  · rename_i hr
    split at h
    · rename_i hpadded
      obtain rfl := Option.some.inj h
      rw [digits, first_digit hx hy, last_digit_of_one hy hpadded.2, hp, hq, hr, hpadded.1]
      exact ⟨rfl, Or.inl rfl⟩
    · cases h
  obtain ⟨z, hr, h⟩ := Option.bind_eq_some_iff.mp h
  obtain ⟨hz, hr⟩ := digit_of_value? hr
  split at h
  · rename_i hs
    split at h
    · rename_i hpadded
      obtain rfl := Option.some.inj h
      rw [digits, first_digit hx hy, second_digit hy hz, last_digit_of_two hz hpadded, hp, hq, hr, hs]
      exact ⟨rfl, Or.inl rfl⟩
    · cases h
  · obtain ⟨w, hs, h⟩ := Option.bind_eq_some_iff.mp h
    obtain ⟨hw, hs⟩ := digit_of_value? hs
    obtain rfl := Option.some.inj h
    rw [digits, first_digit hx hy, second_digit hy hz, third_digit hz hw, fourth_digit hw, hp, hq, hr, hs]
    exact ⟨rfl, Or.inr rfl⟩

/-- Where the groups of a byte string are full, its digits are followed by those of what follows it. -/
theorem digits_append {b : Bytes} (h : b.length % 3 = 0) (more : Bytes) :
    digits (b ++ more) = digits b ++ digits more := by
  induction b using digits.induct with
  | case1 => rfl
  | case2 a => cases h
  | case3 a b => cases h
  | case4 a b c rest ih =>
      have hrest : rest.length % 3 = 0 := by
        simp only [List.length_cons] at h
        omega
      simp only [digits, List.cons_append, ih hrest]

theorem digits_of_ofDigits? {cs : List Char} {b : Bytes} (h : ofDigits? cs = some b) : digits b = cs := by
  induction cs using ofDigits?.induct generalizing b with
  | case1 =>
    obtain rfl := Option.some.inj h
    rfl
  | case2 p q r s rest ih =>
    rw [ofDigits?] at h
    obtain ⟨bytes, hgroup, h⟩ := Option.bind_eq_some_iff.mp h
    obtain ⟨hdigits, hlength⟩ := digits_of_group? hgroup
    split at h
    · split at h
      · rename_i hrest
        obtain rfl := Option.some.inj h
        rw [hdigits, hrest]
      · cases h
    · rename_i hs
      obtain ⟨more, hmore, h⟩ := Option.bind_eq_some_iff.mp h
      obtain rfl := Option.some.inj h
      rw [digits_append (by rw [hlength.resolve_left hs]), hdigits, ih hmore]
      rfl
  | case3 cs hnil hgroup =>
    rw [ofDigits?.eq_3 cs hnil hgroup] at h
    cases h

/-- Digits that go on from those of a byte string spell a longer one, if they spell any. -/
theorem prefix_of_ofDigits?_append {b whole : Bytes} {more : List Char}
    (h : ofDigits? (digits b ++ more) = some whole) : b <+: whole := by
  induction b using digits.induct generalizing whole with
  | case1 => exact List.nil_prefix
  | case2 a =>
      simp only [digits, List.cons_append, List.nil_append, ofDigits?, group?_one, Option.bind_eq_bind,
        Option.bind_some, if_true, Option.ite_none_right_eq_some] at h
      obtain rfl := Option.some.inj h.2
      exact List.prefix_rfl
  | case3 a b =>
      simp only [digits, List.cons_append, List.nil_append, ofDigits?, group?_two, Option.bind_eq_bind,
        Option.bind_some, if_true, Option.ite_none_right_eq_some] at h
      obtain rfl := Option.some.inj h.2
      exact List.prefix_rfl
  | case4 a b c rest ih =>
      simp only [digits, List.cons_append, ofDigits?, group?_three, if_neg (digit_ne_pad (fourth_lt c)),
        Option.bind_eq_bind, Option.bind_some, Option.pure_def] at h
      obtain ⟨tail, htail, h⟩ := Option.bind_eq_some_iff.mp h
      obtain rfl := Option.some.inj h
      exact (List.prefix_append_right_inj [a, b, c]).mpr (ih htail)

/-- A text is read just in case it is the text of a byte string. -/
theorem decode?_eq_some_iff {s : String} {b : Bytes} : decode? s = some b ↔ s = encode b := by
  constructor
  · intro h
    rw [encode, digits_of_ofDigits? h, String.ofList_toList]
  · rintro rfl
    exact decode?_encode b

end PaymentCredentials.Base64
