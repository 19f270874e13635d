import PaymentCredentials.Json.Reader
import PaymentCredentials.Proofs.HexText
import PaymentCredentials.Proofs.Numerals

/-!
The tokens of written JSON text. Each token is read from the bytes that were written for it, whatever
follows them; a numeral only needs something other than its own characters behind it.
-/
namespace PaymentCredentials.Json

/-- The bytes are read as the tokens where `rest` follows them. -/
structure Spells (text : Bytes) (ts : List Token) (rest : Bytes) : Prop where
  tokens : ∀ fuel, tokensFrom (ts.length + fuel) (text ++ rest) = ts ++ tokensFrom fuel rest
  size : ts.length ≤ text.length

theorem Spells.append {text text' rest : Bytes} {ts ts' : List Token} (h : Spells text ts (text' ++ rest))
    (h' : Spells text' ts' rest) : Spells (text ++ text') (ts ++ ts') rest := by
  refine ⟨fun fuel => ?_, ?_⟩
  · rw [List.append_assoc, List.length_append, Nat.add_assoc, h.tokens, h'.tokens, List.append_assoc]
  · have hsize := h.size
    have hsize' := h'.size
    rw [List.length_append, List.length_append]
    omega

theorem spells_of_nextToken {c : UInt8} {text rest : Bytes} {t : Token} (hblank : isBlankByte c = false)
    (h : nextToken (c :: text ++ rest) = some (t, rest)) : Spells (c :: text) [t] rest := by
  refine ⟨fun fuel => ?_, Nat.succ_le_succ (Nat.zero_le _)⟩
  have hstart : (c :: text ++ rest).dropWhile isBlankByte = c :: text ++ rest :=
    List.dropWhile_cons_of_neg (by rw [hblank]; exact Bool.false_ne_true)
  rw [List.length_singleton, Nat.add_comm, tokensFrom, hstart]
  simp only [List.cons_append] at h ⊢
  rw [h]
  rfl

theorem tokens_of_spells {b : Bytes} {ts : List Token} (h : Spells b ts []) : tokens b = ts := by
  have hnil : ∀ fuel, tokensFrom fuel [] = [] := fun fuel => by cases fuel <;> rfl
  have htokens := h.tokens (b.length - ts.length)
  rwa [List.append_nil, hnil, List.append_nil, Nat.add_sub_of_le h.size] at htokens

/-! ### Strings -/

/-- How a byte inside the quotes of a string is read: a byte for itself or for the letter that escapes it;
the control characters without a letter are written by their numbers. -/
def writtenUnit (b : UInt8) : TextUnit :=
  if b < 0x20 ∧ b ≠ 8 ∧ b ≠ 9 ∧ b ≠ 10 ∧ b ≠ 12 ∧ b ≠ 13 then .code b.toNat else .byte b

theorem hexValue?_hexDigit {n : UInt8} (h : n < 16) : hexValue? (hexDigit n) = some n.toNat :=
  Bytes.forall_lt (by decide) n h

/-- The contents of a string behind one more unit. -/
def behind (u : TextUnit) (r : Option (RawText × Bytes)) : Option (RawText × Bytes) :=
  r.map fun r => (u :: r.1, r.2)

theorem bind_pure_eq_behind (u : TextUnit) (r : Option (RawText × Bytes)) :
    (do let (more, rest) ← r; pure (u :: more, rest)) = behind u r := by
  cases r <;> rfl

theorem readString_letter {e x : UInt8} (h : escapedByte? e = some x) (rest : Bytes) :
    readString (0x5C :: e :: rest) = behind (.byte x) (readString rest) := by
  have hunicode : e ≠ 0x75 := by
    rintro rfl
    cases h
  rw [readString.eq_4 e rest fun _ _ _ _ _ heq => absurd heq hunicode, h]
  exact bind_pure_eq_behind _ _

theorem readString_plain {x : UInt8} (hcontrol : ¬ x < 0x20) (hquote : x ≠ 0x22) (hslash : x ≠ 0x5C)
    (rest : Bytes) : readString (x :: rest) = behind (.byte x) (readString rest) := by
  rw [readString.eq_5 x rest hquote (fun _ _ _ _ _ heq => absurd heq hslash)
    fun _ _ heq => absurd heq hslash, if_neg (not_or.mpr ⟨hcontrol, hslash⟩)]
  exact bind_pure_eq_behind _ _

theorem readString_number (x : UInt8) (rest : Bytes) :
    readString (0x5C :: 0x75 :: 0x30 :: 0x30 :: hexDigit (x >>> 4) :: hexDigit (x &&& 15) :: rest) =
      behind (.code x.toNat) (readString rest) := by
  have hshift : (x >>> 4).toNat = x.toNat / 16 := by
    rw [UInt8.toNat_shiftRight]
    exact Nat.shiftRight_eq_div_pow _ _
  have hmask : (x &&& 15).toNat = x.toNat % 16 := by
    rw [UInt8.toNat_and]
    exact Nat.and_two_pow_sub_one_eq_mod x.toNat 4
  obtain ⟨hhigh, hlow, -⟩ := Hex.halves x
  have hzero : hexValue? 0x30 = some 0 := rfl
  have hvalue : 4096 * 0 + 256 * 0 + 16 * (x >>> 4).toNat + (x &&& 15).toNat = x.toNat := by
    rw [hshift, hmask]
    omega
  rw [readString.eq_3, hzero, hexValue?_hexDigit hhigh, hexValue?_hexDigit hlow]
  simp only [Option.bind_eq_bind, Option.bind_some, hvalue]
  exact bind_pure_eq_behind _ _

theorem readString_escapeByte (b : UInt8) (rest : Bytes) :
    readString (escapeByte b ++ rest) = behind (writtenUnit b) (readString rest) := by
  by_cases hletter : b ∈ [0x22, 0x5C, 8, 9, 10, 12, 13]
  · simp only [List.mem_cons, List.not_mem_nil, or_false] at hletter
    rcases hletter with rfl | rfl | rfl | rfl | rfl | rfl | rfl <;> exact readString_letter rfl rest
  simp only [List.mem_cons, List.not_mem_nil, or_false, not_or] at hletter
  obtain ⟨hquote, hslash, h8, h9, h10, h12, h13⟩ := hletter
  rw [escapeByte, if_neg hquote, if_neg hslash, if_neg h8, if_neg h9, if_neg h10, if_neg h12, if_neg h13]
  by_cases hcontrol : b < 0x20
  · rw [if_pos hcontrol, writtenUnit, if_pos ⟨hcontrol, h8, h9, h10, h12, h13⟩]
    exact readString_number b rest
  · rw [if_neg hcontrol, writtenUnit, if_neg fun h => hcontrol h.1]
    exact readString_plain hcontrol hquote hslash rest

theorem readString_contents (bs rest : Bytes) :
    readString (bs.flatMap escapeByte ++ 0x22 :: rest) = some (bs.map writtenUnit, rest) := by
  induction bs with
  | nil => rfl
  | cons b bs ih =>
      rw [List.flatMap_cons, List.append_assoc, readString_escapeByte, ih]
      rfl

/-- The contents of a string as they are read from its quotes. -/
def writtenText (s : String) : RawText := (utf8 s).map writtenUnit

theorem spells_quote (s : String) (rest : Bytes) : Spells (quote s) [.string (writtenText s)] rest := by
  have hquote : quote s = 0x22 :: ((utf8 s).flatMap escapeByte ++ [0x22]) := rfl
  rw [hquote]
  refine spells_of_nextToken (by decide) ?_
  simp only [List.append_assoc, List.cons_append, List.nil_append, nextToken, readString_contents,
    Option.map_some, writtenText]

theorem textBytes_map_writtenUnit (bs : Bytes) : textBytes (bs.map writtenUnit) = some bs := by
  induction bs with
  | nil => rfl
  | cons b bs ih =>
      rw [List.map_cons, writtenUnit]
      split
      · rename_i hcontrol
        have hlt : b.toNat < 0x20 := UInt8.lt_iff_toNat_lt.mp hcontrol.1
        have hchar : (Char.ofNat b.toNat).toNat = b.toNat :=
          (show ∀ m : Fin 32, (Char.ofNat m.val).toNat = m.val by decide) ⟨b.toNat, hlt⟩
        have hcode : utf8OfCode b.toNat = [b] := by
          rw [utf8OfCode, utf8_ofList_ascii (by simp only [List.mem_singleton, forall_eq, hchar]; omega),
            List.map_singleton, hchar, UInt8.ofNat_toNat]
        rw [textBytes.eq_def]
        dsimp only
        rw [if_neg (by omega), if_neg (by omega), ih, hcode]
        rfl
      · rw [textBytes, ih]
        rfl

/-- A string is read as the text that was written. -/
theorem text?_writtenText (s : String) : text? (writtenText s) = some s := by
  rw [text?, writtenText, textBytes_map_writtenUnit]
  exact ofUtf8?_utf8 s

/-! ### Numerals -/

/-- The digits of a number as bytes. -/
def digitBytes (n : Nat) : Bytes := (Decimal.digits n).map fun c => UInt8.ofNat c.toNat

/-- What follows a numeral does not go on with it. -/
def EndsNumeral (b : Bytes) : Prop :=
  ∀ x ∈ b.head?, isDigitByte x = false ∧ x ≠ 0x2E ∧ x ≠ 0x65 ∧ x ≠ 0x45

theorem digitByte {k : Nat} (h : k < 10) :
    isDigitByte (UInt8.ofNat (Decimal.digit k).toNat) = true ∧
      (UInt8.ofNat (Decimal.digit k).toNat).toNat - 0x30 = k :=
  (show ∀ m : Fin 10, isDigitByte (UInt8.ofNat (Decimal.digit m).toNat) = true ∧
    (UInt8.ofNat (Decimal.digit m).toNat).toNat - 0x30 = m.val by decide) ⟨k, h⟩

theorem digitBytes_of_lt {n : Nat} (h : n < 10) : digitBytes n = [UInt8.ofNat (Decimal.digit n).toNat] := by
  rw [digitBytes, Decimal.digits, if_pos h]
  rfl

theorem digitBytes_of_le {n : Nat} (h : 10 ≤ n) :
    digitBytes n = digitBytes (n / 10) ++ [UInt8.ofNat (Decimal.digit (n % 10)).toNat] := by
  rw [digitBytes, Decimal.digits, if_neg (Nat.not_lt_of_le h), List.map_append]
  rfl

theorem isDigitByte_of_mem {n : Nat} {b : UInt8} (h : b ∈ digitBytes n) : isDigitByte b = true := by
  induction n using Nat.strongRecOn with
  | ind n ih =>
      by_cases hlt : n < 10
      · rw [digitBytes_of_lt hlt, List.mem_singleton] at h
        rw [h]
        exact (digitByte hlt).1
      · rw [digitBytes_of_le (Nat.le_of_not_lt hlt)] at h
        rcases List.mem_append.mp h with hmem | hmem
        · exact ih (n / 10) (by omega) hmem
        · rw [List.mem_singleton.mp hmem]
          exact (digitByte (Nat.mod_lt _ (by decide))).1

/-- The values of the digits of a number. -/
def digitNumbers (n : Nat) : List Nat := digitValues (digitBytes n)

theorem digitNumbers_of_lt {n : Nat} (h : n < 10) : digitNumbers n = [n] := by
  rw [digitNumbers, digitBytes_of_lt h, digitValues, List.map_singleton, (digitByte h).2]

theorem digitNumbers_of_le {n : Nat} (h : 10 ≤ n) :
    digitNumbers n = digitNumbers (n / 10) ++ [n % 10] := by
  rw [digitNumbers, digitBytes_of_le h, digitValues, List.map_append, List.map_singleton,
    (digitByte (Nat.mod_lt n (by decide))).2]
  rfl

/-- No number but zero is written with a zero in front. -/
theorem head_digitNumbers {n : Nat} (h : n ≠ 0) : ∃ d rest, digitNumbers n = d :: rest ∧ d ≠ 0 := by
  induction n using Nat.strongRecOn with
  | ind n ih =>
      by_cases hlt : n < 10
      · exact ⟨n, [], digitNumbers_of_lt hlt, h⟩
      · obtain ⟨d, rest, hdigits, hd⟩ := ih (n / 10) (by omega) (by omega)
        refine ⟨d, rest ++ [n % 10], ?_, hd⟩
        rw [digitNumbers_of_le (Nat.le_of_not_lt hlt), hdigits, List.cons_append]

theorem significand_append {acc m : Nat} {ds : List Nat} {d : Nat} (h : significand acc ds = (m, []))
    (hlt : 10 * m + d < 0x10000000000000000) : significand acc (ds ++ [d]) = (10 * m + d, []) := by
  induction ds generalizing acc with
  | nil =>
      cases h
      rw [List.nil_append, significand, if_neg (Nat.not_le_of_lt hlt)]
      rfl
  | cons e ds ih =>
      rw [significand] at h
      rw [List.cons_append, significand]
      split at h
      · cases h
      · rename_i hfits
        rw [if_neg hfits]
        exact ih h

theorem significand_digitNumbers {n : Nat} (h : n < 0x10000000000000000) :
    significand 0 (digitNumbers n) = (n, []) := by
  induction n using Nat.strongRecOn with
  | ind n ih =>
      by_cases hlt : n < 10
      · rw [digitNumbers_of_lt hlt, significand, if_neg (by omega), Nat.mul_zero, Nat.zero_add]
        rfl
      · have hdiv := Nat.div_add_mod n 10
        have happend := significand_append (d := n % 10) (ih (n / 10) (by omega) (by omega)) (by omega)
        rw [digitNumbers_of_le (Nat.le_of_not_lt hlt), happend, hdiv]

/-- An integer as it is read from its decimal digits. -/
def writtenNumeral (i : Int) : Numeral := ⟨decide (i < 0), digitNumbers i.natAbs, none, none⟩

theorem utf8_ofInt_eq (i : Int) :
    utf8 (Decimal.ofInt i) = if i < 0 then 0x2D :: digitBytes i.natAbs else digitBytes i.natAbs := by
  rw [Decimal.utf8_ofInt]
  unfold Decimal.numeral
  split <;> rfl

theorem readDigits_digitBytes (n : Nat) {rest : Bytes} (h : EndsNumeral rest) :
    readDigits (digitBytes n ++ rest) = some (digitNumbers n, rest) := by
  have hdigits : ∀ b ∈ digitBytes n, isDigitByte b = true := fun _ hb => isDigitByte_of_mem hb
  have hne : digitBytes n ≠ [] := fun h => Decimal.digits_ne_nil n (List.map_eq_nil_iff.mp h)
  have hstop : rest.takeWhile isDigitByte = [] ∧ rest.dropWhile isDigitByte = rest := by
    cases rest with
    | nil => exact ⟨rfl, rfl⟩
    | cons x rest =>
        have hx : ¬ isDigitByte x = true := by
          rw [(h x rfl).1]
          exact Bool.false_ne_true
        exact ⟨List.takeWhile_cons_of_neg hx, List.dropWhile_cons_of_neg hx⟩
  rw [readDigits, List.takeWhile_append_of_pos hdigits, List.dropWhile_append_of_pos hdigits, hstop.1,
    hstop.2, List.append_nil]
  cases hbytes : digitBytes n with
  | nil => exact absurd hbytes hne
  | cons b bs =>
      rw [digitNumbers, hbytes]

theorem readUnsigned_digitBytes (negative : Bool) (n : Nat) {rest : Bytes} (h : EndsNumeral rest) :
    readUnsigned negative (digitBytes n ++ rest) = some (⟨negative, digitNumbers n, none, none⟩, rest) := by
  have hlead : ∀ d ds, digitNumbers n ≠ 0 :: d :: ds := by
    intro d ds hds
    by_cases hn : n = 0
    · rw [hn, digitNumbers_of_lt (by decide)] at hds
      cases hds
    · obtain ⟨e, es, hes, he⟩ := head_digitNumbers hn
      rw [hes] at hds
      exact he (List.cons.inj hds).1
  have hpoint : ∀ more, rest ≠ 0x2E :: more := by
    rintro more rfl
    exact (h _ rfl).2.1 rfl
  have hlower : ∀ more, rest ≠ 0x65 :: more := by
    rintro more rfl
    exact (h _ rfl).2.2.1 rfl
  have hupper : ∀ more, rest ≠ 0x45 :: more := by
    rintro more rfl
    exact (h _ rfl).2.2.2 rfl
  unfold readUnsigned
  rw [readDigits_digitBytes n h]
  simp only [Option.bind_eq_bind, Option.bind_some, Option.pure_def]

theorem isBlankByte_of_digit {c : UInt8} (h : isDigitByte c = true) : isBlankByte c = false := by
  simp only [isDigitByte, isBlankByte, Bool.and_eq_true, decide_eq_true_eq, Bool.or_eq_false_iff,
    beq_eq_false_iff_ne] at h ⊢
  refine ⟨⟨⟨?_, ?_⟩, ?_⟩, ?_⟩ <;> rintro rfl <;> exact absurd h (by decide)

theorem nextToken_digit {c : UInt8} (h : isDigitByte c = true) (rest : Bytes) :
    nextToken (c :: rest) = (readUnsigned false (c :: rest)).map fun r => (.number r.1, r.2) := by
  unfold nextToken
  split
  all_goals first
    | rfl
    | rename_i heq
      cases heq <;> exact absurd h (by decide)

theorem spells_int (i : Int) {rest : Bytes} (h : EndsNumeral rest) :
    Spells (utf8 (Decimal.ofInt i)) [.number (writtenNumeral i)] rest := by
  rw [utf8_ofInt_eq, writtenNumeral]
  by_cases hsign : i < 0
  · rw [if_pos hsign, decide_eq_true hsign]
    refine spells_of_nextToken (by decide) ?_
    simp only [List.cons_append, nextToken, readUnsigned_digitBytes true i.natAbs h, Option.map_some]
  · rw [if_neg hsign, decide_eq_false hsign]
    cases hbytes : digitBytes i.natAbs with
    | nil => exact absurd (List.map_eq_nil_iff.mp hbytes) (Decimal.digits_ne_nil _)
    | cons c bs =>
        have hdigit : isDigitByte c = true :=
          isDigitByte_of_mem (n := i.natAbs) (by rw [hbytes]; exact List.mem_cons_self)
        have hread := readUnsigned_digitBytes false i.natAbs h
        rw [hbytes, List.cons_append] at hread
        refine spells_of_nextToken (isBlankByte_of_digit hdigit) ?_
        rw [List.cons_append, nextToken_digit hdigit, hread, Option.map_some]

/-- A numeral is read as the integer that was written. -/
theorem number?_writtenNumeral (n : JsonInteger) : (writtenNumeral n.value).number? = some (.int n) := by
  have hlower := n.lower
  have hupper := n.upper
  have hmagnitude : n.value.natAbs < 0x10000000000000000 := by omega
  have hexact : exactInteger? (decide (n.value < 0)) n.value.natAbs = some n := by
    have hvalue : (if decide (n.value < 0) = true then -(n.value.natAbs : Int) else n.value.natAbs) =
        n.value := by
      split
      · rename_i hsign
        have := of_decide_eq_true hsign
        omega
      · rename_i hsign
        have := of_decide_eq_false (Bool.eq_false_iff.mpr hsign)
        omega
    have hzero : ¬ (decide (n.value < 0) = true ∧ n.value.natAbs = 0) := fun h => by
      have := of_decide_eq_true h.1
      omega
    simp only [exactInteger?, hvalue]
    rw [dif_pos ⟨hlower, hupper, hzero⟩]
  simp only [Numeral.number?, writtenNumeral, significand_digitNumbers hmagnitude, hexact]

end PaymentCredentials.Json
