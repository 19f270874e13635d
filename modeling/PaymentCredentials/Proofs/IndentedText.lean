import PaymentCredentials.Proofs.JsonText

/-!
Values read back from their indented text. Line ends and indentation stand between tokens only, so the
indented text of a value has the tokens of the text without blanks, and is read as that is.
-/
namespace PaymentCredentials.Json

theorem tokensFrom_blanks {blanks : Bytes} (h : ∀ b ∈ blanks, isBlankByte b = true) (fuel : Nat) (b : Bytes) :
    tokensFrom fuel (blanks ++ b) = tokensFrom fuel b := by
  cases fuel with
  | zero => rfl
  | succ fuel => rw [tokensFrom, tokensFrom, List.dropWhile_append_of_pos h]

/-- Blanks in front of tokens are passed over. -/
theorem Spells.behind_blanks {blanks text rest : Bytes} {ts : List Token} (h : Spells text ts rest)
    (hblanks : ∀ b ∈ blanks, isBlankByte b = true) : Spells (blanks ++ text) ts rest := by
  refine ⟨fun fuel => ?_, ?_⟩
  · rw [List.append_assoc, tokensFrom_blanks hblanks]
    exact h.tokens fuel
  · have hsize := h.size
    rw [List.length_append]
    omega

theorem blank_of_mem_newLine {level : Nat} {b : UInt8} (h : b ∈ newLine level) : isBlankByte b = true := by
  rcases List.mem_cons.mp h with rfl | h
  · rfl
  · rw [List.eq_of_mem_replicate h]
    rfl

theorem Spells.behind_newLine {text rest : Bytes} {ts : List Token} (h : Spells text ts rest) (level : Nat) :
    Spells (newLine level ++ text) ts rest :=
  h.behind_blanks fun _ => blank_of_mem_newLine

/-! ### Tokens of indented text -/

theorem endsNumeral_prettyItems (level : Nat) (items : List Json) (rest : Bytes) :
    EndsNumeral (prettyItems level items ++ rest) := by
  cases items with
  | nil => exact endsNumeral_cons (by decide) _
  | cons v items => exact endsNumeral_comma _

theorem endsNumeral_prettyMembers (level : Nat) (members : List (String × Json)) (rest : Bytes) :
    EndsNumeral (prettyMembers level members ++ rest) := by
  cases members with
  | nil => exact endsNumeral_cons (by decide) _
  | cons m members => exact endsNumeral_comma _

/-- A key with its colon and the blank behind it, in front of a value. -/
theorem Spells.behind_key {text rest : Bytes} {ts : List Token} (h : Spells text ts rest) (k : String) :
    Spells (quote k ++ 0x3A :: 0x20 :: text) (.string (writtenText k) :: .colon :: ts) rest := by
  have hbytes : quote k ++ 0x3A :: 0x20 :: text = quote k ++ [0x3A] ++ ([0x20] ++ text) := by
    simp only [List.append_assoc, List.cons_append, List.nil_append]
  rw [hbytes]
  exact (spells_key k _).append (h.behind_blanks fun b hb => by rw [List.mem_singleton.mp hb]; rfl)

mutual

theorem spells_pretty : ∀ {v : Json}, v.integral = true → ∀ (level : Nat) {rest : Bytes}, EndsNumeral rest →
    Spells (pretty level v) (spelled v) rest
  | .null, _, _, _, h => spells_compact (v := .null) h rfl
  | .bool b, _, _, _, h => spells_compact (v := .bool b) h rfl
  | .int n, _, _, _, h => spells_compact (v := .int n) h rfl
  | .text s, _, _, _, h => spells_compact (v := .text s) h rfl
  | .array [], _, _, rest, _ => (spells_openArray _).append (spells_closeArray rest)
  | .array (v :: items), hv, level, rest, _ => by
    have hv : (v.integral && integralItems items) = true := hv
    obtain ⟨hfirst, hitems⟩ := Bool.and_eq_true_iff.mp hv
    have hvalue := spells_pretty hfirst (level + 1) (endsNumeral_prettyItems level items rest)
    have hbehind := spells_prettyItems hitems level rest
    rw [pretty, spelled, spelledItems_eq, List.append_assoc, List.cons_append]
    exact (spells_openArray _).append ((hvalue.append hbehind).behind_newLine (level + 1))
  | .object [], _, _, rest, _ => (spells_openObject _).append (spells_closeObject rest)
  | .object ((k, v) :: members), hv, level, rest, _ => by
    have hv : (v.integral && integralMembers members) = true := hv
    obtain ⟨hfirst, hmembers⟩ := Bool.and_eq_true_iff.mp hv
    have hvalue := spells_pretty hfirst (level + 1) (endsNumeral_prettyMembers level members rest)
    have hbehind := spells_prettyMembers hmembers level rest
    rw [pretty, spelled, spelledMembers_eq]
    simp only [List.append_assoc, List.cons_append]
    exact (spells_openObject _).append (((hvalue.append hbehind).behind_key k).behind_newLine (level + 1))

theorem spells_prettyItems : ∀ {items : List Json}, integralItems items = true → ∀ (level : Nat) (rest : Bytes),
    Spells (prettyItems level items) (spelledMoreItems items) rest
  | [], _, level, rest => (spells_closeArray rest).behind_newLine level
  | v :: items, hv, level, rest => by
    obtain ⟨hfirst, hitems⟩ := Bool.and_eq_true_iff.mp hv
    have hvalue := spells_pretty hfirst (level + 1) (endsNumeral_prettyItems level items rest)
    have hbehind := spells_prettyItems hitems level rest
    rw [prettyItems, spelledMoreItems]
    simp only [List.append_assoc, List.cons_append]
    exact (spells_comma _).append ((hvalue.append hbehind).behind_newLine (level + 1))

theorem spells_prettyMembers : ∀ {members : List (String × Json)}, integralMembers members = true →
    ∀ (level : Nat) (rest : Bytes), Spells (prettyMembers level members) (spelledMoreMembers members) rest
  | [], _, level, rest => (spells_closeObject rest).behind_newLine level
  | (k, v) :: members, hv, level, rest => by
    obtain ⟨hfirst, hmembers⟩ := Bool.and_eq_true_iff.mp hv
    have hvalue := spells_pretty hfirst (level + 1) (endsNumeral_prettyMembers level members rest)
    have hbehind := spells_prettyMembers hmembers level rest
    rw [prettyMembers, spelledMoreMembers]
    simp only [List.append_assoc, List.cons_append]
    exact (spells_comma _).append (((hvalue.append hbehind).behind_key k).behind_newLine (level + 1))

end

/-- The indented text of a value has the tokens of its text without blanks. -/
theorem tokens_pretty {v : Json} (h : v.integral = true) (level : Nat) :
    tokens (v.pretty level) = tokens v.compact := by
  rw [tokens_compact h]
  exact tokens_of_spells (spells_pretty h level fun _ hx => by cases hx)

/-- A reader of the indented text of a value reads what it reads of the text without blanks. -/
theorem decode_pretty {α : Type} (read : Draft → Except Problem α) {v : Json} (h : v.integral = true)
    (level : Nat) : decode read (v.pretty level) = decode read v.compact := by
  have hdocument : Document.ofBytes (v.pretty level) = Document.ofBytes v.compact :=
    congrArg Document.ofTokens (tokens_pretty h level)
  rw [decode, decode, hdocument]

end PaymentCredentials.Json
