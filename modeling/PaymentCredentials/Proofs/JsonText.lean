import PaymentCredentials.Json.Ordered
import PaymentCredentials.Proofs.JsonTokens
import PaymentCredentials.Proofs.Results

/-!
Values read back from their text without blanks. The text spells the tokens of the value, these make its
draft, and the draft is read as the value, if that nests no deeper than its reader goes. Numbers other than
integers are left out.
-/
namespace PaymentCredentials.Json

mutual

/-- Whether all numbers in a value are integers. -/
def integral : Json → Bool
  | .float _ => false
  | .array items => integralItems items
  | .object members => integralMembers members
  | _ => true

/-- Whether all numbers in a list of values are integers. -/
def integralItems : List Json → Bool
  | [] => true
  | v :: rest => integral v && integralItems rest

/-- Whether all numbers in the values of members are integers. -/
def integralMembers : List (String × Json) → Bool
  | [] => true
  | (_, v) :: rest => integral v && integralMembers rest

end

mutual

/-- How many arrays and objects are around each other in a value. -/
def nesting : Json → Nat
  | .array items => nestingItems items + 1
  | .object members => nestingMembers members + 1
  | _ => 0

/-- The nesting of the deepest item. -/
def nestingItems : List Json → Nat
  | [] => 0
  | v :: rest => max (nesting v) (nestingItems rest)

/-- The nesting of the deepest member. -/
def nestingMembers : List (String × Json) → Nat
  | [] => 0
  | (_, v) :: rest => max (nesting v) (nestingMembers rest)

end

mutual

/-- The draft that is made of the text of a value. -/
def written : Json → Draft
  | .null => .null
  | .bool b => .bool b
  | .int n => .number (writtenNumeral n.value)
  | .float _ => .fault
  | .text s => .text (writtenText s)
  | .array items => .array (writtenItems items) true
  | .object members => .object (writtenMembers members) true

/-- The drafts of items. -/
def writtenItems : List Json → List Draft
  | [] => []
  | v :: rest => written v :: writtenItems rest

/-- The drafts of members. -/
def writtenMembers : List (String × Json) → List (RawText × Draft)
  | [] => []
  | (k, v) :: rest => (writtenText k, written v) :: writtenMembers rest

end

mutual

/-- The tokens of a value. -/
def spelled : Json → List Token
  | .null => [.null]
  | .bool b => [.bool b]
  | .int n => [.number (writtenNumeral n.value)]
  | .float _ => [.fault]
  | .text s => [.string (writtenText s)]
  | .array items => .openArray :: spelledItems items
  | .object members => .openObject :: spelledMembers members

/-- The tokens of items with commas between them, and the closing bracket. -/
def spelledItems : List Json → List Token
  | [] => [.closeArray]
  | [v] => spelled v ++ [.closeArray]
  | v :: w :: rest => spelled v ++ .comma :: spelledItems (w :: rest)

/-- The tokens of members with commas between them, and the closing brace. -/
def spelledMembers : List (String × Json) → List Token
  | [] => [.closeObject]
  | [(k, v)] => .string (writtenText k) :: .colon :: spelled v ++ [.closeObject]
  | (k, v) :: m :: rest =>
    .string (writtenText k) :: .colon :: spelled v ++ .comma :: spelledMembers (m :: rest)

end

/-! ### Tokens behind the first item -/

/-- The tokens of the items after the first one, and the closing bracket. -/
def spelledMoreItems : List Json → List Token
  | [] => [.closeArray]
  | v :: rest => .comma :: (spelled v ++ spelledMoreItems rest)

/-- The tokens of the members after the first one, and the closing brace. -/
def spelledMoreMembers : List (String × Json) → List Token
  | [] => [.closeObject]
  | (k, v) :: rest => .comma :: .string (writtenText k) :: .colon :: (spelled v ++ spelledMoreMembers rest)

theorem spelledItems_eq (v : Json) (items : List Json) :
    spelledItems (v :: items) = spelled v ++ spelledMoreItems items := by
  induction items generalizing v with
  | nil => rw [spelledItems, spelledMoreItems]
  | cons w items ih => rw [spelledItems, ih, spelledMoreItems]

theorem spelledMembers_eq (k : String) (v : Json) (members : List (String × Json)) :
    spelledMembers ((k, v) :: members) =
      .string (writtenText k) :: .colon :: (spelled v ++ spelledMoreMembers members) := by
  induction members generalizing k v with
  | nil => rw [spelledMembers, spelledMoreMembers, List.cons_append, List.cons_append]
  | cons m members ih =>
      obtain ⟨k', v'⟩ := m
      rw [spelledMembers, ih, spelledMoreMembers, List.cons_append, List.cons_append]

/-! ### Tokens -/

theorem endsNumeral_cons {x : UInt8} (h : isDigitByte x = false ∧ x ≠ 0x2E ∧ x ≠ 0x65 ∧ x ≠ 0x45)
    (rest : Bytes) : EndsNumeral (x :: rest) := fun _ hy => Option.some.inj hy ▸ h

theorem endsNumeral_comma (rest : Bytes) : EndsNumeral (0x2C :: rest) := endsNumeral_cons (by decide) rest

theorem endsNumeral_bracket (rest : Bytes) : EndsNumeral (0x5D :: rest) := endsNumeral_cons (by decide) rest

theorem endsNumeral_brace (rest : Bytes) : EndsNumeral (0x7D :: rest) := endsNumeral_cons (by decide) rest

theorem spells_comma (rest : Bytes) : Spells [0x2C] [.comma] rest :=
  spells_of_nextToken (by decide) rfl

theorem spells_closeArray (rest : Bytes) : Spells [0x5D] [.closeArray] rest :=
  spells_of_nextToken (by decide) rfl

theorem spells_closeObject (rest : Bytes) : Spells [0x7D] [.closeObject] rest :=
  spells_of_nextToken (by decide) rfl

theorem spells_openArray (rest : Bytes) : Spells [0x5B] [.openArray] rest :=
  spells_of_nextToken (by decide) rfl

theorem spells_openObject (rest : Bytes) : Spells [0x7B] [.openObject] rest :=
  spells_of_nextToken (by decide) rfl

/-- A key with its colon. -/
theorem spells_key (k : String) (rest : Bytes) :
    Spells (quote k ++ [0x3A]) [.string (writtenText k), .colon] rest :=
  (spells_quote k ([0x3A] ++ rest)).append (spells_of_nextToken (by decide) rfl)

mutual

theorem spells_compact {rest : Bytes} (h : EndsNumeral rest) : ∀ {v : Json}, v.integral = true →
    Spells v.compact (spelled v) rest
  | .null, _ => spells_of_nextToken (by decide) rfl
  | .bool true, _ => spells_of_nextToken (by decide) rfl
  | .bool false, _ => spells_of_nextToken (by decide) rfl
  | .int n, _ => spells_int n.value h
  | .text s, _ => spells_quote s rest
  | .array items, hv => (spells_openArray _).append (spells_compactItems rest hv)
  | .object members, hv => (spells_openObject _).append (spells_compactMembers rest hv)

theorem spells_compactItems (rest : Bytes) : ∀ {items : List Json}, integralItems items = true →
    Spells (compactItems items) (spelledItems items) rest
  | [], _ => spells_closeArray rest
  | [_], hv =>
    (spells_compact (endsNumeral_bracket rest) (Bool.and_eq_true_iff.mp hv).1).append
      (spells_closeArray rest)
  | _ :: _ :: _, hv =>
    (spells_compact (endsNumeral_comma _) (Bool.and_eq_true_iff.mp hv).1).append
      ((spells_comma _).append (spells_compactItems rest (Bool.and_eq_true_iff.mp hv).2))

theorem spells_compactMembers (rest : Bytes) : ∀ {members : List (String × Json)},
    integralMembers members = true → Spells (compactMembers members) (spelledMembers members) rest
  | [], _ => spells_closeObject rest
  | [(k, v)], hv => by
    have hbytes : compactMembers [(k, v)] = quote k ++ [0x3A] ++ (compact v ++ [0x7D]) := by
      simp only [compactMembers, List.append_assoc, List.cons_append, List.nil_append]
    rw [hbytes]
    exact (spells_key k _).append
      ((spells_compact (endsNumeral_brace rest) (Bool.and_eq_true_iff.mp hv).1).append
        (spells_closeObject rest))
  | (k, v) :: m :: members, hv => by
    have hbytes : compactMembers ((k, v) :: m :: members) =
        quote k ++ [0x3A] ++ (compact v ++ ([0x2C] ++ compactMembers (m :: members))) := by
      simp only [compactMembers, List.append_assoc, List.cons_append, List.nil_append]
    rw [hbytes]
    exact (spells_key k _).append
      ((spells_compact (endsNumeral_comma _) (Bool.and_eq_true_iff.mp hv).1).append
        ((spells_comma _).append (spells_compactMembers rest (Bool.and_eq_true_iff.mp hv).2)))

end

theorem tokens_compact {v : Json} (h : v.integral = true) : tokens v.compact = spelled v :=
  tokens_of_spells (spells_compact (fun _ hx => by cases hx) h)

/-! ### Drafts -/

theorem head_spelled (v : Json) : ∃ t ts, spelled v = t :: ts ∧ t ≠ .closeArray := by
  cases v with
  | null => exact ⟨_, _, rfl, by decide⟩
  | bool b => exact ⟨_, _, rfl, Token.noConfusion⟩
  | int n => exact ⟨_, _, rfl, Token.noConfusion⟩
  | float x => exact ⟨_, _, rfl, by decide⟩
  | text s => exact ⟨_, _, rfl, Token.noConfusion⟩
  | array items => exact ⟨_, _, rfl, by decide⟩
  | object members => exact ⟨_, _, rfl, by decide⟩

/-- The first item of an array is read as any other. -/
theorem foldl_firstItem (v : Json) (rest : List Token) (around : List Frame) :
    (spelled v ++ rest).foldl Reading.step (.firstItem around) =
      (spelled v ++ rest).foldl Reading.step (.value (.array [] :: around)) := by
  obtain ⟨t, ts, hspelled, hne⟩ := head_spelled v
  have hstep : Reading.step (.firstItem around) t = Reading.step (.value (.array [] :: around)) t := by
    cases t with
    | closeArray => exact absurd rfl hne
    | _ => rfl
  rw [hspelled, List.cons_append, List.foldl_cons, List.foldl_cons, hstep]

mutual

theorem read_spelled : ∀ {v : Json}, v.integral = true → ∀ around : List Frame,
    (spelled v).foldl Reading.step (.value around) = .after (written v) around
  | .null, _, _ => rfl
  | .bool _, _, _ => rfl
  | .int _, _, _ => rfl
  | .text _, _, _ => rfl
  | .array [], _, _ => rfl
  | .array (v :: items), hv, around => by
    have hintegral : integralItems (v :: items) = true := hv
    have hitems := read_spelledItems hintegral (List.cons_ne_nil _ _) [] around
    rw [spelledItems_eq, ← foldl_firstItem, ← spelledItems_eq] at hitems
    exact hitems
  | .object _, hv, around => read_spelledMembers hv true [] (Or.inl rfl) around

theorem read_spelledItems : ∀ {items : List Json}, integralItems items = true → items ≠ [] →
    ∀ (before : List Draft) (around : List Frame),
    (spelledItems items).foldl Reading.step (.value (.array before :: around)) =
      .after (.array (before.reverse ++ writtenItems items) true) around
  | [], _, hne, _, _ => absurd rfl hne
  | [v], hv, _, before, around => by
    have hread := read_spelled (Bool.and_eq_true_iff.mp hv).1 (.array before :: around)
    rw [spelledItems, List.foldl_append, hread, writtenItems, writtenItems, ← List.reverse_cons]
    rfl
  | v :: w :: items, hv, _, before, around => by
    have hread := read_spelled (Bool.and_eq_true_iff.mp hv).1 (.array before :: around)
    have hrest := read_spelledItems (Bool.and_eq_true_iff.mp hv).2 (List.cons_ne_nil _ _)
      (written v :: before) around
    rw [List.reverse_cons, List.append_assoc] at hrest
    rw [spelledItems, List.foldl_append, hread, List.foldl_cons]
    exact hrest

theorem read_spelledMembers : ∀ {members : List (String × Json)}, integralMembers members = true →
    ∀ (first : Bool) (before : List (RawText × Draft)), first = true ∨ members ≠ [] →
    ∀ around : List Frame,
    (spelledMembers members).foldl Reading.step (.member first before around) =
      .after (.object (before.reverse ++ writtenMembers members) true) around
  | [], _, first, before, hfirst, around => by
    obtain rfl := hfirst.resolve_right fun h => h rfl
    rw [writtenMembers, List.append_nil]
    rfl
  | [(k, v)], hv, first, before, _, around => by
    have hread := read_spelled (Bool.and_eq_true_iff.mp hv).1 (.object before (writtenText k) :: around)
    rw [writtenMembers, writtenMembers, ← List.reverse_cons]
    simp only [spelledMembers, List.cons_append, List.foldl_cons, List.foldl_append]
    cases first <;> exact (congrArg (Reading.step · .closeObject) hread)
  | (k, v) :: m :: members, hv, first, before, _, around => by
    have hread := read_spelled (Bool.and_eq_true_iff.mp hv).1 (.object before (writtenText k) :: around)
    have hrest := read_spelledMembers (Bool.and_eq_true_iff.mp hv).2 false
      ((writtenText k, written v) :: before) (Or.inr (List.cons_ne_nil _ _)) around
    rw [List.reverse_cons, List.append_assoc] at hrest
    simp only [spelledMembers, List.cons_append, List.foldl_cons, List.foldl_append]
    have hcolon : Reading.step (Reading.step (.member first before around) (.string (writtenText k)))
        .colon = .value (.object before (writtenText k) :: around) := by
      cases first <;> rfl
    rw [hcolon, hread]
    exact hrest

end

/-- The text of a value is a document that is over with it. -/
theorem ofBytes_compact {v : Json} (h : v.integral = true) :
    Document.ofBytes v.compact = ⟨written v, false⟩ := by
  rw [Document.ofBytes, Document.ofTokens, tokens_compact h, read_spelled h]
  rfl

/-- A reader of the text of a value reads the draft of the value. -/
theorem decode_compact {α : Type} (read : Draft → Except Problem α) {v : Json} (h : v.integral = true) :
    decode read v.compact = read (written v) := by
  unfold decode
  rw [ofBytes_compact h]
  simp only [Bool.false_eq_true, if_false, bind_pure]

/-! ### Values -/

theorem insertMember_append {key : String} {value : Json} {members : List (String × Json)}
    (h : ∀ m ∈ members, textLe m.1 key = true ∧ m.1 ≠ key) :
    insertMember key value members = members ++ [(key, value)] := by
  induction members with
  | nil => rfl
  | cons m members ih =>
      obtain ⟨hle, hne⟩ := h m List.mem_cons_self
      have hnot : ¬ textLe key m.1 = true := fun hge => hne (textLe_antisymm hle hge)
      rw [insertMember, if_neg hne, if_neg hnot, ih fun m hm => h m (List.mem_cons_of_mem _ hm),
        List.cons_append]

mutual

/-- The draft of a value in order is read as the value if it nests no deeper than its reader goes. -/
theorem toJson_written : ∀ {v : Json}, v.integral = true → v.Ordered → ∀ depth : Nat,
    (written v).toJson depth = if v.nesting ≤ depth then .ok v else .error .malformed
  | .null, _, _, _ => rfl
  | .bool _, _, _, _ => rfl
  | .int n, _, _, _ => by
    simp only [written, Draft.toJson, number?_writtenNumeral, nesting, Nat.zero_le, if_true]
  | .text s, _, _, _ => by
    simp only [written, Draft.toJson, text?_writtenText, nesting, Nat.zero_le, if_true]
  | .array items, hv, ho, depth => by
    have hintegral : integralItems items = true := hv
    have hitems := toJsonItems_written hintegral ho (depth - 1)
    rw [written, Draft.toJson, hitems, nesting]
    by_cases hdepth : depth = 0
    · have hdeep : ¬ nestingItems items + 1 ≤ depth := by omega
      rw [if_pos hdepth, if_neg hdeep]
      rfl
    rw [if_neg hdepth]
    by_cases hnesting : nestingItems items ≤ depth - 1
    · rw [if_pos hnesting, if_pos (by omega)]
      rfl
    · rw [if_neg hnesting, if_neg (by omega)]
      rfl
  | .object members, hv, ho, depth => by
    have hintegral : integralMembers members = true := hv
    have hmembers := toJsonMembers_written hintegral ho (depth - 1) [] fun _ he =>
      absurd he List.not_mem_nil
    rw [written, Draft.toJson, hmembers, nesting]
    by_cases hdepth : depth = 0
    · have hdeep : ¬ nestingMembers members + 1 ≤ depth := by omega
      rw [if_pos hdepth, if_neg hdeep]
      rfl
    rw [if_neg hdepth]
    by_cases hnesting : nestingMembers members ≤ depth - 1
    · rw [if_pos hnesting, if_pos (by omega)]
      rfl
    · rw [if_neg hnesting, if_neg (by omega)]
      rfl

theorem toJsonItems_written : ∀ {items : List Json}, integralItems items = true → OrderedItems items →
    ∀ depth : Nat, Draft.toJsonItems depth (writtenItems items) =
      if nestingItems items ≤ depth then .ok items else .error .malformed
  | [], _, _, _ => rfl
  | v :: items, hv, ho, depth => by
    have hvalue := toJson_written (Bool.and_eq_true_iff.mp hv).1 ho.1 depth
    have hitems := toJsonItems_written (Bool.and_eq_true_iff.mp hv).2 ho.2 depth
    rw [writtenItems, Draft.toJsonItems, hvalue, hitems, nestingItems]
    by_cases hnesting : v.nesting ≤ depth
    · rw [if_pos hnesting]
      by_cases hrest : nestingItems items ≤ depth
      · rw [if_pos hrest, if_pos (Nat.max_le.mpr ⟨hnesting, hrest⟩)]
        rfl
      · rw [if_neg hrest, if_neg fun h => hrest (Nat.max_le.mp h).2]
        rfl
    · rw [if_neg hnesting, if_neg fun h => hnesting (Nat.max_le.mp h).1]
      rfl

theorem toJsonMembers_written : ∀ {members : List (String × Json)}, integralMembers members = true →
    OrderedMembers members → ∀ (depth : Nat) (before : List (String × Json)),
    (∀ e ∈ before, ∀ m ∈ members, textLe e.1 m.1 = true ∧ e.1 ≠ m.1) →
    Draft.toJsonMembers depth (writtenMembers members) before =
      if nestingMembers members ≤ depth then .ok (before ++ members) else .error .malformed
  | [], _, _, _, before, _ => by
    rw [writtenMembers, Draft.toJsonMembers, nestingMembers, if_pos (Nat.zero_le _), List.append_nil]
  | (k, v) :: members, hv, ho, depth, before, hbefore => by
    obtain ⟨hordered, hbehind, hrest⟩ := ho
    have hvalue := toJson_written (Bool.and_eq_true_iff.mp hv).1 hordered depth
    have hinsert : insertMember k v before = before ++ [(k, v)] :=
      insertMember_append fun e he => hbefore e he (k, v) List.mem_cons_self
    have hmembers := toJsonMembers_written (Bool.and_eq_true_iff.mp hv).2 hrest depth
      (before ++ [(k, v)]) (by
        intro e he m hm
        rcases List.mem_append.mp he with he | he
        · exact hbefore e he m (List.mem_cons_of_mem _ hm)
        · rw [List.mem_singleton.mp he]
          exact hbehind m hm)
    rw [List.append_assoc, List.singleton_append] at hmembers
    rw [writtenMembers, Draft.toJsonMembers, text?_writtenText, nestingMembers]
    simp only [hvalue]
    by_cases hnesting : v.nesting ≤ depth
    · rw [if_pos hnesting]
      refine (bind_of_ok rfl _).trans ?_
      rw [hinsert, hmembers]
      by_cases hmore : nestingMembers members ≤ depth
      · rw [if_pos hmore, if_pos (Nat.max_le.mpr ⟨hnesting, hmore⟩)]
      · rw [if_neg hmore, if_neg fun h => hmore (Nat.max_le.mp h).2]
    · rw [if_neg hnesting, if_neg fun h => hnesting (Nat.max_le.mp h).1]
      rfl

end

end PaymentCredentials.Json
