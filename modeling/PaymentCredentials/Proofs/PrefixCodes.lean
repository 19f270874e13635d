import Mathlib.Data.List.GetD
import PaymentCredentials.Proofs.WrittenBits

/-!
Canonical prefix codes are read back. The codewords up to some length take up a share of the numbers of that
length, and longer codewords begin behind it; so no codeword begins another one, and the tree of a code leads to
each symbol along its codeword.
-/
namespace PaymentCredentials.Deflate

/-! ### Shares -/

/-- How many of the numbers with `width` bits begin with one codeword of the given length. -/
def share (width length : Nat) : Nat :=
  if 0 < length ∧ length ≤ width then 2 ^ (width - length) else 0

/-- How many of the numbers with `width` bits begin with a codeword. -/
def taken (lengths : List Nat) (width : Nat) : Nat := (lengths.map (share width)).sum

@[simp] theorem taken_cons (length : Nat) (lengths : List Nat) (width : Nat) :
    taken (length :: lengths) width = share width length + taken lengths width := by
  simp only [taken, List.map_cons, List.sum_cons]

theorem share_succ (width length : Nat) :
    share (width + 1) length = 2 * share width length + if length = width + 1 then 1 else 0 := by
  unfold share
  by_cases hshort : 0 < length ∧ length ≤ width
  · rw [if_pos hshort, if_pos (by omega), if_neg (by omega), Nat.succ_sub hshort.2, Nat.pow_succ, Nat.mul_comm,
      Nat.add_zero]
  · by_cases heq : length = width + 1
    · subst heq
      rw [if_pos (by omega), if_neg hshort, if_pos rfl, Nat.sub_self, Nat.pow_zero]
    · rw [if_neg (by omega), if_neg hshort, if_neg heq]

theorem taken_zero (lengths : List Nat) : taken lengths 0 = 0 := by
  induction lengths with
  | nil => rfl
  | cons length lengths ih => rw [taken_cons, ih, share, if_neg (by omega)]

theorem taken_succ (lengths : List Nat) (width : Nat) :
    taken lengths (width + 1) = 2 * taken lengths width + lengths.count (width + 1) := by
  induction lengths with
  | nil => rfl
  | cons length lengths ih =>
      rw [taken_cons, taken_cons, ih, share_succ, List.count_cons]
      simp only [beq_iff_eq]
      omega

/-- What is taken stays taken among longer numbers. -/
theorem taken_mul_le (lengths : List Nat) (width more : Nat) :
    taken lengths width * 2 ^ more ≤ taken lengths (width + more) := by
  induction more with
  | zero => exact Nat.le_of_eq (Nat.mul_one _)
  | succ more ih =>
      rw [← Nat.add_assoc, taken_succ, Nat.pow_succ, ← Nat.mul_assoc]
      omega

theorem taken_append_zeros (lengths : List Nat) (k width : Nat) :
    taken (lengths ++ List.replicate k 0) width = taken lengths width := by
  have hzeros : taken (List.replicate k 0) width = 0 := by
    rw [taken, List.map_replicate, List.sum_replicate_nat, share, if_neg (by omega), Nat.mul_zero]
  rw [taken, List.map_append, List.sum_append, ← taken, ← taken, hzeros, Nat.add_zero]

theorem weight_eq_taken {lengths : List Nat} (h : ∀ l ∈ lengths, l ≤ maxCodeLength) :
    Code.weight lengths = taken lengths maxCodeLength := by
  have hfold : ∀ (rest : List Nat) (n : Nat), (∀ l ∈ rest, l ≤ maxCodeLength) →
      rest.foldl (fun n l => if l = 0 then n else n + (1 <<< (maxCodeLength - l))) n =
        n + taken rest maxCodeLength := by
    intro rest
    induction rest with
    | nil => exact fun _ _ => rfl
    | cons l rest ih =>
        intro n hrest
        have hl := hrest l List.mem_cons_self
        rw [List.foldl_cons, ih _ fun l hl => hrest l (List.mem_cons_of_mem _ hl), taken_cons, share,
          Nat.one_shiftLeft]
        split
        · rw [if_neg (by omega), Nat.zero_add]
        · rw [if_pos (by omega), Nat.add_assoc]
  rw [Code.weight, hfold lengths 0 h, Nat.zero_add]

/-- Lengths of the codewords of a code: they are short enough, there is room for all of them, and with more than one
of them no room is left. -/
structure Code.Tight (lengths : List Nat) : Prop where
  le_max : ∀ l ∈ lengths, l ≤ maxCodeLength
  room : taken lengths maxCodeLength ≤ 2 ^ maxCodeLength
  full : 1 < (lengths.filter (· ≠ 0)).length → taken lengths maxCodeLength = 2 ^ maxCodeLength

/-- Zeros at the end make no difference. -/
theorem Code.Tight.of_append_zeros {lengths : List Nat} {k : Nat} (h : Tight (lengths ++ List.replicate k 0)) :
    Tight lengths := by
  refine ⟨fun l hl => h.le_max l (List.mem_append_left _ hl), ?_, fun hused => ?_⟩
  · rw [← taken_append_zeros lengths k]
    exact h.room
  · rw [← taken_append_zeros lengths k]
    refine h.full ?_
    rw [List.filter_append, List.length_append]
    exact Nat.lt_add_right _ hused

/-! ### Numbers -/

/-- The first codeword of a length, as a number. -/
def firstCode (lengths : List Nat) (length : Nat) : Nat := 2 * taken lengths (length - 1)

theorem firstCode_add_count (lengths : List Nat) {length : Nat} (h : 0 < length) :
    firstCode lengths length + lengths.count length = taken lengths length := by
  obtain ⟨width, rfl⟩ : ∃ width, length = width + 1 := ⟨length - 1, by omega⟩
  rw [taken_succ, firstCode, Nat.add_sub_cancel]

theorem firstCodes_eq (lengths : List Nat) :
    firstCodes lengths = (List.range' 1 maxCodeLength).map (firstCode lengths) := by
  have hfold : ∀ n, (List.range' 1 n).foldl (fun (acc : Nat × List Nat) length =>
      (2 * (acc.1 + if length = 1 then 0 else countOfLength lengths (length - 1)),
        2 * (acc.1 + if length = 1 then 0 else countOfLength lengths (length - 1)) :: acc.2)) (0, []) =
      (firstCode lengths n, ((List.range' 1 n).map (firstCode lengths)).reverse) := by
    intro n
    induction n with
    | zero => rw [firstCode, taken_zero]; rfl
    | succ n ih =>
        have hnumber : firstCode lengths n + (if 1 + n = 1 then 0 else countOfLength lengths (1 + n - 1)) =
            taken lengths n := by
          rw [Nat.add_sub_cancel_left, countOfLength]
          cases n with
          | zero => rw [firstCode, taken_zero, if_pos rfl]
          | succ n => rw [if_neg (by omega), firstCode_add_count lengths (Nat.succ_pos n)]
        have hnext : firstCode lengths (1 + n) = 2 * taken lengths n := by rw [firstCode, Nat.add_sub_cancel_left]
        rw [List.range'_1_concat, List.foldl_append, ih, List.map_append, List.reverse_append, List.foldl_cons,
          List.foldl_nil, List.map_singleton, hnext, Nat.add_comm n 1, hnext]
        simp only [hnumber]
        rfl
  rw [firstCodes]
  simp only [hfold, List.reverse_reverse]

/-- The codeword of a symbol, as a number. -/
def numberAt (lengths : List Nat) (symbol : Nat) : Nat :=
  firstCode lengths (lengths.getD symbol 0) + (lengths.take symbol).count (lengths.getD symbol 0)

/-- The codeword of a symbol. -/
def wordAt (lengths : List Nat) (symbol : Nat) : List Bool :=
  if lengths.getD symbol 0 = 0 then [] else codeword (lengths.getD symbol 0) (numberAt lengths symbol)

theorem take_succ_getD {lengths : List Nat} {n : Nat} (h : n < lengths.length) :
    lengths.take (n + 1) = lengths.take n ++ [lengths.getD n 0] := by
  rw [List.take_add_one, List.getD_eq_getElem?_getD, List.getElem?_eq_getElem h]
  rfl

theorem getD_set (list : List Nat) (i v j : Nat) :
    (list.set i v).getD j 0 = if i = j ∧ i < list.length then v else list.getD j 0 := by
  rw [List.getD_eq_getElem?_getD, List.getElem?_set, List.getD_eq_getElem?_getD]
  by_cases hi : i = j
  · subst hi
    by_cases hlength : i < list.length
    · rw [if_pos rfl, if_pos hlength, if_pos ⟨rfl, hlength⟩]
      rfl
    · rw [if_pos rfl, if_neg hlength, if_neg fun h => hlength h.2, List.getElem?_eq_none (Nat.le_of_not_lt hlength)]
  · rw [if_neg hi, if_neg fun h => hi h.1]

/-- The next codeword, with the counters behind it. -/
def addWord (acc : List Nat × List (List Bool)) (length : Nat) : List Nat × List (List Bool) :=
  if length = 0 then (acc.1, [] :: acc.2)
  else
    (acc.1.set (length - 1) (acc.1.getD (length - 1) 0 + 1), codeword length (acc.1.getD (length - 1) 0) :: acc.2)

theorem codewords_eq_foldl (lengths : List Nat) :
    codewords lengths = (lengths.foldl addWord (firstCodes lengths, [])).2.reverse := rfl

/-- Where the codewords of the first symbols have been written, newest first, the counter of each length tells the
next number of that length. -/
structure Counted (lengths : List Nat) (n : Nat) (acc : List Nat × List (List Bool)) : Prop where
  words : acc.2 = ((List.range n).map (wordAt lengths)).reverse
  length_eq : acc.1.length = maxCodeLength
  counter : ∀ l, 0 < l → l ≤ maxCodeLength →
    acc.1.getD (l - 1) 0 = firstCode lengths l + (lengths.take n).count l

theorem counted_firstCodes (lengths : List Nat) : Counted lengths 0 (firstCodes lengths, []) := by
  refine ⟨rfl, by rw [firstCodes_eq, List.length_map, List.length_range'], fun l hpos hmax => ?_⟩
  rw [firstCodes_eq, List.getD_eq_getElem?_getD, List.getElem?_map, List.getElem?_range' (by omega)]
  simp only [Option.map_some, Option.getD_some, List.take_zero, List.count_nil]
  congr 1
  omega

theorem Counted.addWord {lengths : List Nat} {n : Nat} {acc : List Nat × List (List Bool)}
    (h : Counted lengths n acc) (hn : n < lengths.length) (hmax : lengths.getD n 0 ≤ maxCodeLength) :
    Counted lengths (n + 1) (addWord acc (lengths.getD n 0)) := by
  obtain ⟨counters, words⟩ := acc
  obtain ⟨rfl, hlength, hcounter⟩ := h
  dsimp only at hlength hcounter
  have hwords : ((List.range (n + 1)).map (wordAt lengths)).reverse =
      wordAt lengths n :: ((List.range n).map (wordAt lengths)).reverse := by
    rw [List.range_succ, List.map_append, List.reverse_append]
    rfl
  have hcount : ∀ l, (lengths.take (n + 1)).count l =
      (lengths.take n).count l + if lengths.getD n 0 = l then 1 else 0 := by
    intro l
    rw [take_succ_getD hn, List.count_append, List.count_singleton]
    simp only [beq_iff_eq]
  rw [Deflate.addWord]
  by_cases hzero : lengths.getD n 0 = 0
  · rw [if_pos hzero]
    refine ⟨?_, hlength, fun l hpos hl => ?_⟩
    · rw [hwords, wordAt, if_pos hzero]
    · rw [hcounter l hpos hl, hcount, if_neg (by omega), Nat.add_zero]
  · have hnumber : counters.getD (lengths.getD n 0 - 1) 0 = numberAt lengths n :=
      hcounter _ (Nat.pos_of_ne_zero hzero) hmax
    rw [if_neg hzero]
    refine ⟨?_, by rw [List.length_set, hlength], fun l hpos hl => ?_⟩
    · rw [hwords, wordAt, if_neg hzero, hnumber]
    · dsimp only
      rw [hcount, ← Nat.add_assoc, ← hcounter l hpos hl, getD_set]
      by_cases heq : lengths.getD n 0 = l
      · rw [if_pos heq, heq, if_pos ⟨rfl, by omega⟩]
      · rw [if_neg heq, if_neg (by omega), Nat.add_zero]

theorem codewords_eq {lengths : List Nat} (h : ∀ l ∈ lengths, l ≤ maxCodeLength) :
    codewords lengths = (List.range lengths.length).map (wordAt lengths) := by
  have hcounted : ∀ n ≤ lengths.length,
      Counted lengths n ((lengths.take n).foldl Deflate.addWord (firstCodes lengths, [])) := by
    intro n hn
    induction n with
    | zero => exact counted_firstCodes lengths
    | succ n ih =>
        have hmem : lengths.getD n 0 ∈ lengths := by
          rw [List.getD_eq_getElem _ _ hn]
          exact List.getElem_mem hn
        rw [take_succ_getD hn, List.foldl_append, List.foldl_cons, List.foldl_nil]
        exact (ih (Nat.le_of_succ_le hn)).addWord hn (h _ hmem)
  have hall := (hcounted lengths.length (Nat.le_refl _)).words
  rw [List.take_length] at hall
  rw [codewords_eq_foldl, hall, List.reverse_reverse]

/-! ### No codeword begins another one -/

theorem drop_bitsOfNat (k count n : Nat) : (bitsOfNat (k + count) n).drop k = bitsOfNat count (n / 2 ^ k) := by
  induction k generalizing n with
  | zero => rw [Nat.zero_add, List.drop_zero, Nat.pow_zero, Nat.div_one]
  | succ k ih =>
      rw [Nat.succ_add, bitsOfNat, List.drop_succ_cons, ih, Nat.pow_succ, Nat.mul_comm, Nat.div_div_eq_div_mul]

theorem natOfBits_bitsOfNat {count n : Nat} (h : n < 2 ^ count) : natOfBits (bitsOfNat count n) = n := by
  induction count generalizing n with
  | zero =>
      obtain rfl : n = 0 := by omega
      rfl
  | succ count ih => rw [bitsOfNat, natOfBits, ih (by rw [Nat.pow_succ] at h; omega), Bits.bit_add_double]

/-- The numbers that begin with a number. -/
theorem div_eq_of_begins {l l' n n' : Nat} (hn : n < 2 ^ l) (hn' : n' < 2 ^ l')
    (h : codeword l n <+: codeword l' n') : l ≤ l' ∧ n' / 2 ^ (l' - l) = n := by
  have hsuffix : bitsOfNat l n <:+ bitsOfNat l' n' := List.reverse_prefix.mp h
  have hle : l ≤ l' := by simpa only [length_bitsOfNat] using hsuffix.length_le
  obtain ⟨more, rfl⟩ : ∃ more, l' = more + l := ⟨l' - l, by omega⟩
  have hdrop := List.suffix_iff_eq_drop.mp hsuffix
  rw [length_bitsOfNat, length_bitsOfNat, Nat.add_sub_cancel, drop_bitsOfNat] at hdrop
  have hdiv : n' / 2 ^ more < 2 ^ l := by
    rw [Nat.div_lt_iff_lt_mul (Nat.two_pow_pos more), ← Nat.pow_add, Nat.add_comm]
    exact hn'
  rw [Nat.add_sub_cancel]
  exact ⟨hle, by rw [← natOfBits_bitsOfNat hdiv, ← hdrop, natOfBits_bitsOfNat hn]⟩

section

variable {lengths : List Nat} {i j : Nat}

theorem count_take_lt (hij : i < j) (hi : i < lengths.length) :
    (lengths.take i).count (lengths.getD i 0) < (lengths.take j).count (lengths.getD i 0) := by
  have hsub : (lengths.take (i + 1)).Sublist (lengths.take j) := (List.take_prefix_take_left hij).sublist
  have hcount := hsub.count_le (lengths.getD i 0)
  rw [take_succ_getD hi, List.count_append, List.count_singleton_self] at hcount
  exact hcount

theorem lt_length_of_getD_ne (h : lengths.getD i 0 ≠ 0) : i < lengths.length := by
  refine Nat.lt_of_not_le fun hle => h ?_
  rw [List.getD_eq_getElem?_getD, List.getElem?_eq_none hle]
  rfl

/-- The codewords of a length are among the numbers that shorter ones leave. -/
theorem numberAt_lt (h : lengths.getD i 0 ≠ 0) : numberAt lengths i < taken lengths (lengths.getD i 0) := by
  have hi := lt_length_of_getD_ne h
  have hcount := count_take_lt hi hi
  rw [List.take_length] at hcount
  rw [← firstCode_add_count lengths (Nat.pos_of_ne_zero h), numberAt]
  omega

theorem Code.Tight.taken_le (h : Tight lengths) {l : Nat} (hl : l ≤ maxCodeLength) : taken lengths l ≤ 2 ^ l := by
  have hmore := taken_mul_le lengths l (maxCodeLength - l)
  have hpow : 2 ^ l * 2 ^ (maxCodeLength - l) = 2 ^ maxCodeLength := by rw [← Nat.pow_add, Nat.add_sub_of_le hl]
  rw [Nat.add_sub_of_le hl] at hmore
  refine Nat.le_of_mul_le_mul_right ?_ (Nat.two_pow_pos (maxCodeLength - l))
  rw [hpow]
  exact Nat.le_trans hmore h.room

theorem getD_le_of_forall_le {greatest : Nat} (h : ∀ l ∈ lengths, l ≤ greatest) (i : Nat) :
    lengths.getD i 0 ≤ greatest := by
  by_cases hi : i < lengths.length
  · rw [List.getD_eq_getElem _ _ hi]
    exact h _ (List.getElem_mem hi)
  · rw [List.getD_eq_getElem?_getD, List.getElem?_eq_none (Nat.le_of_not_lt hi)]
    exact Nat.zero_le _

/-- Longer codewords begin behind the numbers that shorter ones take. -/
theorem lt_div_of_length_lt (hi : lengths.getD i 0 ≠ 0) (hij : lengths.getD i 0 < lengths.getD j 0) :
    numberAt lengths i < numberAt lengths j / 2 ^ (lengths.getD j 0 - lengths.getD i 0) := by
  have hnumber := numberAt_lt hi
  have hfirst : firstCode lengths (lengths.getD j 0) ≤ numberAt lengths j := Nat.le_add_right _ _
  generalize lengths.getD i 0 = l at *
  generalize lengths.getD j 0 = l' at *
  obtain ⟨more, rfl⟩ : ∃ more, l' = l + more + 1 := ⟨l' - l - 1, by omega⟩
  have htaken := taken_mul_le lengths l more
  rw [firstCode, Nat.add_sub_cancel] at hfirst
  rw [show l + more + 1 - l = more + 1 by omega]
  refine (Nat.le_div_iff_mul_le (Nat.two_pow_pos _)).mpr (Nat.le_trans ?_ hfirst)
  have hmul : (numberAt lengths i + 1) * 2 ^ more ≤ taken lengths l * 2 ^ more := Nat.mul_le_mul_right _ hnumber
  rw [Nat.succ_eq_add_one, Nat.pow_succ, ← Nat.mul_assoc]
  omega

/-- **No codeword begins another one.** -/
theorem Code.Tight.apart (h : Tight lengths) (hi : lengths.getD i 0 ≠ 0) (hj : lengths.getD j 0 ≠ 0)
    (hne : i ≠ j) : ¬ wordAt lengths i <+: wordAt lengths j := by
  have hbound : ∀ {k}, lengths.getD k 0 ≠ 0 → numberAt lengths k < 2 ^ lengths.getD k 0 := fun hk =>
    Nat.lt_of_lt_of_le (numberAt_lt hk) (h.taken_le (getD_le_of_forall_le h.le_max _))
  rw [wordAt, if_neg hi, wordAt, if_neg hj]
  intro hprefix
  obtain ⟨hle, hdiv⟩ := div_eq_of_begins (hbound hi) (hbound hj) hprefix
  rcases Nat.lt_or_eq_of_le hle with hlt | heq
  · exact Nat.ne_of_lt (lt_div_of_length_lt hi hlt) hdiv.symm
  · rw [heq, Nat.sub_self, Nat.pow_zero, Nat.div_one, numberAt, numberAt, heq, Nat.add_left_cancel_iff] at hdiv
    rcases Nat.lt_or_gt_of_ne hne with hij | hij
    · have hcount := count_take_lt hij (lt_length_of_getD_ne hi)
      rw [heq] at hcount
      omega
    · have hcount := count_take_lt hij (lt_length_of_getD_ne hj)
      omega

end

/-! ### Trees -/

namespace Code

/-- From the root of a code a word leads to a symbol. -/
inductive Leads : Code → List Bool → Nat → Prop
  | leaf (symbol : Nat) : Leads (.leaf symbol) [] symbol
  | zero {z o : Code} {word : List Bool} {symbol : Nat} (rest : Leads z word symbol) :
      Leads (.fork z o) (false :: word) symbol
  | one {z o : Code} {word : List Bool} {symbol : Nat} (rest : Leads o word symbol) :
      Leads (.fork z o) (true :: word) symbol

theorem Leads.reads {code : Code} {word : List Bool} {symbol : Nat} (h : Leads code word symbol) :
    Reads Prod.mk code.read word symbol := by
  induction h with
  | leaf symbol => exact reads_pure Prod.mk symbol
  | zero rest ih | one rest ih =>
      intro s begun bits hs
      obtain ⟨s₁, hnext, h₁⟩ := Bits.Stands.next? hs
      obtain ⟨s', hread, h'⟩ := ih h₁
      refine ⟨s', ?_, h'.of_mod (by rw [List.length_cons]; omega)⟩
      rw [read, hnext]
      exact hread

theorem leads_insert (symbol : Nat) (word : List Bool) (code : Code) :
    Leads (code.insert symbol word) word symbol := by
  induction word generalizing code with
  | nil => exact .leaf symbol
  | cons b word ih =>
      cases b <;> cases code <;> simp only [insert] <;> first | exact .zero (ih _) | exact .one (ih _)

/-- A word that neither begins another one nor is begun by it does not disturb it. -/
theorem Leads.insert {code : Code} {word word' : List Bool} {symbol symbol' : Nat} (h : Leads code word' symbol')
    (hbegins : ¬ word <+: word') (hbegun : ¬ word' <+: word) : Leads (code.insert symbol word) word' symbol' := by
  induction h generalizing word with
  | leaf symbol' => exact absurd List.nil_prefix hbegun
  | zero rest ih =>
      match word with
      | [] => exact absurd List.nil_prefix hbegins
      | false :: word =>
          exact .zero (ih (fun hp => hbegins (List.cons_prefix_cons.mpr ⟨rfl, hp⟩))
            fun hp => hbegun (List.cons_prefix_cons.mpr ⟨rfl, hp⟩))
      | true :: word => exact .zero rest
  | one rest ih =>
      match word with
      | [] => exact absurd List.nil_prefix hbegins
      | false :: word => exact .one rest
      | true :: word =>
          exact .one (ih (fun hp => hbegins (List.cons_prefix_cons.mpr ⟨rfl, hp⟩))
            fun hp => hbegun (List.cons_prefix_cons.mpr ⟨rfl, hp⟩))

/-- A symbol is read where its codeword stands. -/
def ReadsWord (code : Code) (words : Array (List Bool)) (symbol : Nat) : Prop :=
  Reads Prod.mk code.read (words.getD symbol []) symbol

variable {lengths : List Nat}

theorem wordAt_ne_nil {i : Nat} (h : lengths.getD i 0 ≠ 0) : wordAt lengths i ≠ [] := by
  intro hnil
  have hlength := congrArg List.length hnil
  rw [wordAt, if_neg h, codeword, List.length_reverse, length_bitsOfNat] at hlength
  exact h hlength

/-- After the codewords of the first symbols have been put in, all of them lead to their symbols. -/
theorem Tight.leads_foldl (h : Tight lengths) {i n : Nat} (hi : lengths.getD i 0 ≠ 0) (hin : i < n) :
    Leads ((List.range n).foldl (fun c symbol =>
      if wordAt lengths symbol = [] then c else c.insert symbol (wordAt lengths symbol)) .unused)
      (wordAt lengths i) i := by
  induction n with
  | zero => exact absurd hin (Nat.not_lt_zero i)
  | succ n ih =>
      rw [List.range_succ, List.foldl_append, List.foldl_cons, List.foldl_nil]
      rcases Nat.lt_or_eq_of_le (Nat.le_of_lt_succ hin) with hlt | rfl
      · by_cases hn : lengths.getD n 0 = 0
        · rw [if_pos (by rw [wordAt, if_pos hn])]
          exact ih hlt
        · rw [if_neg (wordAt_ne_nil hn)]
          exact (ih hlt).insert (h.apart hn hi (by omega)) (h.apart hi hn (by omega))
      · rw [if_neg (wordAt_ne_nil hi)]
        exact leads_insert _ _ _

/-- **A code reads its own words.** Lengths that leave no room over make a code, and it reads each symbol where its
codeword stands. -/
theorem Tight.reads (h : Tight lengths) : ∃ code, codeOf lengths = .ok code ∧
    ∀ symbol, lengths.getD symbol 0 ≠ 0 → code.ReadsWord (codewords lengths).toArray symbol := by
  have hfits : ¬ (1 < (lengths.filter (· ≠ 0)).length ∧ weight lengths ≠ 1 <<< maxCodeLength) := by
    rintro ⟨hused, hweight⟩
    rw [weight_eq_taken h.le_max, Nat.one_shiftLeft] at hweight
    exact hweight (h.full hused)
  have hentries : (codewords lengths).zip (List.range lengths.length) =
      (List.range lengths.length).map fun symbol => (wordAt lengths symbol, symbol) := by
    rw [codewords_eq h.le_max, List.map_prod_right_eq_zip]
  refine ⟨_, by rw [codeOf, ofLengths?, if_neg hfits], fun symbol hsymbol => ?_⟩
  have hbound := lt_length_of_getD_ne hsymbol
  have hword : (codewords lengths).toArray.getD symbol [] = wordAt lengths symbol := by
    rw [codewords_eq h.le_max]
    simp [hbound]
  rw [ReadsWord, hword, hentries, List.foldl_map]
  exact (h.leads_foldl hsymbol hbound).reads

end Code

end PaymentCredentials.Deflate
