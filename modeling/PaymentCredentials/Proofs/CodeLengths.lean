import PaymentCredentials.Proofs.LimitedLengths

/-!
Code lengths that come from frequencies make a code. The counts of the lengths are written out as lengths, and these
at the symbols that occur; neither takes up more or less room than the counts do.
-/
namespace PaymentCredentials.Deflate

/-! ### Lengths of symbols -/

/-- Counts as lengths, the longest first. -/
def lengthsFrom (greatest : Nat) (counts : List Nat) : List Nat :=
  ((List.range' 1 greatest).reverse).flatMap fun l => List.replicate (counts.getD l 0) l

theorem mem_lengthsFrom {greatest : Nat} {counts : List Nat} {l : Nat} (h : l ∈ lengthsFrom greatest counts) :
    0 < l ∧ l ≤ greatest := by
  obtain ⟨k, hk, hl⟩ := List.mem_flatMap.mp h
  obtain rfl := List.eq_of_mem_replicate hl
  simp only [List.mem_reverse, List.mem_range'_1] at hk
  omega

theorem sum_lengthsFrom (value : Nat → Nat) {greatest : Nat} {counts : List Nat}
    (hlength : counts.length = greatest + 1) (hempty : counts.getD 0 0 = 0) :
    ((lengthsFrom greatest counts).map value).sum = tally value counts := by
  have hsum : ∀ n, (((List.range' 1 n).flatMap fun l => List.replicate (counts.getD l 0) l).map value).sum =
      ∑ l ∈ Finset.range (n + 1), counts.getD l 0 * value l := by
    intro n
    induction n with
    | zero =>
        rw [Finset.sum_range_one, hempty, Nat.zero_mul]
        rfl
    | succ n ih =>
        rw [List.range'_1_concat, List.flatMap_append, List.map_append, List.sum_append, ih, List.flatMap_singleton,
          List.map_replicate, List.sum_replicate_nat, Finset.sum_range_succ _ (n + 1), Nat.add_comm 1 n]
  have hperm : ((lengthsFrom greatest counts).map value).Perm
      (((List.range' 1 greatest).flatMap fun l => List.replicate (counts.getD l 0) l).map value) :=
    ((List.reverse_perm _).flatMap_right _).map _
  rw [hperm.sum_nat, hsum, tally, hlength]

/-- Each length is written at its symbol. -/
def assign (entries : List (Nat × Nat)) (table : List Nat) : List Nat :=
  entries.foldl (fun table e => table.set e.1 e.2) table

theorem toList_foldl_set (entries : List (Nat × Nat)) (table : Array Nat) :
    (entries.foldl (fun (a : Array Nat) e => a.set! e.1 e.2) table).toList = assign entries table.toList := by
  induction entries generalizing table with
  | nil => rfl
  | cons e entries ih =>
      rw [List.foldl_cons, ih, Array.set!_eq_setIfInBounds, Array.toList_setIfInBounds]
      rfl

theorem length_assign (entries : List (Nat × Nat)) (table : List Nat) :
    (assign entries table).length = table.length := by
  induction entries generalizing table with
  | nil => rfl
  | cons e entries ih => exact (ih _).trans List.length_set

theorem sum_set (value : Nat → Nat) {table : List Nat} {i : Nat} (hi : i < table.length) (v : Nat) :
    ((table.set i v).map value).sum + value (table.getD i 0) = (table.map value).sum + value v := by
  induction table generalizing i with
  | nil => exact absurd hi (Nat.not_lt_zero i)
  | cons x table ih =>
      cases i with
      | zero =>
          simp only [List.set_cons_zero, List.map_cons, List.sum_cons, List.getD_cons_zero]
          omega
      | succ i =>
          have hrest := ih (Nat.lt_of_succ_lt_succ hi)
          simp only [List.set_cons_succ, List.map_cons, List.sum_cons, List.getD_cons_succ]
          omega

/-- Lengths that are written at different symbols add up. -/
theorem sum_assign {value : Nat → Nat} (hzero : value 0 = 0) {entries : List (Nat × Nat)} {table : List Nat}
    (hnodup : (entries.map (·.1)).Nodup) (hbound : ∀ e ∈ entries, e.1 < table.length)
    (hblank : ∀ e ∈ entries, table.getD e.1 0 = 0) :
    ((assign entries table).map value).sum = (table.map value).sum + ((entries.map (·.2)).map value).sum := by
  induction entries generalizing table with
  | nil => rfl
  | cons e entries ih =>
      obtain ⟨hother, hnodup⟩ := List.nodup_cons.mp hnodup
      have hset := sum_set value (hbound e List.mem_cons_self) e.2
      rw [hblank e List.mem_cons_self, hzero, Nat.add_zero] at hset
      have hbound' : ∀ f ∈ entries, f.1 < (table.set e.1 e.2).length := fun f hf => by
        rw [List.length_set]
        exact hbound f (List.mem_cons_of_mem _ hf)
      have hblank' : ∀ f ∈ entries, (table.set e.1 e.2).getD f.1 0 = 0 := fun f hf => by
        have hne : e.1 ≠ f.1 := fun heq => hother (List.mem_map.mpr ⟨f, hf, heq.symm⟩)
        rw [getD_set, if_neg fun h => hne h.1]
        exact hblank f (List.mem_cons_of_mem _ hf)
      have hrest := ih hnodup hbound' hblank'
      rw [assign, List.foldl_cons, ← assign, hrest, hset, List.map_cons, List.map_cons, List.sum_cons, Nat.add_assoc]

/-- A symbol that a length is written at has one. -/
theorem assign_ne_zero {entries : List (Nat × Nat)} {table : List Nat} {i : Nat}
    (hpos : ∀ e ∈ entries, e.2 ≠ 0) (hbound : i < table.length) (h : i ∈ entries.map (·.1) ∨ table.getD i 0 ≠ 0) :
    (assign entries table).getD i 0 ≠ 0 := by
  induction entries generalizing table with
  | nil => exact h.resolve_left List.not_mem_nil
  | cons e entries ih =>
      rw [assign, List.foldl_cons]
      refine ih (fun f hf => hpos f (List.mem_cons_of_mem _ hf)) (by rwa [List.length_set]) ?_
      rw [getD_set]
      by_cases hei : e.1 = i
      · rw [if_pos ⟨hei, by omega⟩]
        exact Or.inr (hpos e List.mem_cons_self)
      · rw [if_neg fun h => hei h.1]
        exact h.imp_left fun hmem => (List.mem_cons.mp hmem).resolve_left fun heq => hei heq.symm

/-- Lengths for symbols of the given frequencies. -/
structure Suits (greatest : Nat) (frequencies lengths : List Nat) : Prop where
  length_eq : lengths.length = frequencies.length
  le_greatest : ∀ l ∈ lengths, l ≤ greatest
  tight : Code.Tight lengths
  used : ∀ i, frequencies.getD i 0 ≠ 0 → lengths.getD i 0 ≠ 0

theorem taken_add {greatest : Nat} {lengths : List Nat} (h : ∀ l ∈ lengths, l ≤ greatest) (more : Nat) :
    taken lengths (greatest + more) = taken lengths greatest * 2 ^ more := by
  induction more with
  | zero => exact (Nat.mul_one _).symm
  | succ more ih =>
      have hcount : lengths.count (greatest + more + 1) = 0 := by
        refine List.count_eq_zero.mpr fun hmem => ?_
        have := h _ hmem
        omega
      rw [← Nat.add_assoc, taken_succ, ih, hcount, Nat.add_zero, Nat.pow_succ, Nat.mul_left_comm, Nat.mul_comm 2]

theorem length_filter_eq_sum (lengths : List Nat) :
    (lengths.filter (· ≠ 0)).length = (lengths.map fun l => if l = 0 then 0 else 1).sum := by
  induction lengths with
  | nil => rfl
  | cons l lengths ih =>
      rw [List.filter_cons, List.map_cons, List.sum_cons, ← ih]
      by_cases hl : l = 0
      · rw [if_neg (by simpa using hl), if_pos hl, Nat.zero_add]
      · rw [if_pos (by simpa using hl), if_neg hl, List.length_cons, Nat.add_comm]

/-- The frequencies that are not zero, with their symbols. -/
def usedSymbols (frequencies : List Nat) : List (Nat × Nat) :=
  (frequencies.zip (List.range frequencies.length)).filter (·.1 ≠ 0)

theorem symbols_sublist (frequencies : List Nat) :
    ((usedSymbols frequencies).map (·.2)).Sublist (List.range frequencies.length) := by
  have hzip : (frequencies.zip (List.range frequencies.length)).map (·.2) = List.range frequencies.length :=
    List.map_snd_zip (Nat.le_of_eq List.length_range)
  rw [← hzip]
  exact List.filter_sublist.map _

theorem mem_symbols {frequencies : List Nat} {i : Nat} (h : frequencies.getD i 0 ≠ 0) :
    i ∈ (usedSymbols frequencies).map (·.2) := by
  have hi := lt_length_of_getD_ne h
  rw [List.getD_eq_getElem _ _ hi] at h
  refine List.mem_map.mpr ⟨(frequencies[i], i), List.mem_filter.mpr ⟨?_, by simpa using h⟩, rfl⟩
  exact List.mem_iff_getElem.mpr ⟨i, by simpa using hi, by simp⟩

/-- Lengths that are written at different symbols of a blank table. -/
structure Written (count : Nat) (symbols lengths table : List Nat) : Prop where
  length_eq : table.length = count
  sum_eq : ∀ value : Nat → Nat, value 0 = 0 → (table.map value).sum = (lengths.map value).sum
  used : ∀ i ∈ symbols, table.getD i 0 ≠ 0

theorem written_assign {count : Nat} {symbols lengths : List Nat} (hlength : symbols.length = lengths.length)
    (hnodup : symbols.Nodup) (hbound : ∀ i ∈ symbols, i < count) (hpos : ∀ l ∈ lengths, l ≠ 0) :
    Written count symbols lengths (assign (symbols.zip lengths) (List.replicate count 0)) := by
  have hfst : (symbols.zip lengths).map (·.1) = symbols := List.map_fst_zip (Nat.le_of_eq hlength)
  have hsnd : (symbols.zip lengths).map (·.2) = lengths := List.map_snd_zip (Nat.le_of_eq hlength.symm)
  have hsymbol : ∀ e ∈ symbols.zip lengths, e.1 < count := fun e he => hbound e.1 (List.of_mem_zip he).1
  have hpositive : ∀ e ∈ symbols.zip lengths, e.2 ≠ 0 := fun e he => hpos e.2 (List.of_mem_zip he).2
  refine ⟨by rw [length_assign, List.length_replicate], fun value hzero => ?_, fun i hi => ?_⟩
  · rw [sum_assign hzero (by rwa [hfst]) (by simpa using hsymbol) (by simp), hsnd, List.map_replicate, hzero,
      List.sum_replicate_nat, Nat.mul_zero, Nat.zero_add]
  · exact assign_ne_zero hpositive (by simpa using hbound i hi) (Or.inl (by rwa [hfst]))

section

variable {count greatest total : Nat} {symbols lengths table counts frequencies : List Nat}

/-- No length above the greatest one is in the table: it would count. -/
theorem Written.le_greatest (h : Written count symbols lengths table) (hle : ∀ l ∈ lengths, l ≤ greatest) :
    ∀ l ∈ table, l ≤ greatest := by
  let excess : Nat → Nat := fun l => if l ≤ greatest then 0 else 1
  have hnone : (lengths.map excess).sum = 0 := by
    refine List.sum_eq_zero_iff_forall_eq_nat.mpr fun x hx => ?_
    obtain ⟨l, hl, rfl⟩ := List.mem_map.mp hx
    exact if_pos (hle l hl)
  intro l hl
  rw [← h.sum_eq excess (if_pos (Nat.zero_le _))] at hnone
  have hzero : excess l = 0 := List.sum_eq_zero_iff_forall_eq_nat.mp hnone _ (List.mem_map_of_mem hl)
  by_contra hlong
  exact absurd ((if_neg hlong).symm.trans hzero) (by decide)

/-- Lengths that are rationed make a code, whichever symbols they are written at. -/
theorem Written.tight (h : Written count symbols (lengthsFrom greatest counts) table)
    (hcounts : Rations greatest total counts) (hmax : greatest ≤ maxCodeLength) : Code.Tight table := by
  have hfrom := fun value => sum_lengthsFrom value hcounts.length_eq hcounts.no_empty
  have hle := h.le_greatest fun l hl => (mem_lengthsFrom hl).2
  have htaken : taken table maxCodeLength =
      tally (share greatest) counts * 2 ^ (maxCodeLength - greatest) := by
    have hadd := taken_add hle (maxCodeLength - greatest)
    rwa [Nat.add_sub_of_le hmax, taken, taken, h.sum_eq (share greatest) (by rw [share, if_neg (by omega)]), hfrom]
      at hadd
  have hpow : 2 ^ maxCodeLength = 2 ^ greatest * 2 ^ (maxCodeLength - greatest) := by
    rw [← Nat.pow_add, Nat.add_sub_of_le hmax]
  refine ⟨fun l hl => Nat.le_trans (hle l hl) hmax, ?_, fun hmany => ?_⟩
  · rw [htaken, hpow]
    exact Nat.mul_le_mul_right _ hcounts.room
  · have hones : (table.filter (· ≠ 0)).length ≤ total := by
      rw [length_filter_eq_sum, h.sum_eq (fun l => if l = 0 then 0 else 1) (if_pos rfl), hfrom, ← hcounts.total_eq]
      refine Finset.sum_le_sum fun l _ => Nat.mul_le_mul_left _ ?_
      dsimp only
      split <;> decide
    rw [htaken, hpow, hcounts.full (Nat.lt_of_lt_of_le hmany hones)]

theorem Rations.length_lengthsFrom (h : Rations greatest total counts) :
    (lengthsFrom greatest counts).length = total := by
  have hones := sum_lengthsFrom (fun _ => 1) h.length_eq h.no_empty
  rwa [h.total_eq, List.map_const', List.sum_replicate_nat, Nat.mul_one] at hones

end

/-- **Code lengths from frequencies.** If there is room for all symbols, then the lengths make a code, in which every
symbol that occurs has a codeword. -/
theorem suits_lengthsOf {greatest : Nat} {frequencies : List Nat} (hpos : 0 < greatest)
    (hmax : greatest ≤ maxCodeLength) (hroom : frequencies.length ≤ 2 ^ greatest) :
    Suits greatest frequencies (lengthsOf greatest frequencies) := by
  let ordered := (usedSymbols frequencies).mergeSort fun a b => decide (a.1 ≤ b.1)
  let leaves : List Grove := ordered.map fun e => ⟨e.1, [0]⟩
  let counts := limitedCounts greatest (joinAll (2 * (usedSymbols frequencies).length + 1) leaves [])
  have hlengths : lengthsOf greatest frequencies =
      assign ((ordered.map (·.2)).zip (lengthsFrom greatest counts)) (List.replicate frequencies.length 0) := by
    rw [← Array.toList_replicate]
    exact toList_foldl_set _ _
  have hordered : ordered.Perm (usedSymbols frequencies) := List.mergeSort_perm _ _
  have hsymbols : (ordered.map (·.2)).Perm ((usedSymbols frequencies).map (·.2)) := hordered.map _
  have hsub := symbols_sublist frequencies
  have hcount : leafCount (leaves ++ []) = (ordered.map (·.2)).length := by
    simp [leafCount, leaves, Function.comp_def]
  have hfew : (ordered.map (·.2)).length ≤ 2 ^ greatest := by
    rw [hsymbols.length_eq]
    exact Nat.le_trans hsub.length_le (by rwa [List.length_range])
  have hleaves : ∀ g ∈ leaves ++ [], LeafDepths g.depths := by
    intro g hg
    rw [List.append_nil] at hg
    obtain ⟨e, -, rfl⟩ := List.mem_map.mp hg
    exact leafDepths_root
  have hfuel : (leaves ++ []).length ≤ 2 * (usedSymbols frequencies).length + 1 := by
    rw [List.append_nil, List.length_map, hordered.length_eq]
    omega
  have hdepths := leafDepths_joinAll hleaves hfuel
  rw [hcount] at hdepths
  rw [hlengths]
  have hcounts := rations_limitedCounts hpos hfew hdepths
  have hwritten : Written frequencies.length (ordered.map (·.2)) (lengthsFrom greatest counts) _ :=
    written_assign hcounts.length_lengthsFrom.symm (hsymbols.nodup_iff.mpr (hsub.nodup List.nodup_range))
      (fun i hi => List.mem_range.mp (hsub.subset (hsymbols.mem_iff.mp hi)))
      fun l hl => Nat.ne_of_gt (mem_lengthsFrom hl).1
  exact ⟨hwritten.length_eq, hwritten.le_greatest fun l hl => (mem_lengthsFrom hl).2, hwritten.tight hcounts hmax,
    fun i hi => hwritten.used i (hsymbols.mem_iff.mpr (mem_symbols hi))⟩

end PaymentCredentials.Deflate
