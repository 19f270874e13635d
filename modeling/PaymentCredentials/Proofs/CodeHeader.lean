import Mathlib.Data.List.TakeWhile
import PaymentCredentials.Deflate.Compress
import PaymentCredentials.Proofs.CodeLengths

/-!
The codes of a block are read back from its header. The code lengths are packed as symbols of a code of their own:
a run of equal lengths is one symbol, and unpacking the symbols gives the lengths back.
-/
namespace PaymentCredentials.Deflate

/-! ### Frequencies -/

theorem length_frequencies (bound : Nat) (symbols : List Nat) : (frequencies bound symbols).length = bound := by
  have hfold : ∀ a : Array Nat, (symbols.foldl (fun a s => a.modify s (· + 1)) a).size = a.size := by
    induction symbols with
    | nil => exact fun _ => rfl
    | cons s symbols ih => exact fun a => (ih _).trans Array.size_modify
  rw [frequencies, Array.length_toList, hfold, Array.size_replicate]

/-- A symbol that occurs has a frequency. -/
theorem frequencies_ne_zero {bound s : Nat} {symbols : List Nat} (h : s ∈ symbols) (hs : s < bound) :
    (frequencies bound symbols).getD s 0 ≠ 0 := by
  have hfold : ∀ (rest : List Nat) (a : Array Nat), s < a.size → (s ∈ rest ∨ a.getD s 0 ≠ 0) →
      (rest.foldl (fun a s => a.modify s (· + 1)) a).getD s 0 ≠ 0 := by
    intro rest
    induction rest with
    | nil => exact fun _ _ hmem => hmem.resolve_left List.not_mem_nil
    | cons r rest ih =>
        intro a ha hmem
        refine ih _ (by rwa [Array.size_modify]) ?_
        rcases hmem with hmem | hne
        · rcases List.mem_cons.mp hmem with rfl | hmem
          · exact Or.inr (by simp [ha, Array.getElem_modify])
          · exact Or.inl hmem
        · refine Or.inr ?_
          by_cases hr : r = s
          · subst hr
            simp [ha, Array.getElem_modify]
          · simpa [hr, ha, Array.getElem_modify] using hne
  have htable := hfold symbols (Array.replicate bound 0) (by rwa [Array.size_replicate]) (Or.inl h)
  rw [frequencies]
  simpa using htable

/-! ### Packed lengths -/

/-- Symbols that stand for code lengths, with the lengths before and behind them, newest first. -/
inductive Unpacks : List Nat → List LengthSymbol → List Nat → Prop
  | done (read : List Nat) : Unpacks read [] read
  | length {l : Nat} {read read' : List Nat} {packed : List LengthSymbol} (short : l < 16)
      (rest : Unpacks (l :: read) packed read') : Unpacks read (⟨l, []⟩ :: packed) read'
  | again {last n : Nat} {read read' : List Nat} {packed : List LengthSymbol} (few : n < 4)
      (rest : Unpacks (List.replicate (3 + n) last ++ last :: read) packed read') :
      Unpacks (last :: read) (⟨16, bitsOfNat 2 n⟩ :: packed) read'
  | zeros {n : Nat} {read read' : List Nat} {packed : List LengthSymbol} (few : n < 8)
      (rest : Unpacks (List.replicate (3 + n) 0 ++ read) packed read') :
      Unpacks read (⟨17, bitsOfNat 3 n⟩ :: packed) read'
  | manyZeros {n : Nat} {read read' : List Nat} {packed : List LengthSymbol} (few : n < 128)
      (rest : Unpacks (List.replicate (11 + n) 0 ++ read) packed read') :
      Unpacks read (⟨18, bitsOfNat 7 n⟩ :: packed) read'

theorem Unpacks.append {before between behind : List Nat} {packed packed' : List LengthSymbol}
    (h : Unpacks before packed between) (h' : Unpacks between packed' behind) :
    Unpacks before (packed ++ packed') behind := by
  induction h with
  | done read => exact h'
  | length short rest ih => exact .length short (ih h')
  | again few rest ih => exact .again few (ih h')
  | zeros few rest ih => exact .zeros few (ih h')
  | manyZeros few rest ih => exact .manyZeros few (ih h')

theorem Unpacks.symbol_lt {read read' : List Nat} {packed : List LengthSymbol} (h : Unpacks read packed read') :
    ∀ s ∈ packed, s.symbol < 19 := by
  induction h with
  | done read => exact nofun
  | length short rest ih =>
      exact List.forall_mem_cons.mpr ⟨Nat.lt_of_lt_of_le short (by decide), ih⟩
  | again few rest ih => exact List.forall_mem_cons.mpr ⟨(by decide : 16 < 19), ih⟩
  | zeros few rest ih => exact List.forall_mem_cons.mpr ⟨(by decide : 17 < 19), ih⟩
  | manyZeros few rest ih => exact List.forall_mem_cons.mpr ⟨(by decide : 18 < 19), ih⟩

theorem Unpacks.length_le {read read' : List Nat} {packed : List LengthSymbol} (h : Unpacks read packed read') :
    read.length + packed.length ≤ read'.length := by
  induction h with
  | done read => exact Nat.le_refl _
  | length short rest ih | again few rest ih | zeros few rest ih | manyZeros few rest ih =>
      simp only [List.length_cons, List.length_append, List.length_replicate] at ih ⊢
      omega

theorem Unpacks.length_lt {read read' : List Nat} {s : LengthSymbol} {packed : List LengthSymbol}
    (h : Unpacks read (s :: packed) read') : read.length < read'.length := by
  have hle := h.length_le
  rw [List.length_cons] at hle
  omega

theorem unpacks_replicate {l : Nat} (hl : l < 16) (n : Nat) (read : List Nat) :
    Unpacks read (List.replicate n ⟨l, []⟩) (List.replicate n l ++ read) := by
  induction n generalizing read with
  | zero => exact .done read
  | succ n ih =>
      rw [List.replicate_succ, List.replicate_succ', List.append_assoc]
      exact .length hl (ih (l :: read))

theorem unpacks_zeroRun {n : Nat} (hn : n ≤ 138) (read : List Nat) :
    Unpacks read (zeroRun n) (List.replicate n 0 ++ read) := by
  unfold zeroRun
  split
  · exact unpacks_replicate (by decide) n read
  split
  · obtain ⟨n, rfl⟩ : ∃ k, n = 3 + k := Nat.exists_eq_add_of_le (by omega)
    rw [Nat.add_sub_cancel_left]
    exact .zeros (by omega) (.done _)
  · obtain ⟨n, rfl⟩ : ∃ k, n = 11 + k := Nat.exists_eq_add_of_le (by omega)
    rw [Nat.add_sub_cancel_left]
    exact .manyZeros (by omega) (.done _)

theorem unpacks_repeatRun {l n : Nat} (hl : l < 16) (hn : n ≤ 6) (read : List Nat) :
    Unpacks (l :: read) (repeatRun l n) (List.replicate n l ++ l :: read) := by
  unfold repeatRun
  split
  · exact unpacks_replicate hl n (l :: read)
  · obtain ⟨n, rfl⟩ : ∃ k, n = 3 + k := Nat.exists_eq_add_of_le (by omega)
    rw [Nat.add_sub_cancel_left]
    exact .again (by omega) (.done _)

/-- What has been packed unpacks to `read`, and with the run that is not written yet these are the lengths so far,
newest first. A run of zeros is behind one of repeats, never beside it. -/
structure Packing.Pending (p : Packing) (read lengths : List Nat) : Prop where
  unpacks : Unpacks [] p.packed read
  lengths_eq : lengths = List.replicate p.zeros 0 ++ (List.replicate p.repeats (p.last.getD 0) ++ read)
  zeros_le : p.zeros ≤ 138
  repeats_le : p.repeats ≤ 6
  alone : p.zeros = 0 ∨ p.repeats = 0
  last_lt : p.last.getD 0 < 16
  zeros_last : p.zeros ≠ 0 → p.last = some 0
  repeats_last : p.last = none → p.repeats = 0
  head : p.zeros = 0 → ∀ l, p.last = some l → ∃ tail, read = l :: tail

namespace Packing

variable {p : Packing} {read lengths : List Nat}

theorem Pending.flushZeros (h : p.Pending read lengths) :
    p.flushZeros.Pending (List.replicate p.zeros 0 ++ read) lengths := by
  refine ⟨h.unpacks.append (unpacks_zeroRun h.zeros_le read), ?_, Nat.zero_le _, h.repeats_le, Or.inl rfl, h.last_lt,
    fun hne => absurd rfl hne, h.repeats_last, fun _ l hl => ?_⟩
  · rw [h.lengths_eq]
    rcases h.alone with hzeros | hrepeats
    · simp only [Packing.flushZeros, hzeros, List.replicate_zero, List.nil_append]
    · simp only [Packing.flushZeros, hrepeats, List.replicate_zero, List.nil_append]
  · by_cases hzeros : p.zeros = 0
    · rw [hzeros]
      exact h.head hzeros l hl
    · obtain rfl : 0 = l := Option.some.inj ((h.zeros_last hzeros).symm.trans hl)
      obtain ⟨n, hn⟩ := Nat.exists_eq_succ_of_ne_zero hzeros
      exact ⟨List.replicate n 0 ++ read, by rw [hn]; rfl⟩

theorem Pending.flushRepeats (h : p.Pending read lengths) :
    p.flushRepeats.Pending (List.replicate p.repeats (p.last.getD 0) ++ read) lengths := by
  have hunpacks : Unpacks read (repeatRun (p.last.getD 0) p.repeats)
      (List.replicate p.repeats (p.last.getD 0) ++ read) := by
    by_cases hrepeats : p.repeats = 0
    · rw [hrepeats]
      exact .done read
    · cases hlast : p.last with
      | none => exact absurd (h.repeats_last hlast) hrepeats
      | some l =>
          obtain ⟨tail, rfl⟩ := h.head (h.alone.resolve_right hrepeats) l hlast
          have hlt := h.last_lt
          rw [hlast] at hlt
          exact unpacks_repeatRun hlt h.repeats_le tail
  refine ⟨h.unpacks.append hunpacks, h.lengths_eq, h.zeros_le, Nat.zero_le _, Or.inr rfl, h.last_lt, h.zeros_last,
    fun _ => rfl, fun hzeros l hl => ?_⟩
  obtain ⟨tail, rfl⟩ := h.head hzeros l hl
  cases hrepeats : p.repeats with
  | zero => exact ⟨tail, rfl⟩
  | succ n => exact ⟨List.replicate n l ++ l :: tail, by rw [show p.last = some l from hl]; rfl⟩

/-- What is packed before a length that is not a zero: no run of zeros is left over. -/
theorem Pending.addOther (h : p.Pending read lengths) (hzeros : p.zeros = 0) {l : Nat} (hl : l < 16) :
    Pending ⟨some l, 0, 0, p.flushRepeats.packed ++ [⟨l, []⟩]⟩
      (l :: (List.replicate p.repeats (p.last.getD 0) ++ read)) (l :: lengths) := by
  have hflushed := h.flushRepeats
  refine ⟨hflushed.unpacks.append (.length hl (.done _)), ?_, Nat.zero_le _, Nat.zero_le _, Or.inl rfl, hl,
    fun hne => absurd rfl hne, fun hnone => (Option.some_ne_none l hnone).elim, fun _ k hk => ?_⟩
  · rw [h.lengths_eq, hzeros]
    rfl
  · obtain rfl : l = k := Option.some.inj hk
    exact ⟨_, rfl⟩

theorem Pending.addRepeat {l : Nat} (h : p.Pending read lengths) (hzeros : p.zeros = 0) (hrepeats : p.repeats < 6)
    (hlast : p.last = some l) :
    Pending ⟨p.last, 0, p.repeats + 1, p.packed⟩ read (l :: lengths) := by
  have hlt := h.last_lt
  refine ⟨h.unpacks, ?_, Nat.zero_le _, hrepeats, Or.inl rfl, hlt, fun hne => absurd rfl hne,
    fun hnone => ?_, fun _ => h.head hzeros⟩
  · rw [h.lengths_eq, hzeros, hlast]
    rfl
  · rw [hlast] at hnone
    exact (Option.some_ne_none l hnone).elim

theorem Pending.addZero (h : p.Pending read lengths) (hzeros : p.zeros < 138) (hrepeats : p.repeats = 0) :
    Pending ⟨some 0, p.zeros + 1, 0, p.packed⟩ read (0 :: lengths) := by
  refine ⟨h.unpacks, ?_, hzeros, Nat.zero_le _, Or.inr rfl, Nat.succ_pos 15, fun _ => rfl,
    fun hnone => (Option.some_ne_none 0 hnone).elim, fun hne => (Nat.succ_ne_zero _ hne).elim⟩
  rw [h.lengths_eq, hrepeats]
  rfl

/-- A length is added, and a run that has become as long as a symbol can say is written. -/
theorem Pending.add (h : p.Pending read lengths) (hzeros : p.zeros < 138) (hrepeats : p.repeats < 6) {l : Nat}
    (hl : l < 16) :
    ∃ read', (p.add l).Pending read' (l :: lengths) ∧ (p.add l).zeros < 138 ∧ (p.add l).repeats < 6 := by
  unfold Packing.add
  dsimp only
  split
  · rename_i hzero
    subst hzero
    have hadded := h.flushRepeats.addZero hzeros rfl
    split
    · exact ⟨_, hadded.flushZeros, Nat.succ_pos _, Nat.succ_pos _⟩
    · rename_i hfew
      have hle := hadded.zeros_le
      exact ⟨_, hadded, Nat.lt_of_le_of_ne hle hfew, Nat.succ_pos _⟩
  · have hflushed := h.flushZeros
    split
    · rename_i hlast
      have hadded := hflushed.addRepeat rfl hrepeats hlast
      split
      · exact ⟨_, hadded.flushRepeats, Nat.succ_pos _, Nat.succ_pos _⟩
      · rename_i hfew
        have hle := hadded.repeats_le
        exact ⟨_, hadded, Nat.succ_pos _, Nat.lt_of_le_of_ne hle hfew⟩
    · exact ⟨_, hflushed.addOther rfl hl, Nat.succ_pos _, Nat.succ_pos _⟩

theorem Pending.foldl (h : p.Pending read lengths) (hzeros : p.zeros < 138) (hrepeats : p.repeats < 6)
    {rest : List Nat} (hrest : ∀ l ∈ rest, l < 16) :
    ∃ read', (rest.foldl Packing.add p).Pending read' (rest.reverse ++ lengths) := by
  induction rest generalizing p read lengths with
  | nil => exact ⟨read, h⟩
  | cons l rest ih =>
      obtain ⟨read', hadded, hzeros', hrepeats'⟩ := h.add hzeros hrepeats (hrest l List.mem_cons_self)
      have hfolded := ih hadded hzeros' hrepeats' fun k hk => hrest k (List.mem_cons_of_mem _ hk)
      rwa [List.reverse_cons, List.append_assoc, List.singleton_append]

end Packing

/-- **Packed lengths unpack** to the lengths, newest first. -/
theorem unpacks_packLengths {lengths : List Nat} (h : ∀ l ∈ lengths, l < 16) :
    Unpacks [] (packLengths lengths) lengths.reverse := by
  have hstart : Packing.Pending ⟨none, 0, 0, []⟩ [] [] :=
    ⟨.done [], rfl, Nat.zero_le _, Nat.zero_le _, Or.inl rfl, by decide, fun hne => absurd rfl hne, fun _ => rfl,
      fun _ _ hl => nomatch hl⟩
  obtain ⟨read, hpacked⟩ := hstart.foldl (by decide) (by decide) h
  have hflushed := hpacked.flushRepeats.flushZeros
  have hlengths := hflushed.lengths_eq
  rw [List.append_nil] at hlengths
  rw [hlengths]
  exact hflushed.unpacks

/-! ### Lists without their zeros -/

theorem exists_zeros_behind (lengths : List Nat) :
    ∃ n, lengths = (lengths.reverse.dropWhile (· = 0)).reverse ++ List.replicate n 0 := by
  refine ⟨(lengths.reverse.takeWhile (· = 0)).length, ?_⟩
  have hzeros : lengths.reverse.takeWhile (· = 0) = List.replicate (lengths.reverse.takeWhile (· = 0)).length 0 :=
    List.eq_replicate_of_mem fun x hx => by simpa using List.mem_takeWhile_imp hx
  rw [← List.reverse_replicate, ← hzeros, ← List.reverse_append, List.takeWhile_append_dropWhile,
    List.reverse_reverse]

theorem dropZeros_append {least : Nat} {lengths : List Nat} (h : least ≤ lengths.length) :
    ∃ k, dropZeros least lengths ++ List.replicate k 0 = lengths := by
  obtain ⟨n, hn⟩ := exists_zeros_behind lengths
  rw [dropZeros]
  generalize (lengths.reverse.dropWhile (· = 0)).reverse = kept at hn ⊢
  subst hn
  rw [List.length_append, List.length_replicate] at h
  refine ⟨n - (least - kept.length), ?_⟩
  rw [List.append_assoc, List.replicate_append_replicate, Nat.add_sub_of_le (by omega)]

theorem le_length_dropZeros (least : Nat) (lengths : List Nat) : least ≤ (dropZeros least lengths).length := by
  rw [dropZeros, List.length_append, List.length_replicate]
  omega

/-! ### The header -/

/-- Packed lengths are read back with a code that has a word for each of their symbols. -/
theorem reads_codeLengths {code : Code} {words : Array (List Bool)} {count fuel : Nat} {read read' : List Nat}
    {packed : List LengthSymbol} (h : Unpacks read packed read') (hcount : read'.length = count)
    (hfuel : count ≤ read.length + fuel) (hwords : ∀ s ∈ packed, code.ReadsWord words s.symbol) :
    Reads Prod.mk (fun s => codeLengths code count fuel s read)
      (packed.flatMap fun s => words.getD s.symbol [] ++ s.extra) read' := by
  subst hcount
  induction h generalizing fuel with
  | done read =>
      unfold codeLengths
      exact (reads_pure Prod.mk read).of_pos rfl
  | @length l read read' packed short rest ih =>
      have hlt := (Unpacks.length short rest).length_lt
      obtain ⟨hword, hwords⟩ := List.forall_mem_cons.mp hwords
      obtain ⟨fuel, rfl⟩ : ∃ k, fuel = k + 1 := ⟨fuel - 1, by omega⟩
      have hrest := @ih fuel hwords (by rw [List.length_cons]; omega)
      unfold codeLengths
      rw [List.flatMap_cons, List.append_nil]
      refine Reads.of_neg (Reads.of_neg (hword.bind ?_) (by omega)) (by omega)
      exact hrest.of_pos short
  | @again last n read read' packed few rest ih =>
      have hlt := (Unpacks.again few rest).length_lt
      obtain ⟨hword, hwords⟩ := List.forall_mem_cons.mp hwords
      obtain ⟨fuel, rfl⟩ : ∃ k, fuel = k + 1 := ⟨fuel - 1, by omega⟩
      have hrest := @ih fuel hwords (by rw [List.length_append, List.length_replicate]; omega)
      unfold codeLengths
      rw [List.flatMap_cons, List.append_assoc]
      refine Reads.of_neg (Reads.of_neg (hword.bind ?_) (by omega)) (by omega)
      refine Reads.of_neg (Reads.of_pos ?_ rfl) (Nat.lt_irrefl 16)
      exact (reads_take few).bind hrest
  | @zeros n read read' packed few rest ih =>
      have hlt := (Unpacks.zeros few rest).length_lt
      obtain ⟨hword, hwords⟩ := List.forall_mem_cons.mp hwords
      obtain ⟨fuel, rfl⟩ : ∃ k, fuel = k + 1 := ⟨fuel - 1, by omega⟩
      have hrest := @ih fuel hwords (by rw [List.length_append, List.length_replicate]; omega)
      unfold codeLengths
      rw [List.flatMap_cons, List.append_assoc]
      refine Reads.of_neg (Reads.of_neg (hword.bind ?_) (by omega)) (by omega)
      refine Reads.of_neg (Reads.of_neg (Reads.of_pos ?_ rfl) (by decide : 17 ≠ 16)) (by decide : ¬ 17 < 16)
      exact (reads_take few).bind hrest
  | @manyZeros n read read' packed few rest ih =>
      have hlt := (Unpacks.manyZeros few rest).length_lt
      obtain ⟨hword, hwords⟩ := List.forall_mem_cons.mp hwords
      obtain ⟨fuel, rfl⟩ : ∃ k, fuel = k + 1 := ⟨fuel - 1, by omega⟩
      have hrest := @ih fuel hwords (by rw [List.length_append, List.length_replicate]; omega)
      unfold codeLengths
      rw [List.flatMap_cons, List.append_assoc]
      refine Reads.of_neg (Reads.of_neg (hword.bind ?_) (by omega)) (by omega)
      refine Reads.of_neg (Reads.of_neg (Reads.of_neg ?_ (by decide : 18 ≠ 17)) (by decide : 18 ≠ 16))
        (by decide : ¬ 18 < 16)
      exact (reads_take few).bind hrest

theorem reads_shortLengths {lengths : List Nat} (h : ∀ l ∈ lengths, l < 8) :
    Reads Prod.mk (shortLengths lengths.length) (lengths.flatMap (bitsOfNat 3)) lengths := by
  induction lengths with
  | nil => exact reads_pure Prod.mk []
  | cons l lengths ih =>
      obtain ⟨hl, hlengths⟩ := List.forall_mem_cons.mp h
      rw [List.flatMap_cons, ← List.append_nil (lengths.flatMap _)]
      exact (reads_take hl).bind ((ih hlengths).bind (reads_pure Prod.mk (l :: lengths)))

/-- A value that is written behind its name is found, and one that is not written is zero. -/
theorem find?_zip {order written : List Nat} {value : Nat → Nat} {k n : Nat}
    (h : written ++ List.replicate k 0 = order.map value) (hn : n ∈ order) :
    (((order.zip written).find? (·.1 = n)).map (·.2)).getD 0 = value n := by
  induction order generalizing written with
  | nil => exact absurd hn List.not_mem_nil
  | cons m order ih =>
      cases written with
      | nil =>
          have hzero : value n ∈ List.replicate k 0 := by
            rw [← List.nil_append (List.replicate k 0), h]
            exact List.mem_map_of_mem hn
          rw [List.eq_of_mem_replicate hzero]
          rfl
      | cons w written =>
          obtain ⟨rfl, hrest⟩ := List.cons.inj h
          by_cases hm : m = n
          · subst hm
            rw [List.zip_cons_cons, List.find?_cons_of_pos (by simp)]
            rfl
          · rw [List.zip_cons_cons, List.find?_cons_of_neg (by simpa using hm)]
            exact ih hrest ((List.mem_cons.mp hn).resolve_left fun heq => hm heq.symm)

theorem getD_range_map (lengths : List Nat) {count : Nat} (h : lengths.length = count) :
    (List.range count).map (fun n => lengths.getD n 0) = lengths := by
  subst h
  refine List.ext_getElem (by simp) fun i _ hi => ?_
  simp [hi]

/-- The header of a block with codes of its own, behind its kind: the counts of their lengths, the code that these
are packed in, and the packed lengths. -/
def headerBits (literalLengths distanceLengths : List Nat) : List Bool :=
  let packed := packLengths (literalLengths ++ distanceLengths)
  let lengths := lengthsOf 7 (frequencies 19 (packed.map (·.symbol)))
  let inOrder := dropZeros 4 (lengthOrder.map fun n => lengths.getD n 0)
  let words := (codewords lengths).toArray
  bitsOfNat 5 (literalLengths.length - 257) ++ (bitsOfNat 5 (distanceLengths.length - 1) ++
    (bitsOfNat 4 (inOrder.length - 4) ++ (inOrder.flatMap (bitsOfNat 3) ++
      packed.flatMap fun s => words.getD s.symbol [] ++ s.extra)))

/-- Code lengths of the code for code lengths, as they are written: in their order, without the last zeros. -/
structure InLengthOrder (lengths inOrder : List Nat) : Prop where
  least_le : 4 ≤ inOrder.length
  le_most : inOrder.length ≤ 19
  small : ∀ l ∈ inOrder, l < 8
  find : (List.range 19).map (fun n => (((lengthOrder.zip inOrder).find? (·.1 = n)).map (·.2)).getD 0) = lengths

theorem inLengthOrder_dropZeros {lengths : List Nat} (hlength : lengths.length = 19) (hsmall : ∀ l ∈ lengths, l ≤ 7) :
    InLengthOrder lengths (dropZeros 4 (lengthOrder.map fun n => lengths.getD n 0)) := by
  have hleast : 4 ≤ (lengthOrder.map fun n => lengths.getD n 0).length := by
    rw [List.length_map]
    decide
  have horder : ∀ n ∈ List.range 19, n ∈ lengthOrder := by decide
  obtain ⟨k, hk⟩ := dropZeros_append hleast
  refine ⟨le_length_dropZeros _ _, ?_, fun l hl => ?_, ?_⟩
  · have hboth := congrArg List.length hk
    rw [List.length_append, List.length_map] at hboth
    exact Nat.le_trans (Nat.le_add_right _ _) (Nat.le_of_eq hboth)
  · have hmem : l ∈ lengthOrder.map fun n => lengths.getD n 0 := by
      rw [← hk]
      exact List.mem_append_left _ hl
    obtain ⟨n, -, rfl⟩ := List.mem_map.mp hmem
    exact Nat.lt_succ_of_le (getD_le_of_forall_le hsmall n)
  · calc (List.range 19).map (fun n => (((lengthOrder.zip _).find? (·.1 = n)).map (·.2)).getD 0)
        = (List.range 19).map (fun n => lengths.getD n 0) :=
          List.map_congr_left fun n hn => find?_zip hk (horder n hn)
      _ = lengths := getD_range_map lengths hlength

/-- **The codes of a block are read back.** -/
theorem reads_dynamicCodes {literalLengths distanceLengths : List Nat} {literals distances : Code}
    (hliterals : codeOf literalLengths = .ok literals) (hdistances : codeOf distanceLengths = .ok distances)
    (hliteralCount : 257 ≤ literalLengths.length ∧ literalLengths.length ≤ 286)
    (hdistanceCount : 1 ≤ distanceLengths.length ∧ distanceLengths.length ≤ 30)
    (hshort : ∀ l ∈ literalLengths ++ distanceLengths, l ≤ maxCodeLength) :
    Reads glueTwo dynamicCodes (headerBits literalLengths distanceLengths) (literals, distances) := by
  have hunpacks := unpacks_packLengths fun l hl => Nat.lt_succ_of_le (hshort l hl)
  rw [headerBits]
  generalize packLengths (literalLengths ++ distanceLengths) = packed at *
  have hsuits : Suits 7 (frequencies 19 (packed.map (·.symbol))) _ :=
    suits_lengthsOf (by decide) (by decide) (by rw [length_frequencies]; decide)
  generalize lengthsOf 7 (frequencies 19 (packed.map (·.symbol))) = lengths at *
  have hlength : lengths.length = 19 := hsuits.length_eq.trans (length_frequencies _ _)
  obtain ⟨hleast, hmost, hsmall, hfind⟩ := inLengthOrder_dropZeros hlength hsuits.le_greatest
  generalize dropZeros 4 (lengthOrder.map fun n => lengths.getD n 0) = inOrder at *
  obtain ⟨code, hcode, hwords⟩ := hsuits.tight.reads
  have hword : ∀ s ∈ packed, code.ReadsWord (codewords lengths).toArray s.symbol := fun s hs =>
    hwords s.symbol (hsuits.used _ (frequencies_ne_zero (List.mem_map_of_mem hs) (hunpacks.symbol_lt s hs)))
  have hpacked := reads_codeLengths hunpacks (by rw [List.length_reverse, List.length_append])
    (Nat.le_add_left _ _) hword
  have hcounts : literalLengths.length - 257 + 257 = literalLengths.length ∧
      distanceLengths.length - 1 + 1 = distanceLengths.length ∧ inOrder.length - 4 + 4 = inOrder.length := by omega
  unfold dynamicCodes
  refine (reads_take (by omega)).bind ((reads_take (by omega)).bind ((reads_take (by omega)).bind ?_))
  dsimp only
  rw [hcounts.1, hcounts.2.1, hcounts.2.2]
  refine Reads.of_neg ((reads_shortLengths hsmall).bind ?_) (by omega)
  dsimp only
  rw [hfind, ← List.append_nil (packed.flatMap _)]
  refine Reads.after hcode (hpacked.bind ?_)
  dsimp only
  rw [List.reverse_reverse, List.take_left, List.drop_left]
  exact Reads.after hliterals (Reads.after hdistances (reads_pure glueTwo (literals, distances)))

end PaymentCredentials.Deflate
