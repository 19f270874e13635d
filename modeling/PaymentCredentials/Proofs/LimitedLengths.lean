import Mathlib.Algebra.BigOperators.Group.Finset.Piecewise
import Mathlib.Algebra.Order.BigOperators.Group.Finset
import PaymentCredentials.Deflate.Lengths
import PaymentCredentials.Proofs.PrefixCodes

/-!
How many codewords a code of limited lengths has of each length. Joining trees keeps the depths of their leaves such
that no room is left; cutting the depths takes too much room, and each codeword that is moved to a shorter length
gives one share of it back.
-/
namespace PaymentCredentials.Deflate

/-! ### Trees -/

/-- The depths of the leaves of a tree: at no depth is there room for another leaf. -/
def LeafDepths (depths : List Nat) : Prop :=
  ∀ width, (∀ d ∈ depths, d ≤ width) → (depths.map fun d => 2 ^ (width - d)).sum = 2 ^ width

theorem LeafDepths.ne_nil {depths : List Nat} (h : LeafDepths depths) : depths ≠ [] := by
  rintro rfl
  exact absurd (h 0 nofun) (by decide)

theorem leafDepths_root : LeafDepths [0] := fun _ _ => rfl

theorem LeafDepths.join {s t : Grove} (hs : LeafDepths s.depths) (ht : LeafDepths t.depths) :
    LeafDepths (s.join t).depths := by
  intro width hwidth
  simp only [Grove.join, List.mem_map, List.mem_append, forall_exists_index, and_imp,
    forall_apply_eq_imp_iff₂] at hwidth
  obtain ⟨d, hd⟩ := List.exists_mem_of_ne_nil _ hs.ne_nil
  obtain ⟨width, rfl⟩ : ∃ w, width = w + 1 := ⟨width - 1, by have := hwidth d (Or.inl hd); omega⟩
  have hleft := hs width fun d hd => Nat.le_of_succ_le_succ (hwidth d (Or.inl hd))
  have hright := ht width fun d hd => Nat.le_of_succ_le_succ (hwidth d (Or.inr hd))
  simp only [Grove.join, List.map_map, Function.comp_def, Nat.add_sub_add_right, List.map_append, List.sum_append,
    hleft, hright, Nat.pow_succ, Nat.mul_two]

/-- The depths of so many leaves. A leaf that stands alone is put one below the root. -/
structure LeafDepths.Of (count : Nat) (depths : List Nat) : Prop where
  length_eq : depths.length = count
  pos : ∀ d ∈ depths, 0 < d
  full : 1 < count → LeafDepths depths

/-- Next to another leaf none is at the root. -/
theorem LeafDepths.pos {depths : List Nat} (h : LeafDepths depths) (hlength : 1 < depths.length) :
    ∀ d ∈ depths, 0 < d := by
  intro d hd
  refine Nat.pos_of_ne_zero ?_
  rintro rfl
  obtain ⟨front, behind, rfl⟩ := List.append_of_mem hd
  obtain ⟨width, hwidth⟩ : ∃ width, ∀ d ∈ front ++ 0 :: behind, d ≤ width :=
    ⟨(front ++ 0 :: behind).sum, fun d hd => List.le_sum_of_mem hd⟩
  have hsum := h width hwidth
  have hother : 0 < ((front ++ behind).map fun d => 2 ^ (width - d)).sum := by
    obtain ⟨e, he⟩ : ∃ e, e ∈ front ++ behind := by
      refine List.exists_mem_of_length_pos ?_
      simp only [List.length_append, List.length_cons] at hlength ⊢
      omega
    exact Nat.lt_of_lt_of_le (Nat.two_pow_pos (width - e))
      (List.le_sum_of_mem (List.mem_map_of_mem (f := fun d => 2 ^ (width - d)) he))
  simp only [List.map_append, List.map_cons, List.sum_append, List.sum_cons, Nat.sub_zero] at hsum hother
  omega

theorem LeafDepths.of_ne {depths : List Nat} (h : LeafDepths depths) (hone : depths ≠ [0]) :
    LeafDepths.Of depths.length depths := by
  refine ⟨rfl, ?_, fun _ => h⟩
  match depths, h, hone with
  | [], h, _ => exact absurd rfl h.ne_nil
  | [d], h, hone =>
      have hroot : 1 = 2 ^ d := by simpa using h d fun e he => Nat.le_of_eq (List.mem_singleton.mp he)
      obtain rfl : d = 0 := by
        refine Nat.eq_zero_of_not_pos fun hd => ?_
        exact Nat.ne_of_lt (Nat.one_lt_two_pow (Nat.ne_of_gt hd)) hroot
      exact absurd rfl hone
  | _ :: _ :: _, h, _ => exact h.pos (by simp only [List.length_cons]; omega)

theorem rarest_perm {leaves trees leaves' trees' : List Grove} {s : Grove}
    (h : rarest leaves trees = some (s, leaves', trees')) : (leaves ++ trees).Perm (s :: (leaves' ++ trees')) := by
  unfold rarest at h
  split at h
  · cases h
  · cases h
    exact List.Perm.refl _
  · cases h
    exact List.Perm.refl _
  · split at h
    · cases h
      exact List.perm_middle
    · cases h
      exact List.Perm.refl _

theorem rarest_eq_none {leaves trees : List Grove} (h : rarest leaves trees = none) : leaves ++ trees = [] := by
  unfold rarest at h
  split at h
  · rfl
  · cases h
  · cases h
  · split at h <;> cases h

/-- The number of leaves of trees. -/
def leafCount (groves : List Grove) : Nat := (groves.map fun g => g.depths.length).sum

theorem leafCount_perm {groves groves' : List Grove} (h : groves.Perm groves') :
    leafCount groves = leafCount groves' := (h.map _).sum_nat

theorem leafCount_join (s t : Grove) (groves : List Grove) :
    leafCount (s.join t :: groves) = leafCount (s :: t :: groves) := by
  simp only [leafCount, Grove.join, List.map_cons, List.sum_cons, List.length_map, List.length_append, Nat.add_assoc]

theorem leafDepths_joinAll {fuel : Nat} {leaves trees : List Grove}
    (hgroves : ∀ g ∈ leaves ++ trees, LeafDepths g.depths) (hfuel : (leaves ++ trees).length ≤ fuel) :
    LeafDepths.Of (leafCount (leaves ++ trees)) (joinAll fuel leaves trees) := by
  induction fuel generalizing leaves trees with
  | zero =>
      rw [List.eq_nil_of_length_eq_zero (Nat.le_zero.mp hfuel), joinAll]
      exact ⟨rfl, nofun, nofun⟩
  | succ fuel ih =>
      rw [joinAll]
      cases hfirst : rarest leaves trees with
      | none =>
          rw [rarest_eq_none hfirst]
          exact ⟨rfl, nofun, nofun⟩
      | some found =>
          obtain ⟨s, leaves₁, trees₁⟩ := found
          have hperm₁ := rarest_perm hfirst
          dsimp only
          cases hsecond : rarest leaves₁ trees₁ with
          | none =>
              rw [rarest_eq_none hsecond] at hperm₁
              have hs : LeafDepths s.depths := hgroves s (hperm₁.mem_iff.mpr List.mem_cons_self)
              have hcount : leafCount (leaves ++ trees) = s.depths.length := leafCount_perm hperm₁
              rw [hcount]
              dsimp only
              split
              · rename_i hone
                rw [hone]
                exact ⟨rfl, by decide, nofun⟩
              · rename_i hone
                exact hs.of_ne hone
          | some found =>
              obtain ⟨t, leaves₂, trees₂⟩ := found
              have hperm₂ := rarest_perm hsecond
              have hperm : (leaves ++ trees).Perm (s :: t :: (leaves₂ ++ trees₂)) := hperm₁.trans (hperm₂.cons s)
              have hmem : ∀ g ∈ s :: t :: (leaves₂ ++ trees₂), LeafDepths g.depths := fun g hg =>
                hgroves g (hperm.mem_iff.mpr hg)
              have hjoined : (leaves₂ ++ (trees₂ ++ [s.join t])).Perm (s.join t :: (leaves₂ ++ trees₂)) := by
                rw [← List.append_assoc]
                exact List.perm_append_singleton _ _
              have hcount : leafCount (leaves ++ trees) = leafCount (leaves₂ ++ (trees₂ ++ [s.join t])) := by
                rw [leafCount_perm hperm, leafCount_perm hjoined, leafCount_join]
              rw [hcount]
              refine ih (fun g hg => ?_) ?_
              · rcases List.mem_cons.mp (hjoined.mem_iff.mp hg) with rfl | hg
                · exact (hmem s (by simp)).join (hmem t (by simp))
                · exact hmem g (List.mem_cons_of_mem _ (List.mem_cons_of_mem _ hg))
              · have hlength := hperm.length_eq
                rw [hjoined.length_eq]
                simp only [List.length_cons] at hlength ⊢
                omega

/-! ### Counts

How many codewords there are of each length, added up with a value for each of them. -/

def tally (value : Nat → Nat) (counts : List Nat) : Nat :=
  ∑ l ∈ Finset.range counts.length, counts.getD l 0 * value l

theorem tally_set (value : Nat → Nat) {counts : List Nat} {i : Nat} (hi : i < counts.length) (v : Nat) :
    tally value (counts.set i v) + counts.getD i 0 * value i = tally value counts + v * value i := by
  have hmem := Finset.mem_range.mpr hi
  have hothers : ∑ l ∈ (Finset.range counts.length).erase i, (counts.set i v).getD l 0 * value l =
      ∑ l ∈ (Finset.range counts.length).erase i, counts.getD l 0 * value l := by
    refine Finset.sum_congr rfl fun l hl => ?_
    rw [getD_set, if_neg fun h => Finset.ne_of_mem_erase hl h.1.symm]
  have hset : (counts.set i v).getD i 0 = v := by rw [getD_set, if_pos ⟨rfl, hi⟩]
  rw [tally, tally, List.length_set, ← Finset.add_sum_erase _ _ hmem, hothers, hset,
    ← Finset.add_sum_erase _ (fun l => counts.getD l 0 * value l) hmem]
  omega

/-- One codeword of a length is taken away. -/
theorem tally_drop (value : Nat → Nat) {counts : List Nat} {i : Nat} (hused : 0 < counts.getD i 0)
    (hi : i < counts.length) : tally value (counts.set i (counts.getD i 0 - 1)) + value i = tally value counts := by
  have hset := tally_set value hi (counts.getD i 0 - 1)
  have hone : counts.getD i 0 * value i = (counts.getD i 0 - 1) * value i + value i := by
    rw [← Nat.succ_mul, Nat.succ_eq_add_one, Nat.sub_add_cancel hused]
  omega

/-- One codeword of a length is split into two longer ones. -/
def splitAt (i : Nat) (counts : List Nat) : List Nat :=
  (counts.set i (counts.getD i 0 - 1)).set (i + 1) (counts.getD (i + 1) 0 + 2)

theorem tally_splitAt (value : Nat → Nat) {counts : List Nat} {i : Nat} (hused : 0 < counts.getD i 0)
    (hi : i + 1 < counts.length) :
    tally value (splitAt i counts) + value i = tally value counts + 2 * value (i + 1) := by
  have hdrop := tally_drop value hused (Nat.lt_of_succ_lt hi)
  have hnext : (counts.set i (counts.getD i 0 - 1)).getD (i + 1) 0 = counts.getD (i + 1) 0 := by
    rw [getD_set, if_neg (by omega)]
  have hlength : i + 1 < (counts.set i (counts.getD i 0 - 1)).length := by rwa [List.length_set]
  have hset := tally_set value hlength (counts.getD (i + 1) 0 + 2)
  rw [hnext, Nat.add_mul] at hset
  rw [splitAt]
  omega

theorem le_getD_splitAt {counts : List Nat} {i l : Nat} (hl : l ≠ i) :
    counts.getD l 0 ≤ (splitAt i counts).getD l 0 := by
  rw [splitAt, getD_set, getD_set]
  split
  · rename_i h
    rw [← h.1]
    exact Nat.le_add_right _ _
  · rw [if_neg fun h => hl h.1.symm]

theorem getD_splitAt_zero {counts : List Nat} {i : Nat} (hi : 0 < i) :
    (splitAt i counts).getD 0 0 = counts.getD 0 0 := by
  rw [splitAt, getD_set, getD_set, if_neg (by omega), if_neg (by omega)]

/-! ### Lengths that are cut -/

theorem share_self {width : Nat} (h : 0 < width) : share width width = 1 := by
  rw [share, if_pos ⟨h, Nat.le_refl _⟩, Nat.sub_self, Nat.pow_zero]

/-- A codeword has the share of the two that it is split into. -/
theorem share_split {width length : Nat} (hpos : 0 < length) (hlt : length < width) :
    share width length = 2 * share width (length + 1) := by
  rw [share, if_pos ⟨hpos, Nat.le_of_lt hlt⟩, share, if_pos ⟨Nat.succ_pos _, hlt⟩, ← Nat.pow_succ']
  congr 1
  omega

/-- If no codeword is shorter than the greatest length, then each has one share at the most. -/
theorem tally_share_le {greatest : Nat} {counts : List Nat} (hlength : counts.length = greatest + 1)
    (hnone : ∀ l, 0 < l → l < greatest → counts.getD l 0 = 0) :
    tally (share greatest) counts ≤ tally (fun _ => 1) counts := by
  refine Finset.sum_le_sum fun l hl => ?_
  rw [hlength, Finset.mem_range] at hl
  by_cases hbetween : 0 < l ∧ l < greatest
  · rw [hnone l hbetween.1 hbetween.2, Nat.zero_mul, Nat.zero_mul]
  · refine Nat.mul_le_mul_left _ ?_
    unfold share
    split
    · obtain rfl : l = greatest := by omega
      rw [Nat.sub_self, Nat.pow_zero]
    · exact Nat.zero_le _

/-- Counts of codewords up to a greatest length that take too much room, by as many shares as there are moves to be
made. Each move needs a codeword of that length. -/
structure Overfull (greatest total moves : Nat) (counts : List Nat) : Prop where
  length_eq : counts.length = greatest + 1
  no_empty : counts.getD 0 0 = 0
  total_eq : tally (fun _ => 1) counts = total
  shares : tally (share greatest) counts = 2 ^ greatest + moves
  moves_le : moves ≤ counts.getD greatest 0

/-- A move gives one share back. -/
theorem Overfull.rebalance {greatest total moves : Nat} {counts : List Nat} (hpos : 0 < greatest)
    (htotal : total ≤ 2 ^ greatest) (h : Overfull greatest total (moves + 1) counts) :
    Overfull greatest total moves (rebalance greatest counts) := by
  obtain ⟨hlength, hempty, hcount, hshares, hmoves⟩ := h
  have hdrop := fun value => tally_drop value (by omega : 0 < counts.getD greatest 0) (by omega)
  have hget := fun l => getD_set counts greatest (counts.getD greatest 0 - 1) l
  have hlength' : (counts.set greatest (counts.getD greatest 0 - 1)).length = greatest + 1 := by
    rw [List.length_set, hlength]
  have hcount' := hdrop fun _ => 1
  have hshares' := hdrop (share greatest)
  have hempty' := hget 0
  have hmoves' := hget greatest
  rw [share_self hpos] at hshares'
  rw [if_neg (by omega)] at hempty'
  rw [if_pos ⟨rfl, by omega⟩] at hmoves'
  unfold Deflate.rebalance
  dsimp only
  generalize counts.set greatest (counts.getD greatest 0 - 1) = counts' at *
  split
  · rename_i hnone
    have hle : tally (share greatest) counts' ≤ tally (fun _ => 1) counts' := by
      refine tally_share_le hlength' fun l hl hlt => ?_
      have hfind := List.find?_eq_none.mp hnone l
      simpa using hfind (by simp only [List.mem_reverse, List.mem_range'_1]; omega)
    omega
  · rename_i i hsome
    have hi : 0 < i ∧ i < greatest := by
      have hmem := List.mem_of_find?_eq_some hsome
      simp only [List.mem_reverse, List.mem_range'_1] at hmem
      omega
    have hused : 0 < counts'.getD i 0 := Nat.pos_of_ne_zero (by simpa using List.find?_some hsome)
    have hsplit := fun value => tally_splitAt value hused (by omega)
    have hcount₂ := hsplit fun _ => 1
    have hshares₂ := hsplit (share greatest)
    rw [share_split hi.1 hi.2] at hshares₂
    have hgreatest : counts'.getD greatest 0 ≤ _ := le_getD_splitAt (Nat.ne_of_gt hi.2)
    refine ⟨?_, (getD_splitAt_zero hi.1).trans (hempty'.trans hempty), ?_, ?_, ?_⟩
    · rw [List.length_set, List.length_set, hlength']
    · exact (by omega : tally (fun _ => 1) (splitAt i counts') = total)
    · exact (by omega : tally (share greatest) (splitAt i counts') = 2 ^ greatest + moves)
    · exact (by omega : moves ≤ (splitAt i counts').getD greatest 0)

theorem Overfull.foldl {greatest total moves : Nat} {counts : List Nat} (hpos : 0 < greatest)
    (htotal : total ≤ 2 ^ greatest) (h : Overfull greatest total moves counts) :
    Overfull greatest total 0
      ((List.range moves).foldl (fun counts _ => Deflate.rebalance greatest counts) counts) := by
  have hmoves : ∀ n ≤ moves, Overfull greatest total (moves - n)
      ((List.range n).foldl (fun counts _ => Deflate.rebalance greatest counts) counts) := by
    intro n hn
    induction n with
    | zero => exact h
    | succ n ih =>
        rw [List.range_succ, List.foldl_append, List.foldl_cons, List.foldl_nil]
        have hprevious := ih (Nat.le_of_succ_le hn)
        rw [show moves - n = moves - (n + 1) + 1 by omega] at hprevious
        exact hprevious.rebalance hpos htotal
  simpa only [Nat.sub_self] using hmoves moves (Nat.le_refl _)

theorem tally_map (value : Nat → Nat) (n : Nat) (counts : Nat → Nat) :
    tally value ((List.range n).map counts) = ∑ l ∈ Finset.range n, counts l * value l := by
  rw [tally, List.length_map, List.length_range]
  refine Finset.sum_congr rfl fun l hl => ?_
  rw [List.getD_eq_getElem?_getD, List.getElem?_map, List.getElem?_range (Finset.mem_range.mp hl)]
  rfl

/-- The room that counts take is added up without codewords of no length. -/
theorem foldl_shares (greatest : Nat) (counts : Nat → Nat) :
    (((List.range (greatest + 1)).map counts).zip (List.range (greatest + 1))).foldl
      (fun n e => if e.2 = 0 then n else n + (e.1 <<< (greatest - e.2))) 0 =
    tally (share greatest) ((List.range (greatest + 1)).map counts) := by
  have hzip : ((List.range (greatest + 1)).map counts).zip (List.range (greatest + 1)) =
      (List.range (greatest + 1)).map fun l => (counts l, l) := List.map_prod_right_eq_zip.symm
  have hfold : ∀ n ≤ greatest + 1, (List.range n).foldl
      (fun n l => if l = 0 then n else n + (counts l <<< (greatest - l))) 0 =
      ∑ l ∈ Finset.range n, counts l * share greatest l := by
    intro n hn
    induction n with
    | zero => rfl
    | succ n ih =>
        rw [List.range_succ, List.foldl_append, ih (Nat.le_of_succ_le hn), List.foldl_cons, List.foldl_nil,
          Finset.sum_range_succ, share]
        split
        · rw [if_neg (by omega), Nat.mul_zero, Nat.add_zero]
        · rw [if_pos (by omega), Nat.shiftLeft_eq]
  rw [hzip, List.foldl_map, tally_map]
  exact hfold _ (Nat.le_refl _)

/-- Cut depths take at least the room of all leaves, and each leaf that is cut takes at most one share more. -/
theorem shares_of_cut {greatest width : Nat} (hgreatest : 0 < greatest) (hwidth : greatest ≤ width)
    {depths : List Nat} (h : ∀ d ∈ depths, 0 < d ∧ d ≤ width) :
    (depths.map fun d => 2 ^ (width - d)).sum ≤
        ((depths.map (min greatest)).map (share greatest)).sum * 2 ^ (width - greatest) ∧
      ((depths.map (min greatest)).map (share greatest)).sum * 2 ^ (width - greatest) ≤
        (depths.map fun d => 2 ^ (width - d)).sum +
          (depths.map (min greatest)).count greatest * 2 ^ (width - greatest) := by
  induction depths with
  | nil => simp
  | cons d depths ih =>
      obtain ⟨hlower, hupper⟩ := ih fun e he => h e (List.mem_cons_of_mem _ he)
      obtain ⟨hpos, hd⟩ := h d List.mem_cons_self
      simp only [List.map_cons, List.sum_cons, Nat.add_mul, List.count_cons, beq_iff_eq]
      rcases Nat.lt_or_ge d greatest with hlt | hge
      · have hshare : share greatest (min greatest d) * 2 ^ (width - greatest) = 2 ^ (width - d) := by
          rw [Nat.min_eq_right (Nat.le_of_lt hlt), share, if_pos ⟨hpos, Nat.le_of_lt hlt⟩, ← Nat.pow_add]
          congr 1
          omega
        rw [hshare]
        omega
      · have hshare : share greatest (min greatest d) = 1 := by rw [Nat.min_eq_left hge, share_self hgreatest]
        have hpow : 2 ^ (width - d) ≤ 2 ^ (width - greatest) := Nat.pow_le_pow_right (by decide) (by omega)
        rw [hshare, if_pos (Nat.min_eq_left hge), Nat.one_mul]
        refine ⟨Nat.add_le_add hpow hlower, ?_⟩
        rw [← Nat.add_assoc, Nat.add_comm]
        exact Nat.add_le_add_right (Nat.le_trans hupper (Nat.add_le_add_right (Nat.le_add_left _ _) _)) _

theorem share_le (width length : Nat) : share width length ≤ 2 ^ width := by
  unfold share
  split
  · exact Nat.pow_le_pow_right (by decide) (Nat.sub_le _ _)
  · exact Nat.zero_le _

/-- Cut depths take too much room by one share at the most for each codeword of the greatest length. -/
theorem LeafDepths.shares_of_cut {greatest : Nat} (hgreatest : 0 < greatest) {depths : List Nat}
    (hpos : ∀ d ∈ depths, 0 < d) (h : LeafDepths depths) :
    2 ^ greatest ≤ ((depths.map (min greatest)).map (share greatest)).sum ∧
      ((depths.map (min greatest)).map (share greatest)).sum ≤
        2 ^ greatest + (depths.map (min greatest)).count greatest := by
  have hwidth : ∀ d ∈ depths, d ≤ greatest + depths.sum := fun d hd =>
    Nat.le_trans (List.le_sum_of_mem hd) (Nat.le_add_left _ _)
  obtain ⟨hlower, hupper⟩ := Deflate.shares_of_cut hgreatest (Nat.le_add_right greatest depths.sum)
    fun d hd => ⟨hpos d hd, hwidth d hd⟩
  rw [h _ hwidth, Nat.add_sub_cancel_left, Nat.pow_add] at hlower hupper
  rw [← Nat.add_mul] at hupper
  have hpositive := Nat.two_pow_pos depths.sum
  exact ⟨Nat.le_of_mul_le_mul_right hlower hpositive, Nat.le_of_mul_le_mul_right hupper hpositive⟩

/-- Counts of codewords up to a greatest length. With more than one of them no room is left. -/
structure Rations (greatest total : Nat) (counts : List Nat) : Prop where
  length_eq : counts.length = greatest + 1
  no_empty : counts.getD 0 0 = 0
  total_eq : tally (fun _ => 1) counts = total
  room : tally (share greatest) counts ≤ 2 ^ greatest
  full : 1 < total → tally (share greatest) counts = 2 ^ greatest

/-- How many of the lengths there are of each length. -/
def countsOf (greatest : Nat) (lengths : List Nat) : List Nat :=
  (List.range (greatest + 1)).map fun l => lengths.count l

theorem length_countsOf (greatest : Nat) (lengths : List Nat) :
    (countsOf greatest lengths).length = greatest + 1 := by
  rw [countsOf, List.length_map, List.length_range]

theorem getD_countsOf {greatest l : Nat} (lengths : List Nat) (hl : l ≤ greatest) :
    (countsOf greatest lengths).getD l 0 = lengths.count l := by
  rw [countsOf, List.getD_eq_getElem?_getD, List.getElem?_map, List.getElem?_range (Nat.lt_succ_of_le hl)]
  rfl

theorem tally_countsOf (value : Nat → Nat) {greatest : Nat} {lengths : List Nat} (h : ∀ l ∈ lengths, l ≤ greatest) :
    tally value (countsOf greatest lengths) = (lengths.map value).sum := by
  rw [countsOf, tally_map]
  induction lengths with
  | nil => simp
  | cons c lengths ih =>
      have hc : c < greatest + 1 := Nat.lt_succ_of_le (h c List.mem_cons_self)
      simp only [List.count_cons, beq_iff_eq, Nat.add_mul, Finset.sum_add_distrib, ite_mul, one_mul, Nat.zero_mul,
        Finset.sum_ite_eq, Finset.mem_range, hc, if_true, List.map_cons, List.sum_cons]
      rw [ih fun l hl => h l (List.mem_cons_of_mem _ hl), Nat.add_comm]

theorem limitedCounts_eq (greatest : Nat) (depths : List Nat) :
    limitedCounts greatest depths =
      if depths.length ≤ 1 then countsOf greatest (depths.map (min greatest))
      else (List.range (tally (share greatest) (countsOf greatest (depths.map (min greatest))) - 2 ^ greatest)).foldl
        (fun counts _ => rebalance greatest counts) (countsOf greatest (depths.map (min greatest))) := by
  unfold limitedCounts
  simp only [foldl_shares, Nat.one_shiftLeft]
  rfl

theorem rations_limitedCounts {greatest total : Nat} {depths : List Nat} (hpos : 0 < greatest)
    (htotal : total ≤ 2 ^ greatest) (h : LeafDepths.Of total depths) :
    Rations greatest total (limitedCounts greatest depths) := by
  have hcut : ∀ l ∈ depths.map (min greatest), l ≤ greatest := by
    intro l hl
    obtain ⟨d, -, rfl⟩ := List.mem_map.mp hl
    exact Nat.min_le_left _ _
  have hshares := tally_countsOf (share greatest) hcut
  have hempty : (countsOf greatest (depths.map (min greatest))).getD 0 0 = 0 := by
    rw [getD_countsOf _ (Nat.zero_le _), List.count_eq_zero]
    intro hmem
    obtain ⟨d, hd, hmin⟩ := List.mem_map.mp hmem
    have hd := h.pos d hd
    omega
  have hcount : tally (fun _ => 1) (countsOf greatest (depths.map (min greatest))) = total := by
    rw [tally_countsOf _ hcut, List.map_const', List.sum_replicate_nat, Nat.mul_one, List.length_map, h.length_eq]
  rw [limitedCounts_eq, h.length_eq]
  split
  · rename_i hfew
    refine ⟨length_countsOf _ _, hempty, hcount, ?_, fun hmany => absurd hfew (Nat.not_le_of_lt hmany)⟩
    rw [hshares]
    match depths, h.length_eq with
    | [], _ => exact Nat.zero_le _
    | [d], _ => exact share_le _ _
    | _ :: _ :: _, hlong =>
        simp only [List.length_cons] at hlong
        omega
  · rename_i hmany
    obtain ⟨hlower, hupper⟩ := (h.full (Nat.lt_of_not_le hmany)).shares_of_cut hpos h.pos
    rw [← hshares] at hlower hupper
    rw [← getD_countsOf _ (Nat.le_refl _)] at hupper
    have hover : Overfull greatest total
        (tally (share greatest) (countsOf greatest (depths.map (min greatest))) - 2 ^ greatest) _ :=
      ⟨length_countsOf _ _, hempty, hcount, by omega, by omega⟩
    have hfull := hover.foldl hpos htotal
    exact ⟨hfull.length_eq, hfull.no_empty, hfull.total_eq, Nat.le_of_eq hfull.shares, fun _ => hfull.shares⟩

end PaymentCredentials.Deflate
