import PaymentCredentials.Canonical
import PaymentCredentials.TextMap

/-!
Maps in canonical forms. The order of entries is total, so that a map is written in one way whatever
order its entries are given in.
-/
namespace PaymentCredentials.Canonical

theorem entryLe_total (a b : String × String) : entryLe a b = true ∨ entryLe b a = true := by
  unfold entryLe
  by_cases h : a.1 = b.1
  · rw [if_pos h, if_pos h.symm]
    exact textLe_total a.2 b.2
  · rw [if_neg h, if_neg (Ne.symm h)]
    exact textLe_total a.1 b.1

theorem entryLe_trans {a b c : String × String} (hab : entryLe a b = true) (hbc : entryLe b c = true) :
    entryLe a c = true := by
  unfold entryLe at hab hbc ⊢
  by_cases h : a.1 = b.1 <;> by_cases h' : b.1 = c.1
  · rw [if_pos h] at hab
    rw [if_pos h'] at hbc
    rw [if_pos (h.trans h')]
    exact textLe_trans hab hbc
  · rw [if_neg h'] at hbc
    rw [if_neg (h ▸ h'), h]
    exact hbc
  · rw [if_neg h] at hab
    rw [if_neg (h' ▸ h), ← h']
    exact hab
  · rw [if_neg h] at hab
    rw [if_neg h'] at hbc
    have hne : a.1 ≠ c.1 := by
      intro hac
      rw [← hac] at hbc
      exact h (textLe_antisymm hab hbc)
    rw [if_neg hne]
    exact textLe_trans hab hbc

theorem entryLe_antisymm {a b : String × String} (hab : entryLe a b = true) (hba : entryLe b a = true) :
    a = b := by
  unfold entryLe at hab hba
  by_cases h : a.1 = b.1
  · rw [if_pos h] at hab
    rw [if_pos h.symm] at hba
    exact Prod.ext h (textLe_antisymm hab hba)
  · rw [if_neg h] at hab
    rw [if_neg (Ne.symm h)] at hba
    exact absurd (textLe_antisymm hab hba) h

theorem pairwise_mergeSort_entryLe (entries : List (String × String)) :
    (entries.mergeSort entryLe).Pairwise (entryLe · · = true) := by
  apply List.pairwise_mergeSort
  · exact fun _ _ _ => entryLe_trans
  · intro a b
    rw [Bool.or_eq_true]
    exact entryLe_total a b

/-- Entries in another order are sorted alike. -/
theorem mergeSort_eq_iff {entries entries' : List (String × String)} :
    entries.mergeSort entryLe = entries'.mergeSort entryLe ↔ entries.Perm entries' := by
  constructor
  · intro h
    calc entries.Perm (entries.mergeSort entryLe) := (List.mergeSort_perm entries entryLe).symm
      _ = entries'.mergeSort entryLe := h
      List.Perm _ entries' := List.mergeSort_perm entries' entryLe
  · intro h
    have hperm : (entries.mergeSort entryLe).Perm (entries'.mergeSort entryLe) := by
      calc (entries.mergeSort entryLe).Perm entries := List.mergeSort_perm entries entryLe
        List.Perm _ entries' := h
        List.Perm _ (entries'.mergeSort entryLe) := (List.mergeSort_perm entries' entryLe).symm
    exact List.Perm.eq_of_pairwise (fun _ _ _ _ => entryLe_antisymm) (pairwise_mergeSort_entryLe entries)
      (pairwise_mergeSort_entryLe entries') hperm

/-- The keys and values of a map as they stand in its canonical form. A map that is unset has none. -/
def mapPieces (m : Option TextMap) : List Bytes :=
  ((m.getD .empty).entries.mergeSort entryLe).flatMap fun e => [utf8 e.1, utf8 e.2]

theorem flatten_mapPieces (m : Option TextMap) :
    (mapPieces m).flatten = sortedMap (m.getD .empty).entries := by
  unfold mapPieces sortedMap
  induction (m.getD .empty).entries.mergeSort entryLe with
  | nil => rfl
  | cons e rest ih =>
      simp only [List.flatMap_cons, List.cons_append, List.nil_append, List.flatten_cons, ih,
        List.append_assoc]

theorem pairs_inj {l l' : List (String × String)}
    (h : (l.flatMap fun e => [utf8 e.1, utf8 e.2]) = l'.flatMap fun e => [utf8 e.1, utf8 e.2]) : l = l' := by
  induction l generalizing l' with
  | nil =>
      cases l' with
      | nil => rfl
      | cons e rest => exact absurd h.symm (List.cons_ne_nil _ _)
  | cons d front ih =>
      cases l' with
      | nil => exact absurd h (List.cons_ne_nil _ _)
      | cons e rest =>
          simp only [List.flatMap_cons, List.cons_append, List.nil_append, List.cons.injEq] at h
          rw [Prod.ext (utf8_inj.mp h.1) (utf8_inj.mp h.2.1), ih h.2.2]

/-- Two maps have the same pieces just in case they have the same entries. -/
theorem mapPieces_eq_iff {m n : Option TextMap} :
    mapPieces m = mapPieces n ↔ (m.getD .empty).entries.Perm (n.getD .empty).entries := by
  constructor
  · intro h
    exact mergeSort_eq_iff.mp (pairs_inj h)
  · intro h
    rw [mapPieces, mapPieces, mergeSort_eq_iff.mpr h]

end PaymentCredentials.Canonical
