import PaymentCredentials.Proofs.SignedFields

/-!
Maps in messages, whatever order their entries come in. The canonical form of a map is made of its entries
in ascending order of their bytes, and there is only one such order. So the signed bytes of a message, and
every signature made over them, do not depend on the order in which its maps hand out their entries.
-/
namespace PaymentCredentials

/-- The order that canonical forms are written in is the lexicographic one. -/
theorem Bytes.le_iff_le {s t : Bytes} : Bytes.le s t = true ↔ s ≤ t := by
  induction s generalizing t with
  | nil => simp [Bytes.le]
  | cons a s ih =>
      cases t with
      | nil => simp [Bytes.le]
      | cons b t => rw [Bytes.le_cons, ih, List.cons_le_cons_iff]

namespace Canonical

/-- The first entry comes before the second in ascending byte order of keys and, under the same key, of values;
or both are the same. -/
def Ascends (a b : String × String) : Prop :=
  utf8 a.1 < utf8 b.1 ∨ utf8 a.1 = utf8 b.1 ∧ utf8 a.2 ≤ utf8 b.2

instance : DecidableRel Ascends := fun _ _ => inferInstanceAs (Decidable (_ ∨ _))

theorem entryLe_iff_ascends {a b : String × String} : entryLe a b = true ↔ Ascends a b := by
  unfold entryLe Ascends
  by_cases hkey : a.1 = b.1
  · rw [if_pos hkey, textLe, Bytes.le_iff_le, hkey]
    simp only [List.lt_irrefl, true_and, false_or]
  · have hne : utf8 a.1 ≠ utf8 b.1 := fun h => hkey (utf8_inj.mp h)
    rw [if_neg hkey, textLe, Bytes.le_iff_le, List.le_iff_lt_or_eq]
    simp only [hne, or_false, false_and]

/-- A list of entries has an ascending order. -/
theorem exists_ascending (entries : List (String × String)) :
    ∃ sorted, entries.Perm sorted ∧ sorted.Pairwise Ascends := by
  refine ⟨entries.mergeSort entryLe, (List.mergeSort_perm entries entryLe).symm, ?_⟩
  exact (pairwise_mergeSort_entryLe entries).imp entryLe_iff_ascends.mp

/-- Entries in ascending order are written as they stand. -/
theorem mergeSort_of_ascending {sorted : List (String × String)} (h : sorted.Pairwise Ascends) :
    sorted.mergeSort entryLe = sorted :=
  List.mergeSort_of_pairwise (h.imp entryLe_iff_ascends.mpr)

theorem sortedMap_of_perm {entries entries' : List (String × String)} (h : entries.Perm entries') :
    sortedMap entries = sortedMap entries' := by
  rw [sortedMap, sortedMap, mergeSort_eq_iff.mpr h]

/-- The canonical form of a map is written from its entries in ascending order. -/
theorem sortedMap_of_ascending {entries sorted : List (String × String)} (h : entries.Perm sorted)
    (hsorted : sorted.Pairwise Ascends) :
    sortedMap entries = sorted.flatMap fun e => utf8 e.1 ++ utf8 e.2 := by
  rw [sortedMap_of_perm h, sortedMap, mergeSort_of_ascending hsorted]

end Canonical

/-- No signature tells the messages apart: what is signed of them is the same, every key signs them alike, and
the signatures that they carry are authentic under the same keys. -/
structure SignedAlike {α : Type} [Signed α] (m m' : α) : Prop where
  message : Signable.message m = Signable.message m'
  sign : ∀ key, sign m key = sign m' key
  isAuthentic : ∀ key, isAuthentic m key = isAuthentic m' key

/-- Messages with the same stamp are signed alike if their bodies are the same. -/
theorem signedAlike_of_body {α : Type} [Stamped α] {m m' : α} (hbody : Stamped.body m = Stamped.body m')
    (hstamp : Stamped.stamp m = Stamped.stamp m') : SignedAlike m m' := by
  have hmessage : Signable.message m = Signable.message m' := by
    simp only [Signable.message, hbody, hstamp]
  have hsign : ∀ key, sign m key = sign m' key := by
    intro key
    rw [sign, sign, hmessage]
    rfl
  have hsignature : Signed.signature m = Signed.signature m' := congrArg Stamp.signatureBytes hstamp
  refine ⟨hmessage, hsign, fun key => ?_⟩
  rw [isAuthentic, isAuthentic, hsign, hsignature]

/-- **The order of entries does not matter.** Entries with any texts, of which keys may be repeated, have an
ascending order, and their canonical form is made of their keys and values in that order, whatever order they
are given in. So two requests, two responses or two notifications that differ in the order of the entries of
their maps have the same signed bytes, and every signature over these is the same. -/
theorem order_of_entries_irrelevant :
    (∀ entries : List (String × String), ∃ sorted, entries.Perm sorted ∧ sorted.Pairwise Canonical.Ascends) ∧
    (∀ entries sorted : List (String × String), entries.Perm sorted → sorted.Pairwise Canonical.Ascends →
      Canonical.sortedMap entries = sorted.flatMap fun e => utf8 e.1 ++ utf8 e.2) ∧
    (∀ entries entries' : List (String × String), entries.Perm entries' →
      Canonical.sortedMap entries = Canonical.sortedMap entries') ∧
    (∀ (r : InitRequest) (m m' : Option TextMap), TextMap.SameEntries m m' →
      SignedAlike { r with metadata := m } { r with metadata := m' }) ∧
    (∀ (r : InitResponse) (m m' : Option TextMap), TextMap.SameEntries m m' →
      SignedAlike { r with confirmation := { r.confirmation with metadata := m } }
        { r with confirmation := { r.confirmation with metadata := m' } }) ∧
    ∀ (n : Notification) (b b' m m' : Option TextMap), TextMap.SameEntries b b' → TextMap.SameEntries m m' →
      SignedAlike { n with balance := b, metadata := m } { n with balance := b', metadata := m' } := by
  refine ⟨Canonical.exists_ascending, fun _ _ => Canonical.sortedMap_of_ascending,
    fun _ _ => Canonical.sortedMap_of_perm, ?_, ?_, ?_⟩
  · intro r m m' h
    refine signedAlike_of_body ?_ rfl
    simp only [Stamped.body, InitRequest.body, Canonical.sortedMap_of_perm h]
  · intro r m m' h
    refine signedAlike_of_body ?_ rfl
    simp only [Stamped.body, Confirmation.body, Canonical.sortedMap_of_perm h]
  · intro n b b' m m' hbalance hmetadata
    refine signedAlike_of_body ?_ rfl
    simp only [Stamped.body, Notification.body, Canonical.sortedMap_of_perm hbalance,
      Canonical.sortedMap_of_perm hmetadata]

/-- Entries with keys of which one begins another, and with a key and an entry that come twice. -/
def crowded : List (String × String) :=
  [("b", "2"), ("ä", "x"), ("a", "b0"), ("ab", ""), ("a", "1"), ("a", "b0")]

def crowdedAscending : List (String × String) :=
  [("a", "1"), ("a", "b0"), ("a", "b0"), ("ab", ""), ("b", "2"), ("ä", "x")]

/-- Balances in two currencies, and the same ones in the other order. -/
def balances : TextMap := ⟨[("EUR", "10.5"), ("CHF", "-3")], by decide⟩

def balancesReversed : TextMap := ⟨[("CHF", "-3"), ("EUR", "10.5")], by decide⟩

/-- The general statement at these entries and balances. -/
theorem order_of_entries_irrelevant_crowded :
    crowded.Perm crowdedAscending ∧ crowdedAscending.Pairwise Canonical.Ascends ∧
      Canonical.sortedMap crowded = utf8 "a1ab0ab0abb2äx" ∧
      SignedAlike { InitRequest.blank with metadata := some balances }
        { InitRequest.blank with metadata := some balancesReversed } ∧
      SignedAlike { Notification.blank with balance := some balances, metadata := none }
        { Notification.blank with balance := some balancesReversed, metadata := some .empty } := by
  have hperm : crowded.Perm crowdedAscending := by decide
  have hascending : crowdedAscending.Pairwise Canonical.Ascends := by decide +kernel
  have hbalances : TextMap.SameEntries (some balances) (some balancesReversed) := List.Perm.swap _ _ _
  have hnone : TextMap.SameEntries none (some .empty) := List.Perm.refl _
  obtain ⟨-, hwritten, -, hrequest, -, hnotification⟩ := order_of_entries_irrelevant
  refine ⟨hperm, hascending, (hwritten _ _ hperm hascending).trans (by decide +kernel), ?_, ?_⟩
  · exact hrequest .blank _ _ hbalances
  · exact hnotification .blank _ _ _ _ hbalances hnone

end PaymentCredentials
