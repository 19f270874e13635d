import Mathlib.Data.Set.Card
import PaymentCredentials.Proofs.NonceTracking

/-!
Stores of nonces in use. What a store that was empty at first remembers is told by its history alone: the
nonces of the accepted marks behind which no purge went beyond the expiry that came with the mark. Marks
that are refused leave no trace, whatever expiry they come with.
-/
namespace PaymentCredentials

/-- A call of a store of nonces: a nonce is marked as used until an expiry, or what has expired is purged. -/
inductive NonceCall
  | mark (scope nonce : String) (expiry : Int64)
  | purge (limit : Int64)

namespace NonceStore

variable {s : NonceStore} {scope nonce : String} {expiry limit : Int64}

/-- The nonces that a store remembers, each with its scope. -/
def pairs (s : NonceStore) : List (String × String) :=
  s.scopes.flatMap fun t => t.used.map fun u => (t.name, u.1)

theorem length_pairs (s : NonceStore) : s.pairs.length = s.count := by
  simp only [pairs, count, List.length_flatMap, List.length_map]

theorem mem_pairs_iff : (scope, nonce) ∈ s.pairs ↔ s.contains scope nonce = true := by
  simp only [contains_iff, Tracks, pairs, List.mem_flatMap, List.mem_map, Prod.mk.injEq]
  constructor
  · rintro ⟨t, ht, u, hu, hname, rfl⟩
    exact ⟨u.2, t, ht, hname, hu⟩
  · rintro ⟨expiry, t, ht, hname, hu⟩
    exact ⟨t, ht, (nonce, expiry), hu, hname, rfl⟩

theorem pairs_insertInto (scope nonce : String) (expiry : Int64) (scopes : List NonceScope) :
    (pairs ⟨insertInto scope nonce expiry scopes⟩).Perm ((scope, nonce) :: pairs ⟨scopes⟩) := by
  unfold pairs
  induction scopes with
  | nil => exact List.Perm.refl _
  | cons t rest ih =>
      by_cases ht : t.name = scope
      · simp only [insertInto, ht, if_true, List.flatMap_cons, List.map_cons]
        exact List.Perm.refl _
      · simp only [insertInto, ht, if_false, List.flatMap_cons]
        exact (ih.append_left _).trans List.perm_middle

theorem pairs_purge_sublist (s : NonceStore) (limit : Int64) : (s.purge limit).pairs.Sublist s.pairs := by
  unfold pairs purge
  induction s.scopes with
  | nil => exact List.Sublist.refl _
  | cons t rest ih =>
      have hused : ((t.purge limit).used.map fun u => (t.name, u.1)).Sublist
          (t.used.map fun u => (t.name, u.1)) := List.filter_sublist.map _
      rw [List.map_cons, List.filter_cons, List.flatMap_cons]
      split
      · rw [List.flatMap_cons]
        exact hused.append ih
      · exact ih.trans (List.sublist_append_right _ _)

/-- No nonce is remembered twice, and no scope without nonces is kept. -/
structure Tidy (s : NonceStore) : Prop where
  pairs_nodup : s.pairs.Nodup
  used_ne_nil : ∀ t ∈ s.scopes, t.used ≠ []

theorem tidy_empty : empty.Tidy := by
  constructor
  case pairs_nodup => exact List.nodup_nil
  case used_ne_nil =>
    intro t ht
    cases ht

theorem used_ne_nil_insertInto {scopes : List NonceScope} (h : ∀ t ∈ scopes, t.used ≠ []) :
    ∀ t ∈ insertInto scope nonce expiry scopes, t.used ≠ [] := by
  induction scopes with
  | nil =>
      intro t ht
      rw [insertInto, List.mem_singleton] at ht
      rw [ht]
      exact List.cons_ne_nil _ _
  | cons first rest ih =>
      obtain ⟨hfirst, hrest⟩ := List.forall_mem_cons.mp h
      rw [insertInto]
      split
      · exact List.forall_mem_cons.mpr ⟨List.cons_ne_nil _ _, hrest⟩
      · exact List.forall_mem_cons.mpr ⟨hfirst, ih hrest⟩

theorem checkAndMark_eq (s : NonceStore) (scope nonce : String) (expiry : Int64) :
    s.checkAndMark scope nonce expiry =
      (!s.contains scope nonce,
        if s.contains scope nonce then s else ⟨insertInto scope nonce expiry s.scopes⟩) := by
  rw [checkAndMark]
  cases s.contains scope nonce <;> rfl

theorem checkAndMark_fresh_iff : (s.checkAndMark scope nonce expiry).1 = true ↔ s.contains scope nonce = false := by
  rw [checkAndMark_eq, Bool.not_eq_true']

theorem tidy_checkAndMark (h : s.Tidy) (scope nonce : String) (expiry : Int64) :
    (s.checkAndMark scope nonce expiry).2.Tidy := by
  rw [checkAndMark_eq]
  cases hcontains : s.contains scope nonce with
  | true => exact h
  | false =>
      constructor
      case pairs_nodup =>
        have hnew : (scope, nonce) ∉ s.pairs := by
          rw [mem_pairs_iff, hcontains]
          exact Bool.false_ne_true
        exact (pairs_insertInto scope nonce expiry s.scopes).nodup_iff.mpr
          (List.nodup_cons.mpr ⟨hnew, h.pairs_nodup⟩)
      case used_ne_nil => exact used_ne_nil_insertInto h.used_ne_nil

theorem tidy_purge (h : s.Tidy) (limit : Int64) : (s.purge limit).Tidy := by
  constructor
  case pairs_nodup => exact h.pairs_nodup.sublist (s.pairs_purge_sublist limit)
  case used_ne_nil =>
    intro t ht
    exact of_decide_eq_true (List.mem_filter.mp ht).2

theorem setOf_contains (s : NonceStore) :
    {p : String × String | s.contains p.1 p.2 = true} = (s.pairs.toFinset : Set (String × String)) := by
  ext p
  simp only [Set.mem_ofPred_eq, ← mem_pairs_iff, List.coe_toFinset]

theorem card_pairs (h : s.Tidy) : s.pairs.toFinset.card = s.count := by
  rw [List.toFinset_card_of_nodup h.pairs_nodup, length_pairs]

/-- Every nonce is counted once. -/
theorem encard_contained (h : s.Tidy) :
    {p : String × String | s.contains p.1 p.2 = true}.encard = s.count := by
  rw [setOf_contains, Set.encard_coe_eq_coe_finsetCard, card_pairs h]

/-- What a purge counts is what it forgets. -/
theorem encard_forgotten (h : s.Tidy) (limit : Int64) :
    {p : String × String | s.contains p.1 p.2 = true ∧ ¬ (s.purge limit).contains p.1 p.2 = true}.encard =
      s.expired limit := by
  have hsubset : (s.purge limit).pairs.toFinset ⊆ s.pairs.toFinset := by
    intro p hp
    exact List.mem_toFinset.mpr ((s.pairs_purge_sublist limit).subset (List.mem_toFinset.mp hp))
  calc _ = ((s.pairs.toFinset \ (s.purge limit).pairs.toFinset : Finset (String × String)) :
        Set (String × String)).encard := by
          rw [Finset.coe_sdiff, ← setOf_contains, ← setOf_contains]
          rfl
    _ = ((s.pairs.toFinset \ (s.purge limit).pairs.toFinset).card : ℕ∞) :=
          Set.encard_coe_eq_coe_finsetCard _
    _ = s.expired limit := by
          rw [Finset.card_sdiff_of_subset hsubset, card_pairs h, card_pairs (tidy_purge h limit), expired]

end NonceStore

namespace NonceCall

open NonceStore

/-- The store after a call. -/
def next (s : NonceStore) : NonceCall → NonceStore
  | .mark scope nonce expiry => (s.checkAndMark scope nonce expiry).2
  | .purge limit => s.purge limit

/-- The store after a run. -/
def run (s : NonceStore) (calls : List NonceCall) : NonceStore := calls.foldl next s

theorem run_append_singleton (s : NonceStore) (calls : List NonceCall) (call : NonceCall) :
    run s (calls ++ [call]) = next (run s calls) call := List.foldl_concat _ _ _ _

theorem tidy_next {s : NonceStore} (h : s.Tidy) (call : NonceCall) : (next s call).Tidy := by
  cases call with
  | mark scope nonce expiry => exact tidy_checkAndMark h scope nonce expiry
  | purge limit => exact tidy_purge h limit

theorem tidy_run {s : NonceStore} (h : s.Tidy) (calls : List NonceCall) : (run s calls).Tidy := by
  induction calls generalizing s with
  | nil => exact h
  | cons call calls ih => exact ih (tidy_next h call)

/-- In a run from an empty store a mark of a nonce was accepted with an expiry, and the given calls came
behind it. -/
def Accepted (calls : List NonceCall) (scope nonce : String) (expiry : Int64) (later : List NonceCall) : Prop :=
  ∃ earlier, calls = earlier ++ .mark scope nonce expiry :: later ∧
    ((run .empty earlier).checkAndMark scope nonce expiry).1 = true

/-- Every accepted mark of a nonce was followed by a purge beyond the expiry that came with the mark. -/
def Free (calls : List NonceCall) (scope nonce : String) : Prop :=
  ∀ expiry later, Accepted calls scope nonce expiry later → ∃ limit, .purge limit ∈ later ∧ expiry < limit

variable {s : NonceStore} {scope nonce : String} {expiry : Int64} {calls later : List NonceCall}
  {call : NonceCall}

/-- What is remembered after a call was remembered before it and not purged, or was marked by it. -/
theorem tracks_next_iff : (next s call).Tracks scope nonce expiry ↔
    s.Tracks scope nonce expiry ∧ (∀ limit, call = .purge limit → limit ≤ expiry) ∨
      call = .mark scope nonce expiry ∧ (s.checkAndMark scope nonce expiry).1 = true := by
  cases call with
  | mark scope' nonce' expiry' =>
      rw [next, checkAndMark_eq]
      cases hcontains : s.contains scope' nonce' with
      | true =>
          constructor
          · intro h
            exact Or.inl ⟨h, nofun⟩
          · rintro (⟨h, -⟩ | ⟨hcall, hfresh⟩)
            · exact h
            · cases hcall
              rw [checkAndMark_fresh_iff, hcontains] at hfresh
              cases hfresh
      | false =>
          refine tracks_insertInto.trans ⟨?_, ?_⟩
          · rintro (h | ⟨rfl, rfl, rfl⟩)
            · exact Or.inl ⟨h, nofun⟩
            · exact Or.inr ⟨rfl, checkAndMark_fresh_iff.mpr hcontains⟩
          · rintro (⟨h, -⟩ | ⟨hcall, -⟩)
            · exact Or.inl h
            · cases hcall
              exact Or.inr ⟨rfl, rfl, rfl⟩
  | purge limit =>
      rw [next, tracks_purge]
      simp only [purge.injEq, forall_eq', reduceCtorEq, false_and, or_false]

/-- A mark was accepted in a run with one more call just in case it was accepted before that call, or is that
call. -/
theorem accepted_append_singleton : Accepted (calls ++ [call]) scope nonce expiry later ↔
    (∃ behind, later = behind ++ [call] ∧ Accepted calls scope nonce expiry behind) ∨
      later = [] ∧ call = .mark scope nonce expiry ∧
        ((run .empty calls).checkAndMark scope nonce expiry).1 = true := by
  constructor
  · rintro ⟨earlier, hcalls, hfresh⟩
    rcases List.eq_nil_or_concat later with rfl | ⟨behind, last, rfl⟩
    · obtain ⟨rfl, hcall⟩ := List.append_inj' hcalls rfl
      exact Or.inr ⟨rfl, (List.cons.inj hcall).1, hfresh⟩
    · rw [List.concat_eq_append, ← List.cons_append, ← List.append_assoc] at hcalls
      obtain ⟨rfl, hcall⟩ := List.append_inj' hcalls rfl
      obtain rfl := (List.cons.inj hcall).1
      exact Or.inl ⟨behind, List.concat_eq_append, earlier, rfl, hfresh⟩
  · rintro (⟨behind, rfl, earlier, rfl, hfresh⟩ | ⟨rfl, rfl, hfresh⟩)
    · exact ⟨earlier, List.append_assoc _ _ _, hfresh⟩
    · exact ⟨calls, rfl, hfresh⟩

/-- A store remembers a nonce with an expiry just in case a mark with this expiry was accepted and no purge
behind it went beyond the expiry. -/
theorem tracks_run_iff : (run .empty calls).Tracks scope nonce expiry ↔
    ∃ later, Accepted calls scope nonce expiry later ∧ ∀ limit, .purge limit ∈ later → limit ≤ expiry := by
  induction calls using List.reverseRecOn with
  | nil =>
      constructor
      · rintro ⟨t, ht, -⟩
        cases ht
      · rintro ⟨later, ⟨earlier, hcalls, -⟩, -⟩
        exact absurd hcalls (List.append_ne_nil_of_right_ne_nil _ (List.cons_ne_nil _ _)).symm
  | append_singleton calls call ih =>
      rw [run_append_singleton, tracks_next_iff, ih]
      constructor
      · rintro (⟨⟨later, haccepted, hkept⟩, hcall⟩ | ⟨rfl, hfresh⟩)
        · refine ⟨later ++ [call], accepted_append_singleton.mpr (Or.inl ⟨later, rfl, haccepted⟩), ?_⟩
          intro limit hlimit
          rcases List.mem_append.mp hlimit with hlimit | hlimit
          · exact hkept limit hlimit
          · exact hcall limit (List.mem_singleton.mp hlimit).symm
        · refine ⟨[], accepted_append_singleton.mpr (Or.inr ⟨rfl, rfl, hfresh⟩), ?_⟩
          intro limit hlimit
          cases hlimit
      · rintro ⟨later, haccepted, hkept⟩
        rcases accepted_append_singleton.mp haccepted with ⟨behind, rfl, hbefore⟩ | ⟨-, hcall, hfresh⟩
        · refine Or.inl ⟨⟨behind, hbefore, ?_⟩, ?_⟩
          · intro limit hlimit
            exact hkept limit (List.mem_append_left _ hlimit)
          · rintro limit rfl
            exact hkept limit (List.mem_append_right _ List.mem_cons_self)
        · exact Or.inr ⟨hcall, hfresh⟩

theorem contains_run_iff : (run .empty calls).contains scope nonce = true ↔ ¬ Free calls scope nonce := by
  simp only [contains_iff, tracks_run_iff, Free, not_forall, not_exists, not_and, Int64.not_lt, exists_prop]

/-- **A store of nonces is what its history says.** After any run that starts with an empty store, a mark is
accepted just in case every accepted mark of the nonce before it was followed by a purge beyond its expiry,
and a mark that is refused changes nothing; a nonce is contained just in case it would be refused; the count
is the count of these nonces; a purge tells how many of them there are no more behind it; and no scope is
kept without nonces. -/
theorem implements_history (calls : List NonceCall) :
    (∀ scope nonce expiry,
      (((run .empty calls).checkAndMark scope nonce expiry).1 = true ↔ Free calls scope nonce) ∧
        (((run .empty calls).checkAndMark scope nonce expiry).1 = false →
          ((run .empty calls).checkAndMark scope nonce expiry).2 = run .empty calls)) ∧
      (∀ scope nonce, (run .empty calls).contains scope nonce = true ↔ ¬ Free calls scope nonce) ∧
      (run .empty calls).count = {p : String × String | ¬ Free calls p.1 p.2}.encard ∧
      (∀ limit, (run .empty calls).expired limit =
        {p : String × String | ¬ Free calls p.1 p.2 ∧ Free (calls ++ [.purge limit]) p.1 p.2}.encard) ∧
      ∀ t ∈ (run .empty calls).scopes, t.used ≠ [] := by
  have htidy := tidy_run tidy_empty calls
  refine ⟨?_, ?_, ?_, ?_, htidy.used_ne_nil⟩
  · intro scope nonce expiry
    constructor
    · rw [checkAndMark_fresh_iff, ← Bool.not_eq_true, contains_run_iff, not_not]
    · intro hrefused
      rw [checkAndMark_eq] at hrefused ⊢
      rw [Bool.not_eq_false'] at hrefused
      rw [hrefused]
      rfl
  · intro scope nonce
    exact contains_run_iff
  · rw [← encard_contained htidy]
    simp only [contains_run_iff]
  · intro limit
    have hpurged : (run .empty calls).purge limit = run .empty (calls ++ [.purge limit]) :=
      (run_append_singleton .empty calls (.purge limit)).symm
    rw [← encard_forgotten htidy, hpurged]
    simp only [contains_run_iff, not_not]

/-- A mark that is refused does not put off the expiry: the nonce is free again behind a purge beyond the
expiry it was accepted with. -/
example : ((run .empty [.mark "shop" "n1" 100, .mark "shop" "n1" 900, .purge 101]).checkAndMark "shop" "n1" 50).1 =
    true := by
  decide

end NonceCall

end PaymentCredentials
