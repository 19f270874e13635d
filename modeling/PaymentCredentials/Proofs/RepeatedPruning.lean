import PaymentCredentials.Proofs.NewestKey

/-!
Pruning twice at one time. The time at which a key was superseded is not held with the key: it is read off the
key in front of it. So if a key is let go of and one behind it is kept, the kept one counts from then on as
superseded when some newer key was added, and the second pruning takes it away. If a pruning takes away the
oldest keys only, the second one finds nothing to do. The former can happen under a window only, and only if
the clock was set back between two additions or a leap second is measured unevenly.
-/
namespace PaymentCredentials

namespace Keychain

/-- When the key at a place of a list was superseded. The first one was superseded at the given time, if it
was, every other one when the key in front of it was added. -/
def supersededAt (superseded : Option Instant) (entries : List KeychainEntry) : Nat → Option Instant
  | 0 => superseded
  | i + 1 => entries[i]?.map (·.addedAt)

/-- Whether a policy keeps the key at a place of a list. The first one has the given position. -/
def keepsAt (policy : RetentionPolicy) (now : Instant) (position : Nat) (superseded : Option Instant)
    (entries : List KeychainEntry) (i : Nat) : Bool :=
  policy.retains (position + i) (supersededAt superseded entries i) now

/-- A policy keeps every key of a list that stands in front of one that it keeps. -/
def KeepsFront (policy : RetentionPolicy) (now : Instant) (position : Nat) (superseded : Option Instant)
    (entries : List KeychainEntry) : Prop :=
  ∀ i j, i < j → j < entries.length → keepsAt policy now position superseded entries j = true →
    keepsAt policy now position superseded entries i = true

/-- Pruned at a time, a keychain lets go of its oldest keys only. -/
def PrunesOldest (c : Keychain) (now : Instant) : Prop := KeepsFront c.retention now 0 none c.entries

variable {policy : RetentionPolicy} {now t : Instant} {position position' : Nat} {superseded : Option Instant}
  {entry : KeychainEntry} {older history : List KeychainEntry}

theorem keepsAt_succ (superseded : Option Instant) (i : Nat) :
    keepsAt policy now position superseded (entry :: older) (i + 1) =
      keepsAt policy now (position + 1) (some entry.addedAt) older i := by
  unfold keepsAt
  rw [Nat.add_right_comm position 1 i]
  cases i <;> rfl

theorem retained_eq_nil_iff : retained policy now position superseded history = [] ↔
    ∀ i < history.length, keepsAt policy now position superseded history i = false := by
  induction history generalizing position superseded with
  | nil => simp [retained]
  | cons entry older ih =>
      rw [retained_cons]
      constructor
      · intro hnil i hi
        split at hnil
        · cases hnil
        rename_i hgone
        cases i with
        | zero => exact Bool.eq_false_iff.mpr hgone
        | succ i =>
            rw [keepsAt_succ]
            exact ih.mp hnil i (Nat.lt_of_succ_lt_succ hi)
      · intro hgone
        have hfirst : policy.retains position superseded now = false := hgone 0 (Nat.succ_pos _)
        rw [hfirst, if_neg Bool.false_ne_true, ih]
        intro i hi
        rw [← keepsAt_succ superseded]
        exact hgone (i + 1) (Nat.succ_lt_succ hi)

theorem keepsFront_of_retained_eq_nil (h : retained policy now position superseded history = []) :
    KeepsFront policy now position superseded history := by
  intro i j _ hj hkept
  rw [retained_eq_nil_iff.mp h j hj] at hkept
  cases hkept

/-- All keys in front of a kept one are kept just in case nothing is kept behind a first key that is let go
of, and the same holds from the second key on. -/
theorem keepsFront_cons : KeepsFront policy now position superseded (entry :: older) ↔
    (policy.retains position superseded now = false →
      retained policy now (position + 1) (some entry.addedAt) older = []) ∧
      KeepsFront policy now (position + 1) (some entry.addedAt) older := by
  constructor
  · intro h
    constructor
    · intro hgone
      rw [retained_eq_nil_iff]
      intro i hi
      rw [← keepsAt_succ superseded, Bool.eq_false_iff]
      intro hkept
      have hfirst : policy.retains position superseded now = true :=
        h 0 (i + 1) (Nat.succ_pos i) (Nat.succ_lt_succ hi) hkept
      rw [hgone] at hfirst
      cases hfirst
    · intro i j hij hj hkept
      rw [← keepsAt_succ superseded] at hkept ⊢
      exact h (i + 1) (j + 1) (Nat.succ_lt_succ hij) (Nat.succ_lt_succ hj) hkept
  · rintro ⟨hfirst, hrest⟩ i j hij hj hkept
    obtain ⟨j, rfl⟩ : ∃ k, j = k + 1 := ⟨j - 1, by omega⟩
    have hj := Nat.lt_of_succ_lt_succ hj
    rw [keepsAt_succ] at hkept
    cases i with
    | zero =>
        cases hgone : policy.retains position superseded now with
        | true => exact hgone
        | false =>
            rw [retained_eq_nil_iff.mp (hfirst hgone) j hj] at hkept
            cases hkept
    | succ i =>
        rw [keepsAt_succ]
        exact hrest i j (Nat.lt_of_succ_lt_succ hij) hj hkept

/-- Where only the oldest keys are let go of, what is kept is kept again. -/
theorem retained_idem (h : KeepsFront policy now position superseded history) :
    retained policy now position superseded (retained policy now position superseded history) =
      retained policy now position superseded history := by
  induction history generalizing position superseded with
  | nil => rfl
  | cons entry older ih =>
      obtain ⟨hfirst, hrest⟩ := keepsFront_cons.mp h
      rw [retained_cons]
      cases hkept : policy.retains position superseded now with
      | true => rw [if_pos rfl, retained_cons, hkept, if_pos rfl, ih hrest]
      | false =>
          rw [if_neg Bool.false_ne_true, hfirst hkept]
          rfl

/-- Farther in front a key may be kept that was let go of where it was. Then it was let go of for its place, and
nothing behind it is kept. -/
theorem retained_eq_nil_of_place (hle : position' ≤ position)
    (hfront : policy.retains position' (some t) now = true) (hgone : policy.retains position (some t) now = false)
    (s : Instant) (older : List KeychainEntry) : retained policy now (position + 1) (some s) older = [] := by
  cases policy with
  | unbounded => cases hgone
  | keepLatest count =>
      rw [retained_keepLatest_of_superseded]
      simp only [RetentionPolicy.retains, decide_eq_false_iff_not] at hgone
      rw [Nat.sub_eq_zero_of_le (by omega), List.take_zero]
  | overlapWindow secs =>
      rw [RetentionPolicy.retains_overlapWindow] at hfront hgone
      rw [hgone] at hfront
      cases hfront

/-- Behind a key that is let go of nothing is kept, if all that is kept there is kept again in its place or in
front of it. -/
theorem retained_eq_nil_of_length_eq (hle : position' ≤ position)
    (hgone : policy.retains position (some t) now = false) (s : Instant) (older : List KeychainEntry)
    (h : (retained policy now position' (some t) (retained policy now (position + 1) (some s) older)).length =
      (retained policy now (position + 1) (some s) older).length) :
    retained policy now (position + 1) (some s) older = [] := by
  cases hfront : policy.retains position' (some t) now with
  | true => exact retained_eq_nil_of_place hle hfront hgone s older
  | false =>
      cases hkept : retained policy now (position + 1) (some s) older with
      | nil => rfl
      | cons first rest =>
          -- The first of the kept keys now counts as superseded when the one let go of did.
          rw [hkept, retained_cons, hfront, if_neg Bool.false_ne_true, List.length_cons] at h
          have hshorter := (retained_sublist policy now (position' + 1) (some first.addedAt) rest).length_le
          omega

/-- If what is kept is kept again, at places that are no farther back, only the oldest keys were let go of. -/
theorem keepsFront_of_length_eq (hle : position' ≤ position)
    (h : (retained policy now position' superseded (retained policy now position superseded history)).length =
      (retained policy now position superseded history).length) :
    KeepsFront policy now position superseded history := by
  induction history generalizing position position' superseded with
  | nil =>
      intro i j _ hj
      cases hj
  | cons entry older ih =>
      rw [retained_cons] at h
      cases hkept : policy.retains position superseded now with
      | true =>
          have hfront := RetentionPolicy.retains_of_le hkept hle
          rw [hkept, if_pos rfl, retained_cons, hfront, if_pos rfl, List.length_cons, List.length_cons] at h
          refine keepsFront_cons.mpr ⟨?_, ih (Nat.succ_le_succ hle) (Nat.succ.inj h)⟩
          intro hgone
          cases hkept.symm.trans hgone
      | false =>
          obtain ⟨t, rfl⟩ := RetentionPolicy.exists_superseded hkept
          rw [hkept, if_neg Bool.false_ne_true] at h
          have hnil := retained_eq_nil_of_length_eq hle hkept entry.addedAt older h
          exact keepsFront_cons.mpr ⟨fun _ => hnil, keepsFront_of_retained_eq_nil hnil⟩

/-- Of keys that are measured in the order in which they were added only the oldest are let go of. -/
theorem keepsFront_of_aged (hpast : ∀ t ∈ superseded, ∀ e ∈ history, policy.NoLonger t now e.addedAt now)
    (haged : Aged policy now history) : KeepsFront policy now position superseded history := by
  induction history generalizing position superseded with
  | nil =>
      intro i j _ hj
      cases hj
  | cons entry older ih =>
      obtain ⟨hnewer, hrest⟩ := List.pairwise_cons.mp haged
      have hbehind : ∀ t ∈ some entry.addedAt, ∀ e ∈ older, policy.NoLonger t now e.addedAt now := by
        rintro t ⟨⟩
        exact hnewer
      refine keepsFront_cons.mpr ⟨?_, ih hbehind hrest⟩
      intro hgone
      obtain ⟨t, rfl⟩ := RetentionPolicy.exists_superseded hgone
      have hnext := RetentionPolicy.retains_eq_false hgone (Nat.le_succ position)
        (hpast t rfl entry List.mem_cons_self)
      exact retained_eq_nil hnext hnewer hrest

variable {c : Keychain}

theorem evictions_prune_eq_zero_iff :
    (c.prune now).evictions now = 0 ↔ c.PrunesOldest now := by
  have hcount := (c.prune now).keyCount_prune_add_evictions now
  constructor
  · intro hnone
    rw [hnone, Nat.add_zero] at hcount
    exact keepsFront_of_length_eq (Nat.le_refl 0) hcount
  · intro h
    have hsame : ((c.prune now).prune now).keyCount = (c.prune now).keyCount :=
      congrArg List.length (retained_idem h)
    omega

theorem prune_prune_eq_iff : (c.prune now).prune now = c.prune now ↔ c.PrunesOldest now := by
  constructor
  · intro hsame
    exact keepsFront_of_length_eq (Nat.le_refl 0) (congrArg (fun d => d.entries.length) hsame)
  · intro h
    exact congrArg (Keychain.mk · c.retention) (retained_idem h)

end Keychain

namespace KeychainCall

open Keychain

/-- No key was added at an earlier instant than one before it. -/
def AddedInOrder (calls : List KeychainCall) : Prop :=
  (added calls).Pairwise fun newer older => newer.addedAt.before older.addedAt = false

/-- At an instant no less time is measured since a key was added than since one after it was. -/
def MeasuredInOrder (calls : List KeychainCall) (now : Instant) : Prop :=
  (added calls).Pairwise fun newer older => newer.addedAt.secondsUntil now ≤ older.addedAt.secondsUntil now

instance (calls : List KeychainCall) : Decidable (AddedInOrder calls) :=
  inferInstanceAs (Decidable (List.Pairwise _ _))

instance (calls : List KeychainCall) (now : Instant) : Decidable (MeasuredInOrder calls now) :=
  inferInstanceAs (Decidable (List.Pairwise _ _))

theorem measuredInOrder_of_plain {calls : List KeychainCall} {now : Instant} (horder : AddedInOrder calls)
    (hnow : now.isLeap = false) (hplain : ∀ entry ∈ added calls, entry.addedAt.isLeap = false) :
    MeasuredInOrder calls now := by
  refine List.Pairwise.imp_of_mem (fun {newer older} hnewer holder hbefore => ?_) horder
  exact Instant.secondsUntil_le_of_plain (hplain newer hnewer) (hplain older holder) hnow hnow hbefore
    now.not_before_self

theorem prunesOldest_of_aged {policy : RetentionPolicy} {calls : List KeychainCall} {now : Instant}
    (haged : Aged policy now (added calls)) : (run (empty policy) calls).PrunesOldest now := by
  have hheld : Aged policy now (run (empty policy) calls).entries :=
    haged.sublist (held_run_empty policy calls).1
  unfold PrunesOldest
  rw [retention_run]
  refine keepsFront_of_aged ?_ hheld
  intro t ht
  cases ht

/-- **Pruning twice.** Whatever the calls of a run and their times, pruning again at one time takes away nothing
and changes nothing just in case the first pruning took away the oldest keys only, that is, no key in front of
one that it kept. Without a window this is always so. Under a window it is so at any time up to which the keys are
measured in the order in which they were added, and outside of leap seconds that is any time at all, if no key was
added at an earlier instant than one before it. -/
theorem prune_prune_iff (policy : RetentionPolicy) (calls : List KeychainCall) (now : Instant) :
    (((run (empty policy) calls).prune now).evictions now = 0 ↔ (run (empty policy) calls).PrunesOldest now) ∧
      (((run (empty policy) calls).prune now).prune now = (run (empty policy) calls).prune now ↔
        (run (empty policy) calls).PrunesOldest now) ∧
      ((∀ secs, policy ≠ .overlapWindow secs) ∨ MeasuredInOrder calls now →
        (run (empty policy) calls).PrunesOldest now) ∧
      (AddedInOrder calls → now.isLeap = false → (∀ entry ∈ added calls, entry.addedAt.isLeap = false) →
        MeasuredInOrder calls now) := by
  refine ⟨evictions_prune_eq_zero_iff, prune_prune_eq_iff, ?_, measuredInOrder_of_plain⟩
  intro h
  apply prunesOldest_of_aged
  cases policy with
  | unbounded => exact List.pairwise_of_forall fun _ _ => trivial
  | keepLatest count => exact List.pairwise_of_forall fun _ _ => trivial
  | overlapWindow secs =>
      rcases h with hpolicy | horder
      · exact absurd rfl (hpolicy secs)
      · exact horder

/-- Three keys, the third one added when a clock that had been a hundred seconds fast was set right. -/
def clockSetBack : List KeychainCall :=
  [.add ⟨[0x0A]⟩ (.atSecond 1000), .add ⟨[0x0B]⟩ (.atSecond 1100), .add ⟨[0x0C]⟩ (.atSecond 1000)]

/-- Pruned as soon as the clock is back where it was, a window of a minute loses the second key, and pruned again
at the same time the first key too, which was superseded in that very second. -/
theorem pruned_twice_evicts :
    ((run (empty (.overlapWindow 60)) clockSetBack).prune (.atSecond 1100)).entries =
        [⟨⟨[0x0C]⟩, .atSecond 1000⟩, ⟨⟨[0x0A]⟩, .atSecond 1000⟩] ∧
      ((run (empty (.overlapWindow 60)) clockSetBack).prune (.atSecond 1100)).evictions (.atSecond 1100) = 1 ∧
      (((run (empty (.overlapWindow 60)) clockSetBack).prune (.atSecond 1100)).prune (.atSecond 1100)).entries =
        [⟨⟨[0x0C]⟩, .atSecond 1000⟩] := by
  decide +kernel

-- Across a leap second this happens although the clock was never set back.
example : AddedInOrder (acrossLeapSecond.take 3) ∧
    ¬MeasuredInOrder (acrossLeapSecond.take 3) (.atSecond 1435708860) ∧
    ((run (empty (.overlapWindow 60)) (acrossLeapSecond.take 3)).prune (.atSecond 1435708860)).evictions
      (.atSecond 1435708860) = 1 := by
  decide +kernel

end KeychainCall

end PaymentCredentials
