import PaymentCredentials.Keychain
import PaymentCredentials.Proofs.Seconds

/-!
What a retention policy keeps of a list of keys, newest first. Where time is measured evenly, time only takes keys
away, and a key that is let go of takes the older ones with it. So what was let go of once is not missed by the
policy later: it keeps the same keys of the whole list and of what it kept of the list at an earlier time. Leap
seconds can be measured unevenly.
-/
namespace PaymentCredentials

namespace RetentionPolicy

/-- An instant is no later than another, as far as a policy looks at times. -/
def NotAfter (policy : RetentionPolicy) (s t : Instant) : Prop :=
  match policy with
  | .unbounded | .keepLatest _ => True
  | .overlapWindow _ => t.before s = false

/-- No more time passes between two instants than between two others, as far as a policy looks at times. -/
def NoLonger (policy : RetentionPolicy) (s t s' t' : Instant) : Prop :=
  match policy with
  | .unbounded | .keepLatest _ => True
  | .overlapWindow _ => s.secondsUntil t ≤ s'.secondsUntil t'

/-- Time is measured evenly among instants, as far as a policy looks at times. -/
def Even (policy : RetentionPolicy) (instants : List Instant) : Prop :=
  match policy with
  | .unbounded | .keepLatest _ => True
  | .overlapWindow _ => Instant.Even instants

variable {policy : RetentionPolicy} {instants : List Instant} {s t u now later : Instant}
  {position position' : Nat}

theorem NotAfter.refl (policy : RetentionPolicy) (t : Instant) : policy.NotAfter t t := by
  cases policy with
  | unbounded => trivial
  | keepLatest count => trivial
  | overlapWindow secs => exact t.not_before_self

theorem NotAfter.trans (hs : policy.NotAfter s t) (ht : policy.NotAfter t u) : policy.NotAfter s u := by
  cases policy with
  | unbounded => trivial
  | keepLatest count => trivial
  | overlapWindow secs => exact Instant.not_before_trans hs ht

theorem NoLonger.refl (policy : RetentionPolicy) (s t : Instant) : policy.NoLonger s t s t := by
  cases policy with
  | unbounded => trivial
  | keepLatest count => trivial
  | overlapWindow secs => exact Int.le_refl _

/-- Where time is measured evenly, a part of a time is no longer than the whole. -/
theorem noLonger_of_even (heven : policy.Even instants) (hs : s ∈ instants) (ht : t ∈ instants)
    (hu : u ∈ instants) (hst : policy.NotAfter s t) (htu : policy.NotAfter t u) :
    policy.NoLonger s t s u ∧ policy.NoLonger t u s u := by
  cases policy with
  | unbounded => exact ⟨trivial, trivial⟩
  | keepLatest count => exact ⟨trivial, trivial⟩
  | overlapWindow secs => exact heven s hs t ht u hu hst htu

theorem retains_overlapWindow (secs : UInt64) (position : Nat) (s now : Instant) :
    (overlapWindow secs).retains position (some s) now = decide (s.secondsUntil now < secs.toNat) := by
  rw [Bool.eq_iff_iff]
  simp only [retains, Bool.or_eq_true, decide_eq_true_eq]
  omega

/-- What is let go of in one place is not kept farther back where no less time has passed. -/
theorem retains_eq_false (hgone : policy.retains position (some t) now = false)
    (hposition : position ≤ position') (hlonger : policy.NoLonger t now s later) :
    policy.retains position' (some s) later = false := by
  cases policy with
  | unbounded => cases hgone
  | keepLatest count =>
      simp only [retains, decide_eq_false_iff_not] at hgone ⊢
      omega
  | overlapWindow secs =>
      rw [retains_overlapWindow, decide_eq_false_iff_not] at hgone ⊢
      exact fun hkept => hgone (Int.lt_of_le_of_lt hlonger hkept)

/-- What is kept in one place is kept farther in front. -/
theorem retains_of_le {superseded : Option Instant} (hkept : policy.retains position' superseded now = true)
    (hle : position ≤ position') : policy.retains position superseded now = true := by
  cases superseded with
  | none => rfl
  | some t =>
      cases hfront : policy.retains position (some t) now with
      | true => rfl
      | false =>
          have hgone := retains_eq_false hfront hle (.refl policy t now)
          cases hkept.symm.trans hgone

/-- Only a key that was superseded is let go of. -/
theorem exists_superseded {superseded : Option Instant} (hgone : policy.retains position superseded now = false) :
    ∃ t, superseded = some t := by
  cases superseded with
  | none => cases hgone
  | some t => exact ⟨t, rfl⟩

end RetentionPolicy

namespace Keychain

variable {policy : RetentionPolicy} {now later : Instant} {position position' : Nat}
  {superseded superseded' : Option Instant} {history : List KeychainEntry}

theorem retained_cons (entry : KeychainEntry) (older : List KeychainEntry) :
    retained policy now position superseded (entry :: older) =
      if policy.retains position superseded now then
        entry :: retained policy now (position + 1) (some entry.addedAt) older
      else retained policy now (position + 1) (some entry.addedAt) older := rfl

/-- The newest key of a list has not been superseded. -/
theorem retained_newest (entry : KeychainEntry) (older : List KeychainEntry) :
    retained policy now 0 none (entry :: older) = entry :: retained policy now 1 (some entry.addedAt) older :=
  rfl

theorem retained_sublist (policy : RetentionPolicy) (now : Instant) (position : Nat)
    (superseded : Option Instant) (history : List KeychainEntry) :
    (retained policy now position superseded history).Sublist history := by
  induction history generalizing position superseded with
  | nil => exact List.Sublist.slnil
  | cons entry older ih =>
      rw [retained_cons]
      split
      · exact (ih _ _).cons_cons entry
      · exact (ih _ _).cons entry

/-- At an instant no less time has passed since an older key of a list was added than since a newer one was, as far
as a policy looks at times. -/
def Aged (policy : RetentionPolicy) (now : Instant) (history : List KeychainEntry) : Prop :=
  history.Pairwise fun newer older => policy.NoLonger newer.addedAt now older.addedAt now

/-- Behind a key that is let go of, no key is kept. -/
theorem retained_eq_nil {t : Instant} (hgone : policy.retains position (some t) now = false)
    (hpast : ∀ entry ∈ history, policy.NoLonger t now entry.addedAt now) (haged : Aged policy now history) :
    retained policy now position (some t) history = [] := by
  induction history generalizing position t with
  | nil => rfl
  | cons entry older ih =>
      obtain ⟨hnewer, hrest⟩ := List.pairwise_cons.mp haged
      have hnext : policy.retains (position + 1) (some entry.addedAt) now = false :=
        RetentionPolicy.retains_eq_false hgone (Nat.le_succ _) (hpast entry List.mem_cons_self)
      rw [retained_cons, hgone, if_neg Bool.false_ne_true]
      exact ih hnext hnewer hrest

/-- What is kept later of what was kept before is what is kept later of the whole list, if the front of the
list is let go of in the later place once it is in the earlier one. -/
theorem retained_retained (hposition : position ≤ position')
    (hlater : ∀ entry ∈ history, policy.NoLonger entry.addedAt now entry.addedAt later)
    (hfront : policy.retains position superseded now = false →
      policy.retains position' superseded' later = false)
    (hpast : ∀ t ∈ superseded, ∀ entry ∈ history, policy.NoLonger t now entry.addedAt now)
    (haged : Aged policy now history) (hagedLater : Aged policy later history) :
    retained policy later position' superseded' (retained policy now position superseded history) =
      retained policy later position' superseded' history := by
  induction history generalizing position position' superseded superseded' with
  | nil => rfl
  | cons entry older ih =>
      obtain ⟨hentry, hlater⟩ := List.forall_mem_cons.mp hlater
      obtain ⟨hnewer, hrest⟩ := List.pairwise_cons.mp haged
      obtain ⟨hnewerLater, hrestLater⟩ := List.pairwise_cons.mp hagedLater
      have hbehind : ∀ t ∈ some entry.addedAt, ∀ e ∈ older, policy.NoLonger t now e.addedAt now := by
        rintro t ⟨⟩
        exact hnewer
      -- Once the key behind is let go of, it is so later.
      have hnext : policy.retains (position + 1) (some entry.addedAt) now = false →
          policy.retains (position' + 1) (some entry.addedAt) later = false :=
        fun hgone => RetentionPolicy.retains_eq_false hgone (Nat.succ_le_succ hposition) hentry
      cases hkept : policy.retains position superseded now with
      | true =>
          rw [retained_cons, hkept, if_pos rfl, retained_cons, retained_cons,
            ih (Nat.succ_le_succ hposition) hlater hnext hbehind hrest hrestLater]
      | false =>
          obtain ⟨t, rfl⟩ := RetentionPolicy.exists_superseded hkept
          have hgone : policy.retains (position + 1) (some entry.addedAt) now = false :=
            RetentionPolicy.retains_eq_false hkept (Nat.le_succ _) (hpast t rfl entry List.mem_cons_self)
          rw [retained_cons, hkept, if_neg Bool.false_ne_true, retained_cons, hfront hkept,
            if_neg Bool.false_ne_true, retained_eq_nil hgone hnewer hrest,
            retained_eq_nil (hnext hgone) hnewerLater hrestLater]
          rfl

/-! ### The policies one by one -/

theorem retained_unbounded (now : Instant) (position : Nat) (superseded : Option Instant)
    (history : List KeychainEntry) : retained .unbounded now position superseded history = history := by
  induction history generalizing position superseded with
  | nil => rfl
  | cons entry older ih =>
      rw [retained_cons, ih]
      cases superseded <;> rfl

theorem retained_keepLatest_of_superseded (count : UInt64) (now : Instant) (position : Nat) (t : Instant)
    (history : List KeychainEntry) : retained (.keepLatest count) now position (some t) history =
      history.take (max 1 count.toNat - position) := by
  induction history generalizing position t with
  | nil => rw [List.take_nil, retained]
  | cons entry older ih =>
      rw [retained_cons, ih]
      simp only [RetentionPolicy.retains, decide_eq_true_eq, Nat.max_comm count.toNat 1]
      split
      · rename_i hkept
        rw [← List.take_succ_cons]
        congr 1
        omega
      · rename_i hgone
        rw [Nat.sub_eq_zero_of_le (Nat.le_of_not_lt hgone),
          Nat.sub_eq_zero_of_le (Nat.le_succ_of_le (Nat.le_of_not_lt hgone))]
        rfl

theorem retained_keepLatest (count : UInt64) (now : Instant) (history : List KeychainEntry) :
    retained (.keepLatest count) now 0 none history = history.take (max 1 count.toNat) := by
  cases history with
  | nil => rw [List.take_nil, retained]
  | cons entry older =>
      rw [retained_newest, retained_keepLatest_of_superseded, ← List.take_succ_cons]
      congr 1
      omega

/-- The newest key of a list, and those older ones that were superseded less than a count of whole seconds
ago. A key is superseded when the next newer one is added. -/
def overlapping (secs : Nat) (now : Instant) (history : List KeychainEntry) : List KeychainEntry :=
  history.take 1 ++
    ((history.zip history.tail).filter fun pair => pair.1.addedAt.secondsUntil now < (secs : Int)).map Prod.snd

theorem retained_overlapWindow_of_superseded (secs : UInt64) (now : Instant) (position : Nat)
    (newer : KeychainEntry) (older : List KeychainEntry) :
    retained (.overlapWindow secs) now position (some newer.addedAt) older =
      (((newer :: older).zip older).filter fun pair =>
        pair.1.addedAt.secondsUntil now < (secs.toNat : Int)).map Prod.snd := by
  induction older generalizing position newer with
  | nil => rfl
  | cons entry older ih =>
      rw [retained_cons, RetentionPolicy.retains_overlapWindow, ih, List.zip_cons_cons, List.filter_cons]
      split <;> rfl

theorem retained_overlapWindow (secs : UInt64) (now : Instant) (history : List KeychainEntry) :
    retained (.overlapWindow secs) now 0 none history = overlapping secs.toNat now history := by
  cases history with
  | nil => rfl
  | cons entry older =>
      rw [retained_newest, retained_overlapWindow_of_superseded]
      rfl

section

variable {secs : UInt64}

theorem retains_of_recent {superseded : Option Instant}
    (h : ∀ s ∈ superseded, s.secondsUntil now < (secs.toNat : Int)) (position : Nat) :
    (RetentionPolicy.overlapWindow secs).retains position superseded now = true := by
  cases superseded with
  | none => rfl
  | some s =>
      rw [RetentionPolicy.retains_overlapWindow]
      exact decide_eq_true (h s rfl)

/-- A window lets go of nothing before it has passed. -/
theorem retained_of_recent {superseded : Option Instant} (position : Nat)
    (hsuperseded : ∀ s ∈ superseded, s.secondsUntil now < (secs.toNat : Int))
    (hrecent : ∀ e ∈ history, e.addedAt.secondsUntil now < (secs.toNat : Int)) :
    retained (.overlapWindow secs) now position superseded history = history := by
  induction history generalizing position superseded with
  | nil => rfl
  | cons entry older ih =>
      obtain ⟨hentry, holder⟩ := List.forall_mem_cons.mp hrecent
      have hnext : ∀ s ∈ some entry.addedAt, s.secondsUntil now < (secs.toNat : Int) := by
        rintro s ⟨⟩
        exact hentry
      rw [retained_cons, if_pos (retains_of_recent hsuperseded position), ih (position + 1) hnext holder]

end

end Keychain

end PaymentCredentials
