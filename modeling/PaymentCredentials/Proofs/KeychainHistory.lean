import PaymentCredentials.Proofs.Results
import PaymentCredentials.Proofs.RetainedKeys

/-!
Keychains in use. A keychain that was empty at first holds what its policy keeps, at the time of the last
call, of all the keys that were ever added, although it evicts at every call and remembers nothing of a key
it evicted.
-/
namespace PaymentCredentials

/-- A call of a keychain: a key is added, a key in hexadecimal text is added when the clock says so, or what
the policy no longer keeps is evicted. -/
inductive KeychainCall
  | add (key : Key) (time : Instant)
  | addHex (text : String) (clock : Instant)
  | prune (now : Instant)
  deriving DecidableEq

namespace KeychainCall

/-- The keychain after a call. -/
def next (c : Keychain) : KeychainCall → Keychain
  | .add key time => c.addAt key time
  | .addHex text clock =>
      match c.addHexAt text clock with
      | .ok d => d
      | .error _ => c
  | .prune now => c.prune now

/-- The time of a call. A text that is no key is refused before the clock is looked at. -/
def time? : KeychainCall → Option Instant
  | .add _ time => some time
  | .addHex text clock => (Key.ofHex text).toOption.map fun _ => clock
  | .prune now => some now

/-- What a call adds, if it adds a key. -/
def entry? : KeychainCall → Option KeychainEntry
  | .add key time => some ⟨key, time⟩
  | .addHex text clock => (Key.ofHex text).toOption.map fun key => ⟨key, clock⟩
  | .prune _ => none

/-- A call without a time does nothing. Every other call evicts at its time, and adds its key before that
if it has one. -/
theorem next_cases (c : Keychain) (call : KeychainCall) :
    (call.time? = none ∧ call.entry? = none ∧ next c call = c) ∨
      (∃ time, call.time? = some time ∧ call.entry? = none ∧ next c call = c.prune time) ∨
      ∃ key time, call.time? = some time ∧ call.entry? = some ⟨key, time⟩ ∧ next c call = c.addAt key time := by
  cases call with
  | add key time => exact Or.inr (Or.inr ⟨key, time, rfl, rfl, rfl⟩)
  | addHex text clock =>
      simp only [time?, entry?, next, Keychain.addHexAt]
      cases Key.ofHex text with
      | error fault => exact Or.inl ⟨rfl, rfl, rfl⟩
      | ok key => exact Or.inr (Or.inr ⟨key, clock, rfl, rfl, rfl⟩)
  | prune now => exact Or.inr (Or.inl ⟨now, rfl, rfl, rfl⟩)

/-- The keychain after a run. -/
def run (c : Keychain) (calls : List KeychainCall) : Keychain := calls.foldl next c

theorem run_cons (c : Keychain) (call : KeychainCall) (calls : List KeychainCall) :
    run c (call :: calls) = run (next c call) calls := rfl

/-- The times of the calls that have one. -/
def times (calls : List KeychainCall) : List Instant := calls.filterMap time?

/-- All that was ever added, newest first. -/
def added (calls : List KeychainCall) : List KeychainEntry := (calls.filterMap entry?).reverse

theorem times_cons (call : KeychainCall) (calls : List KeychainCall) :
    times (call :: calls) = call.time?.toList ++ times calls := by
  unfold times
  cases h : call.time? with
  | none => exact List.filterMap_cons_none h
  | some time => exact List.filterMap_cons_some h

theorem added_cons (call : KeychainCall) (calls : List KeychainCall) :
    added (call :: calls) = added calls ++ call.entry?.toList := by
  unfold added
  cases h : call.entry? with
  | none => rw [List.filterMap_cons_none h, Option.toList_none, List.append_nil]
  | some entry => rw [List.filterMap_cons_some h, List.reverse_cons, Option.toList_some]

/-- No call is made at an earlier instant than one before it. -/
def NeverBack (calls : List KeychainCall) : Prop := (times calls).Pairwise fun s t => t.before s = false

instance (calls : List KeychainCall) : Decidable (NeverBack calls) :=
  inferInstanceAs (Decidable (List.Pairwise _ _))

/-- No call is made at an earlier instant than one before it, and time is measured evenly among the instants. -/
def InOrder (calls : List KeychainCall) : Prop := NeverBack calls ∧ Instant.Even (times calls)

instance (calls : List KeychainCall) : Decidable (InOrder calls) :=
  inferInstanceAs (Decidable (_ ∧ _))

end KeychainCall

namespace Keychain

/-- A keychain holds what its policy keeps at a time of all the keys in a history. They were added one after the
other, none of them later than that, at some of the given instants. -/
structure Shows (c : Keychain) (instants : List Instant) (now : Instant) (history : List KeychainEntry) : Prop where
  entries : c.entries = retained c.retention now 0 none history
  sorted : history.Pairwise fun newer older => c.retention.NotAfter older.addedAt newer.addedAt
  past : ∀ entry ∈ history, entry.addedAt ∈ instants ∧ now ∈ instants ∧ c.retention.NotAfter entry.addedAt now

variable {policy : RetentionPolicy} {c : Keychain} {instants : List Instant} {now time : Instant}
  {history : List KeychainEntry}

theorem aged_of_sorted (heven : policy.Even instants)
    (hsorted : history.Pairwise fun newer older => policy.NotAfter older.addedAt newer.addedAt)
    (hpast : ∀ entry ∈ history, entry.addedAt ∈ instants ∧ now ∈ instants ∧ policy.NotAfter entry.addedAt now) :
    Aged policy now history := by
  refine hsorted.imp_of_mem fun {newer older} hnewer holder horder => ?_
  obtain ⟨hnewerIn, hnow, hbefore⟩ := hpast newer hnewer
  exact (RetentionPolicy.noLonger_of_even heven (hpast older holder).1 hnewerIn hnow horder hbefore).2

theorem shows_empty (policy : RetentionPolicy) (instants : List Instant) (now : Instant) :
    (empty policy).Shows instants now [] := by
  constructor
  case entries => rfl
  case sorted => exact List.Pairwise.nil
  case past =>
    intro entry hentry
    cases hentry

/-- At a later instant all of the history is still past. -/
theorem Shows.past_of_later (h : c.Shows instants now history) (htime : time ∈ instants)
    (hlater : c.retention.NotAfter now time) :
    ∀ entry ∈ history, entry.addedAt ∈ instants ∧ time ∈ instants ∧ c.retention.NotAfter entry.addedAt time := by
  intro entry hentry
  obtain ⟨hadded, -, hnow⟩ := h.past entry hentry
  exact ⟨hadded, htime, hnow.trans hlater⟩

/-- What is kept later of what is held is what is kept later of the whole history, also one place farther back. -/
theorem Shows.retained_eq (h : c.Shows instants now history) (heven : c.retention.Even instants)
    (htime : time ∈ instants) (hlater : c.retention.NotAfter now time) {position : Nat}
    {superseded : Option Instant} :
    retained c.retention time position superseded c.entries =
      retained c.retention time position superseded history := by
  rw [h.entries]
  refine retained_retained (Nat.zero_le position) ?_ ?_ ?_ (aged_of_sorted heven h.sorted h.past)
    (aged_of_sorted heven h.sorted (h.past_of_later htime hlater))
  · intro entry hentry
    obtain ⟨hadded, hnow, hbefore⟩ := h.past entry hentry
    exact (RetentionPolicy.noLonger_of_even heven hadded hnow htime hbefore hlater).1
  · intro hgone
    cases hgone
  · intro t ht
    cases ht

/-- Evicting later from what is held is evicting from the whole history. -/
theorem shows_prune (h : c.Shows instants now history) (heven : c.retention.Even instants)
    (htime : time ∈ instants) (hlater : c.retention.NotAfter now time) :
    (c.prune time).Shows instants time history := by
  constructor
  case entries => exact h.retained_eq heven htime hlater
  case sorted => exact h.sorted
  case past => exact h.past_of_later htime hlater

/-- Adding a key later to what is held, and evicting, is adding it to the whole history. -/
theorem shows_addAt (h : c.Shows instants now history) (heven : c.retention.Even instants)
    (htime : time ∈ instants) (hlater : c.retention.NotAfter now time) (key : Key) :
    (c.addAt key time).Shows instants time (⟨key, time⟩ :: history) := by
  have hpast := h.past_of_later htime hlater
  constructor
  case entries =>
    show retained c.retention time 0 none (⟨key, time⟩ :: c.entries) =
      retained c.retention time 0 none (⟨key, time⟩ :: history)
    rw [retained_newest, retained_newest, h.retained_eq heven htime hlater]
  case sorted => exact List.Pairwise.cons (fun entry hentry => (hpast entry hentry).2.2) h.sorted
  case past => exact List.forall_mem_cons.mpr ⟨⟨htime, htime, .refl c.retention time⟩, hpast⟩

theorem addHexAt_of_malformed (c : Keychain) {text : String} (h : Hex.decode? (Text.trim text) = none)
    (clock : Instant) : c.addHexAt text clock = .error .invalidKey := by
  rw [addHexAt, Key.ofHex, h]
  rfl

theorem keyCount_prune_add_evictions (c : Keychain) (now : Instant) :
    (c.prune now).keyCount + c.evictions now = c.keyCount := by
  have hle : (c.prune now).keyCount ≤ c.keyCount := (retained_sublist _ _ _ _ _).length_le
  exact Nat.add_sub_of_le hle

end Keychain

namespace KeychainCall

open Keychain

variable {c : Keychain} {instants : List Instant} {now : Instant} {history : List KeychainEntry}

theorem retention_next (c : Keychain) (call : KeychainCall) : (next c call).retention = c.retention := by
  rcases next_cases c call with ⟨-, -, hnext⟩ | ⟨time, -, -, hnext⟩ | ⟨key, time, -, -, hnext⟩
  · rw [hnext]
  · rw [hnext, Keychain.prune]
  · rw [hnext, Keychain.addAt]

/-- One call: the keychain was last evicted from at the time of the call, and what the call adds is the
newest part of the history. -/
theorem shows_next (h : c.Shows instants now history) (heven : c.retention.Even instants) (call : KeychainCall)
    (hlater : ∀ time ∈ call.time?, time ∈ instants ∧ c.retention.NotAfter now time) :
    (next c call).Shows instants (call.time?.getD now) (call.entry?.toList ++ history) := by
  rcases next_cases c call with ⟨htime, hentry, hnext⟩ | ⟨time, htime, hentry, hnext⟩ |
    ⟨key, time, htime, hentry, hnext⟩
  · rw [htime, hentry, hnext]
    exact h
  · rw [htime, hentry, hnext]
    exact shows_prune h heven (hlater time htime).1 (hlater time htime).2
  · rw [htime, hentry, hnext]
    exact shows_addAt h heven (hlater time htime).1 (hlater time htime).2 key

/-- A run in order, from the time of the last call before it on. -/
theorem shows_run (h : c.Shows instants now history) (heven : c.retention.Even instants)
    (calls : List KeychainCall) (htimes : ∀ time ∈ times calls, time ∈ instants)
    (horder : (now :: times calls).Pairwise c.retention.NotAfter) :
    (run c calls).Shows instants ((times calls).getLastD now) (added calls ++ history) := by
  induction calls generalizing c now history with
  | nil => exact h
  | cons call calls ih =>
      rw [times_cons] at htimes horder
      have hlater : ∀ time ∈ call.time?, time ∈ instants ∧ c.retention.NotAfter now time := by
        intro time htime
        rw [Option.mem_def.mp htime] at htimes horder
        exact ⟨htimes time List.mem_cons_self, List.rel_of_pairwise_cons horder List.mem_cons_self⟩
      have hrest : ∀ time ∈ times calls, time ∈ instants :=
        fun time htime => htimes time (List.mem_append_right _ htime)
      have hnext := shows_next h heven call hlater
      rw [run_cons, times_cons, added_cons, List.append_assoc]
      rw [← retention_next c call] at heven horder
      cases htime : call.time? with
      | none =>
          rw [htime] at hnext horder
          exact ih hnext heven hrest horder
      | some time =>
          rw [htime] at hnext horder
          rw [Option.toList_some, List.singleton_append, List.getLastD_cons]
          exact ih hnext heven hrest (List.Pairwise.of_cons horder)

theorem retention_run (c : Keychain) (calls : List KeychainCall) : (run c calls).retention = c.retention := by
  induction calls generalizing c with
  | nil => rfl
  | cons call calls ih => rw [run_cons, ih, retention_next]

/-- What is held after a run that starts with nothing is what the policy keeps of all that was added. -/
theorem entries_run_empty {policy : RetentionPolicy} {calls : List KeychainCall}
    (horder : (times calls).Pairwise policy.NotAfter) (heven : policy.Even (times calls)) :
    (run (empty policy) calls).entries =
      retained policy ((times calls).getLastD .earliest) 0 none (added calls) := by
  have hstart : (.earliest :: times calls).Pairwise policy.NotAfter := by
    refine List.Pairwise.cons (fun time _ => ?_) horder
    cases policy with
    | unbounded => trivial
    | keepLatest count => trivial
    | overlapWindow secs => exact time.not_before_earliest
  have hshows := shows_run (shows_empty policy (times calls) .earliest) heven calls (fun _ htime => htime) hstart
  have hentries := hshows.entries
  rwa [retention_run, List.append_nil] at hentries

/-- Without a window no policy looks at times. -/
theorem entries_run_empty_of_no_window {policy : RetentionPolicy} (h : ∀ secs, policy ≠ .overlapWindow secs)
    (calls : List KeychainCall) :
    (run (empty policy) calls).entries =
      retained policy ((times calls).getLastD .earliest) 0 none (added calls) := by
  cases policy with
  | unbounded => exact entries_run_empty (List.pairwise_of_forall fun _ _ => trivial) trivial
  | keepLatest count => exact entries_run_empty (List.pairwise_of_forall fun _ _ => trivial) trivial
  | overlapWindow secs => exact absurd rfl (h secs)

theorem inOrder_of_plain {calls : List KeychainCall} (h : NeverBack calls)
    (hplain : ∀ time ∈ times calls, time.isLeap = false) : InOrder calls := ⟨h, Instant.even_of_plain hplain⟩

/-- Three keys, a text that is none, and a prune one minute after the second key superseded the first. -/
def rotations : List KeychainCall :=
  [.add ⟨[0x0A]⟩ (.atSecond 1000), .add ⟨[0x0B]⟩ (.atSecond 1010), .addHex "0" (.atSecond 1000),
    .addHex "0c" (.atSecond 1020), .prune (.atSecond 1070)]

/-- The leap second at the end of June 2015, half of it past. -/
def inLeapSecond : Instant := (Instant.ofUnix? 1435708799 1500000000).getD .earliest

/-- Three keys, the second one added in a leap second and the third one right after it, and two prunes a minute
later. -/
def acrossLeapSecond : List KeychainCall :=
  [.add ⟨[0x0A]⟩ (.atSecond 1435708000), .add ⟨[0x0B]⟩ inLeapSecond, .add ⟨[0x0C]⟩ (.atSecond 1435708800),
    .prune (.atSecond 1435708860), .prune (.atSecond 1435708860)]

-- These calls never go back, but up to the prunes more time is measured from the third key than from the second, and
-- the first key is evicted although it was superseded within the window.
example : NeverBack acrossLeapSecond ∧ ¬InOrder acrossLeapSecond ∧
    (run (empty (.overlapWindow 60)) acrossLeapSecond).entries = [⟨⟨[0x0C]⟩, .atSecond 1435708800⟩] ∧
    overlapping 60 (.atSecond 1435708860) (added acrossLeapSecond) =
      [⟨⟨[0x0C]⟩, .atSecond 1435708800⟩, ⟨⟨[0x0A]⟩, .atSecond 1435708000⟩] := by
  decide +kernel

end KeychainCall

end PaymentCredentials
