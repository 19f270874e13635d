import PaymentCredentials.Proofs.KeychainHistory

/-!
Keychains whatever the clock says. Calls whose times go back may make a keychain evict keys from the middle
of what it holds, but never the newest one, and what is held stays in the order it was added in.
-/
namespace PaymentCredentials

namespace Keychain

/-- No policy lets go of the newest key of a list. -/
theorem head?_retained (policy : RetentionPolicy) (now : Instant) (history : List KeychainEntry) :
    (retained policy now 0 none history).head? = history.head? := by
  cases history with
  | nil => rfl
  | cons entry older => rw [retained_newest, List.head?_cons, List.head?_cons]

theorem newest_eq (c : Keychain) :
    c.newest = (c.entries.head?.map (·.key)).elim (.error .noKeys) .ok := by
  unfold newest
  cases c.entries <;> rfl

theorem exists_newest {c : Keychain} (h : c.entries ≠ []) : ∃ key, c.newest = .ok key := by
  obtain ⟨entry, older, hentries⟩ := List.exists_cons_of_ne_nil h
  refine ⟨entry.key, ?_⟩
  rw [newest, hentries]

end Keychain

namespace KeychainCall

open Keychain

/-- A call adds in front of what is held, and takes away behind the newest key. -/
theorem entries_next (c : Keychain) (call : KeychainCall) :
    (next c call).entries.Sublist (call.entry?.toList ++ c.entries) ∧
      (next c call).entries.head? = (call.entry?.toList ++ c.entries).head? := by
  rcases next_cases c call with ⟨-, hentry, hnext⟩ | ⟨time, -, hentry, hnext⟩ |
    ⟨key, time, -, hentry, hnext⟩
  · rw [hentry, hnext]
    exact ⟨List.Sublist.refl _, rfl⟩
  · rw [hentry, hnext]
    exact ⟨retained_sublist _ _ _ _ _, head?_retained _ _ _⟩
  · rw [hentry, hnext]
    exact ⟨retained_sublist _ _ _ _ _, head?_retained _ _ _⟩

theorem entries_run (c : Keychain) (calls : List KeychainCall) :
    (run c calls).entries.Sublist (added calls ++ c.entries) ∧
      (run c calls).entries.head? = (added calls ++ c.entries).head? := by
  induction calls generalizing c with
  | nil => exact ⟨List.Sublist.refl _, rfl⟩
  | cons call calls ih =>
      obtain ⟨hsublist, hhead⟩ := entries_next c call
      obtain ⟨hsublistRun, hheadRun⟩ := ih (next c call)
      rw [run_cons, added_cons, List.append_assoc]
      constructor
      · exact hsublistRun.trans (hsublist.append_left _)
      · rw [hheadRun, List.head?_append, List.head?_append, hhead]

theorem held_run_empty (policy : RetentionPolicy) (calls : List KeychainCall) :
    (run (empty policy) calls).entries.Sublist (added calls) ∧
      (run (empty policy) calls).entries.head? = (added calls).head? := by
  have h := entries_run (empty policy) calls
  rwa [show (empty policy).entries = [] from rfl, List.append_nil] at h

/-- **The newest key survives.** Whatever the policy and whatever the times of the calls, what is held after a
run that starts with nothing is some of what was added, in the order it was added in, with the key that was
added last as the newest one; only if no key was added is there none. -/
theorem newest_survives (policy : RetentionPolicy) (calls : List KeychainCall) :
    (run (empty policy) calls).entries.Sublist (added calls) ∧
      (run (empty policy) calls).newest = ((added calls).head?.map (·.key)).elim (.error .noKeys) .ok ∧
      ((run (empty policy) calls).entries = [] ↔ added calls = []) := by
  obtain ⟨hsublist, hhead⟩ := held_run_empty policy calls
  refine ⟨hsublist, ?_, ?_⟩
  · rw [newest_eq, hhead]
  · rw [← List.head?_eq_none_iff, hhead, List.head?_eq_none_iff]

end KeychainCall

end PaymentCredentials
