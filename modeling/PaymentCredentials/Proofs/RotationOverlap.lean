import PaymentCredentials.Proofs.KeychainHistory
import PaymentCredentials.Proofs.TokenAcceptance

/-!
Rotation while a session lives. The key that signed a session is superseded no earlier than the session was
issued and is held for a window from then on, so a window that covers the lifetime holds the key until the
session expires. The last instant is the exception: it still belongs to the session, but not to a window that
began at the very instant of issue. In a leap second, too, a window can have passed though the session has not.
-/
namespace PaymentCredentials

namespace Keychain

/-- An entry is recent at all of some times: less than a count of whole seconds lies between. -/
def RecentAt (secs : UInt64) (times : List Instant) (entry : KeychainEntry) : Prop :=
  ∀ time ∈ times, entry.addedAt.secondsUntil time < (secs.toNat : Int)

/-- An entry is held, and all newer ones are recent at some times. -/
def HoldsBehindRecent (c : Keychain) (entry : KeychainEntry) (secs : UInt64) (times : List Instant) : Prop :=
  ∃ newer older, c.entries = newer ++ entry :: older ∧ ∀ e ∈ newer, RecentAt secs times e

variable {c : Keychain} {entry : KeychainEntry} {secs : UInt64} {now : Instant} {times : List Instant}

/-- A window keeps the keys that were added within it, and the one behind them. -/
theorem retained_behind_recent (position : Nat) {superseded : Option Instant} {newer : List KeychainEntry}
    (hsuperseded : ∀ s ∈ superseded, s.secondsUntil now < (secs.toNat : Int))
    (hnewer : ∀ e ∈ newer, e.addedAt.secondsUntil now < (secs.toNat : Int)) (entry : KeychainEntry)
    (older : List KeychainEntry) :
    ∃ kept, retained (.overlapWindow secs) now position superseded (newer ++ entry :: older) =
      newer ++ entry :: kept := by
  induction newer generalizing position superseded with
  | nil =>
      refine ⟨retained (.overlapWindow secs) now (position + 1) (some entry.addedAt) older, ?_⟩
      exact if_pos (retains_of_recent hsuperseded position)
  | cons e newer ih =>
      obtain ⟨he, hrest⟩ := List.forall_mem_cons.mp hnewer
      have hnext : ∀ s ∈ some e.addedAt, s.secondsUntil now < (secs.toNat : Int) := by
        rintro s ⟨⟩
        exact he
      obtain ⟨kept, hkept⟩ := ih (position + 1) hnext hrest
      refine ⟨kept, ?_⟩
      rw [List.cons_append, retained_cons, if_pos (retains_of_recent hsuperseded position), hkept]
      rfl

/-- Evicting at one of the times keeps the entry, and all newer ones. -/
theorem holdsBehindRecent_of_retained {newer older : List KeychainEntry}
    (hentries : c.entries = retained (.overlapWindow secs) now 0 none (newer ++ entry :: older))
    (hnow : now ∈ times) (hnewer : ∀ e ∈ newer, RecentAt secs times e) :
    c.HoldsBehindRecent entry secs times := by
  have hnone : ∀ s ∈ (none : Option Instant), s.secondsUntil now < (secs.toNat : Int) := by
    intro s hs
    cases hs
  have hrecent : ∀ e ∈ newer, e.addedAt.secondsUntil now < (secs.toNat : Int) := by
    intro e he
    exact hnewer e he now hnow
  obtain ⟨kept, hkept⟩ := retained_behind_recent 0 hnone hrecent entry older
  exact ⟨newer, kept, hentries.trans hkept, hnewer⟩

end Keychain

namespace KeychainCall

open Keychain

variable {c : Keychain} {entry : KeychainEntry} {secs : UInt64} {all : List Instant}

/-- What a call adds is added at the time of the call. -/
theorem time?_of_entry? {call : KeychainCall} (h : call.entry? = some entry) :
    call.time? = some entry.addedAt := by
  rcases next_cases (.empty .unbounded) call with ⟨-, hnone, -⟩ | ⟨time, -, hnone, -⟩ |
    ⟨key, time, htime, hentry, -⟩
  · cases hnone.symm.trans h
  · cases hnone.symm.trans h
  · obtain rfl := Option.some.inj (hentry.symm.trans h)
    exact htime

/-- A call at one of the times keeps the entry, if what the call adds is recent at all of them. -/
theorem holdsBehindRecent_next (hretention : c.retention = .overlapWindow secs)
    (h : c.HoldsBehindRecent entry secs all) (call : KeychainCall) (hcall : ∀ time ∈ call.time?, time ∈ all)
    (hadded : ∀ e ∈ call.entry?, RecentAt secs all e) : (next c call).HoldsBehindRecent entry secs all := by
  obtain ⟨newer, older, hentries, hnewer⟩ := h
  rcases next_cases c call with ⟨-, -, hnext⟩ | ⟨time, htime, -, hnext⟩ | ⟨key, time, htime, hentry, hnext⟩
  · rw [hnext]
    exact ⟨newer, older, hentries, hnewer⟩
  · have hpruned : (c.prune time).entries =
        retained (.overlapWindow secs) time 0 none (newer ++ entry :: older) := by
      rw [Keychain.prune, hretention, hentries]
    rw [hnext]
    exact holdsBehindRecent_of_retained hpruned (hcall time htime) hnewer
  · have hgrown : (c.addAt key time).entries =
        retained (.overlapWindow secs) time 0 none ((⟨key, time⟩ :: newer) ++ entry :: older) := by
      rw [Keychain.addAt, hretention, hentries, List.cons_append]
    rw [hnext]
    exact holdsBehindRecent_of_retained hgrown (hcall time htime)
      (List.forall_mem_cons.mpr ⟨hadded _ hentry, hnewer⟩)

/-- A run at some of the times keeps the entry, if all that it adds is recent at all of them. -/
theorem holdsBehindRecent_run (hretention : c.retention = .overlapWindow secs)
    (h : c.HoldsBehindRecent entry secs all) (calls : List KeychainCall) (hcalls : ∀ time ∈ times calls, time ∈ all)
    (hadded : ∀ e ∈ added calls, RecentAt secs all e) : (run c calls).HoldsBehindRecent entry secs all := by
  induction calls generalizing c with
  | nil => exact h
  | cons call calls ih =>
      rw [times_cons, List.forall_mem_append] at hcalls
      rw [added_cons, List.forall_mem_append] at hadded
      have hnext : (next c call).HoldsBehindRecent entry secs all := by
        apply holdsBehindRecent_next hretention h
        · intro time htime
          exact hcalls.1 time (Option.mem_toList.mpr htime)
        · intro e he
          exact hadded.2 e (Option.mem_toList.mpr he)
      rw [← retention_next c call] at hretention
      exact ih hretention hnext hcalls.2 hadded.1

theorem mem_times_of_mem_added {calls : List KeychainCall} (h : entry ∈ added calls) :
    entry.addedAt ∈ times calls := by
  obtain ⟨call, hcall, hentry⟩ := List.mem_filterMap.mp (List.mem_reverse.mp h)
  exact List.mem_filterMap.mpr ⟨call, hcall, time?_of_entry? hentry⟩

end KeychainCall

/-- A key that signed a container is enough for the container to be matched. -/
theorem Keychain.exists_matchKey {c : Keychain} {a : Authorization} {entry : KeychainEntry}
    (hmem : entry ∈ c.entries) (hsigned : a.SignedWith entry.key) : ∃ key, c.matchKey a = .ok key := by
  rw [matchKey_eq_find]
  cases hfind : c.entries.find? fun entry => a.SignedWith entry.key with
  | none =>
      have hnone := List.find?_eq_none.mp hfind entry hmem
      exact absurd (decide_eq_true hsigned) hnone
  | some found => exact ⟨found.key, rfl⟩

namespace SessionAuthority

open KeychainCall

variable {s : SessionAuthority} {claims : Claims} {issuedAt t : Instant} {e e' : Entropy}
  {session : IssuedSession} {secs : UInt64} {calls : List KeychainCall}

/-- What was added after a session was issued is recent as long as the session is not expired, if the window covers
the lifetime and no leap second comes in. -/
theorem secondsUntil_lt_of_issueAt (hlifetime : s.settings.lifetime.nanoseconds ≤ secs.toNat * nanosPerSecond)
    (hissue : s.issueAt claims issuedAt e = .ok (session, e')) {added time : Instant}
    (hafter : issuedAt.before added = true) (hadded : session.expiresAt.before added = false)
    (htime : session.expiresAt.before time = false) (haddedPlain : added.isLeap = false)
    (htimePlain : time.isLeap = false) : added.secondsUntil time < (secs.toNat : Int) := by
  obtain ⟨-, expiresAt, key, salt, counter, hexpires, -, -⟩ := issueAt_cases hissue
  rw [expiresAt_of_issueAt hissue hexpires] at hadded htime
  have hwithin : expiresAt.whole.totalNanos < added.totalNanos + secs.toNat * nanosPerSecond :=
    calc expiresAt.whole.totalNanos < added.totalNanos + s.settings.lifetime.nanoseconds :=
          Instant.totalNanos_whole_lt_of_add? hexpires haddedPlain hafter hadded
      _ ≤ added.totalNanos + secs.toNat * nanosPerSecond := Int.add_le_add_left hlifetime _
  calc added.secondsUntil time ≤ added.secondsUntil expiresAt.whole :=
        Instant.secondsUntil_le_of_plain haddedPlain haddedPlain htimePlain expiresAt.isLeap_whole
          added.not_before_self htime
    _ < (secs.toNat : Int) :=
        Instant.secondsUntil_lt_of_plain haddedPlain expiresAt.isLeap_whole hadded hwithin

/-- The token of an issued session is a container, signed with the newest key. -/
theorem signedWith_of_issueAt (hissue : s.issueAt claims issuedAt e = .ok (session, e')) :
    ∃ entry older a, s.keychain.entries = entry :: older ∧ a.SignedWith entry.key ∧ session.token = a.toWire ∧
      (session.token.utf8ByteSize ≤ Container.maxSize → s.blank.readWire session.token = .ok a) := by
  obtain ⟨hlimit, expiresAt, key, salt, counter, -, hkey, rfl⟩ := issueAt_cases hissue
  obtain ⟨addedAt, older, hentries⟩ := Keychain.entries_of_newest hkey
  exact ⟨⟨key, addedAt⟩, older, (s.issued claims expiresAt key salt counter).closed, hentries, rfl, rfl,
    readWire_handedOut salt counter hlimit⟩

/-- **Rotation while a session lives.** Let a session be issued under a window that covers its lifetime, and
let keys be added and evicted from then on while the session is not expired. Then the key that signed the
session is still held, so the container of its token is matched. If a key was added at the very instant of issue,
no call may come a whole window after that instant. Nor may a call come a whole window after a key was added, as
it is measured, if one of the two instants lies in a leap second. -/
theorem issuer_held_until_expiry (hwindow : s.keychain.retention = .overlapWindow secs)
    (hlifetime : s.settings.lifetime.nanoseconds ≤ secs.toNat * nanosPerSecond)
    (hissue : s.issueAt claims issuedAt e = .ok (session, e'))
    (hcalls : ∀ time ∈ times calls, time.before issuedAt = false ∧ t.before time = false)
    (hlive : session.expiresAt.before t = false)
    (hsame : ∀ rotated ∈ added calls, ∀ time ∈ times calls,
      rotated.addedAt = issuedAt ∨ rotated.addedAt.isLeap = true ∨ time.isLeap = true →
        rotated.addedAt.secondsUntil time < (secs.toNat : Int)) :
    ∃ entry a key, s.keychain.entries.head? = some entry ∧ session.token = a.toWire ∧
      (session.token.utf8ByteSize ≤ Container.maxSize → s.blank.readWire session.token = .ok a) ∧
      a.SignedWith entry.key ∧ entry ∈ (run s.keychain calls).entries ∧
      (run s.keychain calls).matchKey a = .ok key := by
  obtain ⟨entry, older, a, hentries, hsigned, htoken, hread⟩ := signedWith_of_issueAt hissue
  have hexpiry : ∀ time ∈ times calls, session.expiresAt.before time = false :=
    fun time htime => Instant.not_before_trans (hcalls time htime).2 hlive
  have hadded : ∀ rotated ∈ added calls, Keychain.RecentAt secs (times calls) rotated := by
    intro rotated hrotated time htime
    have hrotation := mem_times_of_mem_added hrotated
    by_cases hedge : rotated.addedAt = issuedAt ∨ rotated.addedAt.isLeap = true ∨ time.isLeap = true
    · exact hsame rotated hrotated time htime hedge
    obtain ⟨hother, haddedPlain, htimePlain⟩ : rotated.addedAt ≠ issuedAt ∧ ¬rotated.addedAt.isLeap = true ∧
        ¬time.isLeap = true := by simpa only [not_or] using hedge
    have hafter : issuedAt.before rotated.addedAt = true := by
      by_contra hbefore
      exact hother (Instant.eq_of_not_before (Bool.eq_false_iff.mpr hbefore) (hcalls _ hrotation).1)
    exact secondsUntil_lt_of_issueAt hlifetime hissue hafter (hexpiry _ hrotation) (hexpiry time htime)
      (Bool.eq_false_iff.mpr haddedPlain) (Bool.eq_false_iff.mpr htimePlain)
  have hstart : s.keychain.HoldsBehindRecent entry secs (times calls) := by
    refine ⟨[], older, hentries, ?_⟩
    intro e he
    cases he
  obtain ⟨newer, older, hrun, -⟩ := holdsBehindRecent_run hwindow hstart calls (fun _ htime => htime) hadded
  have hmem : entry ∈ (run s.keychain calls).entries := by
    rw [hrun]
    exact List.mem_append_right newer List.mem_cons_self
  obtain ⟨key, hkey⟩ := Keychain.exists_matchKey hmem hsigned
  refine ⟨entry, a, key, ?_, htoken, hread, hsigned, hmem, hkey⟩
  rw [hentries, List.head?_cons]

/-- The authority with one key, with sessions of a minute and a window of a minute. -/
def brief : SessionAuthority :=
  ⟨⟨standard.keychain.entries, .overlapWindow 60⟩,
    { standard.settings with lifetime := ⟨60 * nanosPerSecond⟩ }⟩

/-- When these sessions expire. -/
def briefExpiry : Instant := .atSecond 1700000060

theorem exists_issueAt_brief : ∃ session e', brief.issueAt administrator issuing drawn = .ok (session, e') ∧
    session.expiresAt = briefExpiry := by
  have hexpires : issuing.add? brief.settings.lifetime = some briefExpiry := by decide +kernel
  exact exists_issueAt_of_moderate hexpires rfl (by decide) (by decide +kernel) (by decide +kernel) (by decide)

/-- A key is added one second after the issue, and the keychain is pruned when the session expires. -/
def rotationAfterIssue : List KeychainCall := [.add ⟨[0x0B]⟩ (.atSecond 1700000001), .prune briefExpiry]

theorem issuer_held_after_issue :
    (∀ time ∈ times rotationAfterIssue, time.before issuing = false ∧ briefExpiry.before time = false) ∧
      ∃ session e' key, ∃ a : Authorization, brief.issueAt administrator issuing drawn = .ok (session, e') ∧
        session.expiresAt.before briefExpiry = false ∧ session.token = a.toWire ∧
        (run brief.keychain rotationAfterIssue).matchKey a = .ok key := by
  obtain ⟨session, e', hissue, hexpires⟩ := exists_issueAt_brief
  have hcalls : ∀ time ∈ times rotationAfterIssue,
      time.before issuing = false ∧ briefExpiry.before time = false := by decide +kernel
  have hlive : session.expiresAt.before briefExpiry = false := by
    rw [hexpires]
    decide +kernel
  have hsame : ∀ rotated ∈ added rotationAfterIssue, ∀ time ∈ times rotationAfterIssue,
      rotated.addedAt = issuing ∨ rotated.addedAt.isLeap = true ∨ time.isLeap = true →
        rotated.addedAt.secondsUntil time < ((60 : UInt64).toNat : Int) := by decide +kernel
  obtain ⟨entry, a, key, -, htoken, -, -, -, hkey⟩ :=
    issuer_held_until_expiry rfl (Int.le_refl _) hissue hcalls hlive hsame
  exact ⟨hcalls, session, e', key, a, hissue, hlive, htoken, hkey⟩

/-- A key is added in the instant of issue, and the keychain is pruned when the session expires. -/
def rotationAtIssue : List KeychainCall := [.add ⟨[0x0B]⟩ issuing, .prune briefExpiry]

/-- A window of a minute covers a session of a minute, and still the key that signed the session is gone while
the session is not expired: the last instant of the session is the first one behind the window. -/
theorem issuer_evicted_at_expiry :
    brief.keychain.retention = .overlapWindow 60 ∧
      brief.settings.lifetime.nanoseconds = (60 : UInt64).toNat * nanosPerSecond ∧
      InOrder rotationAtIssue ∧
      (∀ time ∈ times rotationAtIssue, time.before issuing = false ∧ briefExpiry.before time = false) ∧
      ∃ session e', brief.issueAt administrator issuing drawn = .ok (session, e') ∧
        session.expiresAt.before briefExpiry = false ∧
        ∀ entry ∈ brief.keychain.entries, entry ∉ (run brief.keychain rotationAtIssue).entries := by
  obtain ⟨session, e', hissue, hexpires⟩ := exists_issueAt_brief
  refine ⟨rfl, rfl, by decide +kernel, by decide +kernel, session, e', hissue, ?_, by decide +kernel⟩
  rw [hexpires]
  decide +kernel

/-- A key is added a nanosecond after the issue, and the keychain is pruned in a leap second right in front of the
expiry of a session of 40 seconds. -/
def rotationInLeapSecond : List KeychainCall :=
  [.add ⟨[0x0B]⟩ ((Instant.ofUnix? 1700000000 1).getD .earliest),
    .prune ((Instant.ofUnix? 1700000039 1500000000).getD .earliest)]

-- A window of 40 seconds has passed by then, as it is measured.
example : (∀ time ∈ times rotationInLeapSecond,
      time.before issuing = false ∧ (Instant.atSecond 1700000040).before time = false) ∧
    ∀ entry ∈ brief.keychain.entries,
      entry ∉ (run ⟨brief.keychain.entries, .overlapWindow 40⟩ rotationInLeapSecond).entries := by
  decide +kernel

end SessionAuthority

end PaymentCredentials
