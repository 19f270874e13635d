import PaymentCredentials.Proofs.HexText
import PaymentCredentials.Proofs.NewestKey
import PaymentCredentials.Proofs.SealedClaims
import PaymentCredentials.Settings

/-!
The keychain to start with. Adding the keys of the settings is a run of calls, so that what is known of runs says
what is held then; without a key in the settings one is generated, and it is the only one. Which keys are held
depends on the clock only if a window of the policy passes while they are added.
-/
namespace PaymentCredentials

theorem Key.ofHex_eq_ok_iff {text : String} {key : Key} :
    Key.ofHex text = .ok key ↔ Hex.decode? (Text.trim text) = some key.bytes := by
  unfold Key.ofHex
  cases Hex.decode? (Text.trim text) with
  | none => exact ⟨nofun, nofun⟩
  | some b =>
      constructor
      · intro h
        rw [← Except.ok.inj h]
      · intro h
        rw [Option.some.inj h]

/-- A generated key is the first 32 bytes of the supply, and the rest of them is left. -/
theorem Key.supply_of_generate {e e' : Entropy} {key : Key} (h : generate e = .ok (key, e')) :
    key.bytes.length = 32 ∧ e.supply = key.bytes ++ e'.supply := by
  obtain ⟨⟨drawn, rest⟩, hdraw, h⟩ := ok_of_bind h
  obtain ⟨rfl, rfl⟩ := Prod.mk.inj (Except.ok.inj h)
  refine ⟨drawn.size, ?_⟩
  unfold Entropy.draw at hdraw
  split at hdraw
  · obtain ⟨rfl, rfl⟩ := Prod.mk.inj (Except.ok.inj hdraw)
    exact (List.take_append_drop generatedSize e.supply).symm
  · cases hdraw

/-! ### Times close to each other -/

/-- From no reading of a clock to another do so many seconds pass. -/
def Clock.Within (clock : Clock) (secs : Nat) : Prop :=
  ∀ i j, (clock.reading i).secondsUntil (clock.reading j) < secs

/-- On a clock that stands still no second passes. -/
theorem Clock.within_still (time : Instant) {secs : Nat} (h : 0 < secs) : (still time).Within secs := by
  intro _ _
  rw [still, Instant.secondsUntil_self]
  exact_mod_cast h

/-- The window of a policy, if it has one, does not pass on a clock. -/
def RetentionPolicy.Outlasts (policy : RetentionPolicy) (clock : Clock) : Prop :=
  ∀ secs, policy = .overlapWindow secs → clock.Within secs.toNat

namespace KeychainCall

open Keychain

/-- As long as no window passes from any of the times of a run to another, every key that is added is held. -/
theorem entries_run_of_recent {secs : UInt64} {close : Instant → Prop}
    (hclose : ∀ s t, close s → close t → s.secondsUntil t < secs.toNat) (calls : List KeychainCall)
    (hcalls : ∀ t ∈ times calls, close t) {c : Keychain} (hpolicy : c.retention = .overlapWindow secs)
    (hheld : ∀ entry ∈ c.entries, close entry.addedAt) :
    (run c calls).entries = added calls ++ c.entries := by
  induction calls generalizing c with
  | nil => rfl
  | cons call calls ih =>
      rw [times_cons] at hcalls
      have hrest : ∀ t ∈ times calls, close t := fun t ht => hcalls t (List.mem_append_right _ ht)
      have hnow : ∀ time ∈ call.time?, close time := fun time htime =>
        hcalls time (List.mem_append_left _ (Option.mem_toList.mpr htime))
      have hkept : ∀ time ∈ call.time?, ∀ history : List KeychainEntry, (∀ e ∈ history, close e.addedAt) →
          retained c.retention time 0 none history = history := by
        intro time htime history hhistory
        rw [hpolicy]
        refine retained_of_recent 0 ?_ fun e he => hclose _ _ (hhistory e he) (hnow time htime)
        intro t ht
        cases ht
      -- Whatever the call is, what it adds stands in front of all that was held.
      have hnext : (next c call).entries = call.entry?.toList ++ c.entries ∧
          ∀ e ∈ (next c call).entries, close e.addedAt := by
        rcases next_cases c call with ⟨-, hentry, hnext⟩ | ⟨time, htime, hentry, hnext⟩ |
          ⟨key, time, htime, hentry, hnext⟩
        · rw [hentry, hnext]
          exact ⟨rfl, hheld⟩
        · have hprune : (c.prune time).entries = c.entries := hkept time htime _ hheld
          rw [hentry, hnext, hprune]
          exact ⟨rfl, hheld⟩
        · have hall : ∀ e ∈ ⟨key, time⟩ :: c.entries, close e.addedAt :=
            List.forall_mem_cons.mpr ⟨hnow time htime, hheld⟩
          have hadd : (c.addAt key time).entries = ⟨key, time⟩ :: c.entries := hkept time htime _ hall
          rw [hentry, hnext, hadd]
          exact ⟨rfl, hall⟩
      rw [run_cons, ih hrest ((retention_next c call).trans hpolicy) hnext.2, hnext.1, added_cons,
        List.append_assoc]

end KeychainCall

namespace Settings

/-! ### Adding the keys of the settings -/

/-- The calls that add the keys of a list, each at what the clock shows then. -/
def seeding (clock : Clock) : List String → List KeychainCall
  | [] => []
  | text :: rest => .addHex text clock.now :: seeding clock.later rest

/-- The keys that texts spell. -/
def keysOf (texts : List String) : List Key := texts.filterMap fun text => (Key.ofHex text).toOption

/-- Every text of a list is a key. -/
def AllKeys (texts : List String) : Prop := ∀ text ∈ texts, ∃ key, Key.ofHex text = .ok key

theorem keysOf_cons {text : String} {key : Key} (h : Key.ofHex text = .ok key) (texts : List String) :
    keysOf (text :: texts) = key :: keysOf texts := by
  rw [keysOf, List.filterMap_cons_some (b := key) (by rw [h]; rfl)]
  rfl

theorem length_keysOf {texts : List String} (h : AllKeys texts) : (keysOf texts).length = texts.length := by
  induction texts with
  | nil => rfl
  | cons text texts ih =>
      obtain ⟨key, hkey⟩ := h text List.mem_cons_self
      rw [keysOf_cons hkey, List.length_cons, List.length_cons,
        ih fun text htext => h text (List.mem_cons_of_mem _ htext)]

theorem keysOf_eq_nil_iff {texts : List String} (h : AllKeys texts) : keysOf texts = [] ↔ texts = [] := by
  rw [← List.length_eq_zero_iff, length_keysOf h, List.length_eq_zero_iff]

theorem getLast?_keysOf {texts : List String} {text : String} {key : Key} (htext : texts.getLast? = some text)
    (hkey : Key.ofHex text = .ok key) : (keysOf texts).getLast? = some key := by
  obtain ⟨front, rfl⟩ := List.getLast?_eq_some_iff.mp htext
  have hlast : keysOf [text] = [key] := keysOf_cons hkey []
  rw [keysOf, List.filterMap_append, ← keysOf, ← keysOf, hlast, List.getLast?_concat]

/-- Adding keys never fails, and is the run of its calls. -/
theorem addKeys_eq_run {texts : List String} (h : AllKeys texts) (clock : Clock) (c : Keychain) :
    addKeys clock texts c = .ok (KeychainCall.run c (seeding clock texts)) := by
  induction texts generalizing clock c with
  | nil => rfl
  | cons text texts ih =>
      obtain ⟨key, hkey⟩ := h text List.mem_cons_self
      have hadd : c.addHexAt text clock.now = .ok (c.addAt key clock.now) := bind_of_ok hkey _
      have hnext : KeychainCall.next c (.addHex text clock.now) = c.addAt key clock.now := by
        rw [KeychainCall.next, hadd]
      rw [addKeys, bind_of_ok hadd, seeding, KeychainCall.run_cons, hnext,
        ih fun text htext => h text (List.mem_cons_of_mem _ htext)]

/-- Whatever the clock shows, the keys are added in their order. -/
theorem map_key_added (clock : Clock) {texts : List String} (h : AllKeys texts) :
    (KeychainCall.added (seeding clock texts)).map (·.key) = (keysOf texts).reverse := by
  induction texts generalizing clock with
  | nil => rfl
  | cons text texts ih =>
      obtain ⟨key, hkey⟩ := h text List.mem_cons_self
      have hentry : KeychainCall.entry? (.addHex text clock.now) = some ⟨key, clock.now⟩ := by
        rw [KeychainCall.entry?, hkey]
        rfl
      rw [seeding, KeychainCall.added_cons, hentry, List.map_append,
        ih clock.later fun text htext => h text (List.mem_cons_of_mem _ htext), keysOf_cons hkey,
        List.reverse_cons]
      rfl

/-- The keys are added at readings of the clock. -/
theorem exists_reading_of_mem_times {clock : Clock} {texts : List String} {t : Instant}
    (h : t ∈ KeychainCall.times (seeding clock texts)) : ∃ i, clock.reading i = t := by
  induction texts generalizing clock with
  | nil => cases h
  | cons text texts ih =>
      rw [seeding, KeychainCall.times_cons, List.mem_append, Option.mem_toList] at h
      rcases h with hnow | hlater
      · obtain ⟨_, -, hreading⟩ := Option.map_eq_some_iff.mp hnow
        exact ⟨0, hreading⟩
      · obtain ⟨i, hi⟩ := ih hlater
        exact ⟨i + 1, hi⟩

/-- The keys that a keychain holds once the keys of a list have been added to it. -/
def seeded (policy : RetentionPolicy) (clock : Clock) (texts : List String) : Keychain :=
  KeychainCall.run (.empty policy) (seeding clock texts)

variable {policy : RetentionPolicy} {clock : Clock} {texts : List String}

/-- The key that is added last is the newest one. -/
theorem head?_seeded (policy : RetentionPolicy) (clock : Clock) (h : AllKeys texts) :
    (seeded policy clock texts).entries.head?.map (·.key) = (keysOf texts).getLast? := by
  rw [seeded, (KeychainCall.held_run_empty policy _).2, ← List.head?_map, map_key_added clock h,
    List.head?_reverse]

theorem seeded_eq_nil_iff (policy : RetentionPolicy) (clock : Clock) (h : AllKeys texts) :
    (seeded policy clock texts).entries = [] ↔ texts = [] := by
  have hhead := head?_seeded policy clock h
  rw [← keysOf_eq_nil_iff h, ← List.head?_eq_none_iff, ← Option.map_eq_none_iff, hhead,
    List.getLast?_eq_none_iff]

/-- With a bound on the count that many of the keys are held, the newest ones, whatever the clock shows. -/
theorem map_key_seeded_keepLatest (count : UInt64) (clock : Clock) (h : AllKeys texts) :
    (seeded (.keepLatest count) clock texts).entries.map (·.key) =
      (keysOf texts).reverse.take (max 1 count.toNat) := by
  rw [seeded, KeychainCall.entries_run_empty_of_no_window (by simp), Keychain.retained_keepLatest, List.map_take,
    map_key_added clock h]

theorem map_key_seeded_unbounded (clock : Clock) (h : AllKeys texts) :
    (seeded .unbounded clock texts).entries.map (·.key) = (keysOf texts).reverse := by
  rw [seeded, KeychainCall.entries_run_empty_of_no_window (by simp), Keychain.retained_unbounded, map_key_added clock h]

/-- A window that does not pass while the keys are added lets go of none of them. -/
theorem map_key_seeded_overlapWindow {secs : UInt64} (hclock : clock.Within secs.toNat) (h : AllKeys texts) :
    (seeded (.overlapWindow secs) clock texts).entries.map (·.key) = (keysOf texts).reverse := by
  have hclose : ∀ s t, (∃ i, clock.reading i = s) → (∃ j, clock.reading j = t) →
      s.secondsUntil t < secs.toNat := by
    rintro s t ⟨i, rfl⟩ ⟨j, rfl⟩
    exact hclock i j
  have hentries := KeychainCall.entries_run_of_recent hclose (seeding clock texts)
    (fun t ht => exists_reading_of_mem_times ht) (c := .empty (.overlapWindow secs)) rfl
    (List.forall_mem_nil _)
  rw [seeded, hentries, List.map_append, map_key_added clock h]
  exact List.append_nil _

/-- Which keys are held does not depend on the clock, as long as no window passes on it. -/
theorem map_key_seeded_congr {clock' : Clock} (h : AllKeys texts) (hclock : policy.Outlasts clock)
    (hclock' : policy.Outlasts clock') :
    (seeded policy clock texts).entries.map (·.key) = (seeded policy clock' texts).entries.map (·.key) := by
  cases policy with
  | unbounded => rw [map_key_seeded_unbounded clock h, map_key_seeded_unbounded clock' h]
  | keepLatest count => rw [map_key_seeded_keepLatest count clock h, map_key_seeded_keepLatest count clock' h]
  | overlapWindow secs =>
      rw [map_key_seeded_overlapWindow (hclock secs rfl) h, map_key_seeded_overlapWindow (hclock' secs rfl) h]

/-! ### The keychain to start with -/

variable {s : Settings}

theorem buildKeychain_of_keys (h : AllKeys s.authKeys) (hne : s.authKeys ≠ []) (clock : Clock) (e : Entropy) :
    s.buildKeychain clock e = .ok (seeded s.retention clock s.authKeys, none, e) := by
  have hcount : (seeded s.retention clock s.authKeys).keyCount ≠ 0 := by
    intro hzero
    exact hne ((seeded_eq_nil_iff s.retention clock h).mp (List.eq_nil_of_length_eq_zero hzero))
  rw [buildKeychain, bind_of_ok (addKeys_eq_run h clock _)]
  exact if_neg hcount

/-- Without keys in the settings, one is generated and told. -/
theorem buildKeychain_of_no_keys (h : s.authKeys = []) (clock : Clock) (e : Entropy) :
    s.buildKeychain clock e = (do
      let (key, e) ← Key.generate e
      return ((Keychain.empty s.retention).addAt key (clock.reading 0), some key, e)) := by
  have hadded : addKeys clock [] (.empty s.retention) = .ok (.empty s.retention) := rfl
  rw [buildKeychain, h, bind_of_ok hadded, if_pos (show (Keychain.empty s.retention).keyCount = 0 from rfl),
    Keychain.generateAt]
  cases Key.generate e <;> rfl

theorem buildKeychain_cases (h : s.authKeys = []) {e e' : Entropy} {c : Keychain} {generated : Option Key}
    (hbuilt : s.buildKeychain clock e = .ok (c, generated, e')) :
    ∃ key, Key.generate e = .ok (key, e') ∧ c = (Keychain.empty s.retention).addAt key (clock.reading 0) ∧
      generated = some key := by
  rw [buildKeychain_of_no_keys h] at hbuilt
  obtain ⟨⟨key, _⟩, hkey, hbuilt⟩ := ok_of_bind hbuilt
  obtain ⟨hc, hrest⟩ := Prod.mk.inj (Except.ok.inj hbuilt)
  obtain ⟨hgenerated, rfl⟩ := Prod.mk.inj hrest
  exact ⟨key, hkey, hc.symm, hgenerated.symm⟩

/-- The random bytes for one key are enough. -/
theorem exists_buildKeychain_of_no_keys (h : s.authKeys = []) (clock : Clock) {e : Entropy}
    (hsupply : Key.generatedSize ≤ e.supply.length) :
    ∃ c generated e', s.buildKeychain clock e = .ok (c, generated, e') := by
  obtain ⟨drawn, hdrawn⟩ := Entropy.draw_of_le hsupply
  have hkey : Key.generate e = .ok (⟨drawn.bytes⟩, ⟨e.supply.drop Key.generatedSize⟩) := bind_of_ok hdrawn _
  rw [buildKeychain_of_no_keys h]
  exact ⟨_, _, _, bind_of_ok hkey _⟩

end Settings

end PaymentCredentials
