import PaymentCredentials.Proofs.KeyMatching
import PaymentCredentials.Proofs.NewestKey

/-!
Key discovery under rotation. A signed value is matched to the newest key that is held and verifies it. Keys
never change places, so as long as the entry that a value was matched to is held, the value goes on being
matched: to this entry, or to one that was added since and verifies the value too.
-/
namespace PaymentCredentials

namespace Keychain

variable {c : Keychain} {r : RenderedMessage}

/-- Wherever a key is held that verifies a message, the newest one that does stands there or in front of it. -/
theorem exists_newestVerifier {front behind : List KeychainEntry} {held : KeychainEntry}
    (hentries : c.entries = front ++ held :: behind) (hverified : r.VerifiedBy held.key) :
    ∃ newer found, c.NewestVerifier r newer found ∧ (found = held ∨ found ∈ front) := by
  cases hfind : front.find? fun entry => r.VerifiedBy entry.key with
  | some found =>
      have hfound : c.entries.find? (fun entry => r.VerifiedBy entry.key) = some found := by
        rw [hentries, List.find?_append, hfind, Option.some_or]
      obtain ⟨newer, hnewest⟩ := find?_eq_some_iff_newestVerifier.mp hfound
      exact ⟨newer, found, hnewest, Or.inr (List.mem_of_find?_eq_some hfind)⟩
  | none =>
      have hfront : ∀ e ∈ front, ¬ r.VerifiedBy e.key := by
        intro e he
        simpa using List.find?_eq_none.mp hfind e he
      exact ⟨front, held, ⟨⟨behind, hentries⟩, hverified, hfront⟩, Or.inl rfl⟩

end Keychain

namespace KeychainCall

open Keychain

/-- A run leaves an entry of a keychain where it was: the entry is still held, and in front of it there are
only keys that the run added and keys that stood in front of it before. -/
def Leaves (c : Keychain) (calls : List KeychainCall) (newer : List KeychainEntry) (entry : KeychainEntry) :
    Prop :=
  ∃ front behind, (run c calls).entries = front ++ entry :: behind ∧ front.Sublist (added calls ++ newer)

variable {c : Keychain} {r : RenderedMessage} {newer : List KeychainEntry} {entry : KeychainEntry}
  {calls : List KeychainCall}

/-- An entry that is still held was left where it was, unless there was an equal one behind it. -/
theorem leaves_of_mem {older : List KeychainEntry} (hentries : c.entries = newer ++ entry :: older)
    (honce : entry ∉ older) (hmem : entry ∈ (run c calls).entries) : Leaves c calls newer entry := by
  have hsublist := (entries_run c calls).1
  rw [hentries, ← List.append_assoc] at hsublist
  obtain ⟨front, behind, hrun, hfront, hbehind⟩ := List.sublist_append_iff.mp hsublist
  rw [hrun] at hmem
  rcases List.mem_append.mp hmem with hmem | hmem
  · obtain ⟨s, t, rfl⟩ := List.append_of_mem hmem
    refine ⟨s, t ++ behind, ?_, (List.sublist_append_left _ _).trans hfront⟩
    rw [hrun, List.append_assoc, List.cons_append]
  · rcases List.sublist_cons_iff.mp hbehind with hbehind | ⟨rest, rfl, -⟩
    · exact absurd (hbehind.subset hmem) honce
    · exact ⟨front, rest, hrun, hfront⟩

/-- The newest key that verifies a message stays so, or makes way for one that was added. -/
theorem exists_newestVerifier_run (hnewest : c.NewestVerifier r newer entry)
    (hleaves : Leaves c calls newer entry) :
    ∃ front found, (run c calls).NewestVerifier r front found ∧ (found = entry ∨ found ∈ added calls) := by
  obtain ⟨-, hverified, hnewer⟩ := hnewest
  obtain ⟨front, behind, hentries, hfront⟩ := hleaves
  obtain ⟨newer', found, hfound, hsame | hmem⟩ := exists_newestVerifier hentries hverified
  · exact ⟨newer', found, hfound, Or.inl hsame⟩
  · rcases List.mem_append.mp (hfront.subset hmem) with hadded | hbefore
    · exact ⟨newer', found, hfound, Or.inr hadded⟩
    · exact absurd hfound.2.1 (hnewer found hbefore)

/-- **Which key is found.** A signed value that renders is matched to the newest key held that verifies it; to
none for want of keys just in case no key is held, and for want of a matching one just in case some are held
and none verifies it. Let the value be matched to an entry, and let keys be added and evicted from then on.
Wherever a key like that of the entry is held, the value is matched to it or to one in front of it. As long as
the entry itself is left, the value is matched to it or to one that was added since. -/
theorem discovers {α : Type} [Signed α] {m : α} (hrenders : Renders m r) (c : Keychain) :
    (∀ key, c.matchKey m = .ok key ↔ ∃ newer entry, c.NewestVerifier r newer entry ∧ entry.key = key) ∧
      (c.matchKey m = .error .noKeys ↔ c.entries = []) ∧
      (c.matchKey m = .error .noMatchingKey ↔
        c.entries ≠ [] ∧ ∀ entry ∈ c.entries, ¬ r.VerifiedBy entry.key) ∧
      ∀ newer entry, c.NewestVerifier r newer entry → ∀ calls,
        (∀ front held behind, (run c calls).entries = front ++ held :: behind → held.key = entry.key →
          ∃ found, (run c calls).matchKey m = .ok found.key ∧ r.VerifiedBy found.key ∧
            (found = held ∨ found ∈ front)) ∧
        (Leaves c calls newer entry →
          ∃ found, (run c calls).matchKey m = .ok found.key ∧ r.VerifiedBy found.key ∧
            (found = entry ∨ found ∈ added calls)) := by
  refine ⟨fun key => matchKey_eq_ok_iff_newestVerifier hrenders, matchKey_eq_noKeys_iff hrenders,
    matchKey_eq_noMatchingKey_iff hrenders, ?_⟩
  intro newer entry hnewest calls
  constructor
  · intro front held behind hentries hkey
    have hverified : r.VerifiedBy held.key := by
      rw [hkey]
      exact hnewest.2.1
    obtain ⟨_, found, hfound, hplace⟩ := exists_newestVerifier hentries hverified
    exact ⟨found, matchKey_of_newestVerifier hrenders hfound, hfound.2.1, hplace⟩
  · intro hleaves
    obtain ⟨_, found, hfound, hplace⟩ := exists_newestVerifier_run hnewest hleaves
    exact ⟨found, matchKey_of_newestVerifier hrenders hfound, hfound.2.1, hplace⟩

/-- A message with its code under the key `0b`. -/
def signedByB : RenderedMessage := ⟨[0x01, 0x02, 0x03], .sha256, hmac .sha256 [0x0B] [0x01, 0x02, 0x03]⟩

def entryA : KeychainEntry := ⟨⟨[0x0A]⟩, .atSecond 1000⟩

def entryB : KeychainEntry := ⟨⟨[0x0B]⟩, .atSecond 1010⟩

def entryC : KeychainEntry := ⟨⟨[0x0C]⟩, .atSecond 1020⟩

/-- Three keys, of which the one in the middle verifies the message. -/
def heldABC : Keychain :=
  run (empty (.keepLatest 3)) ([entryA, entryB, entryC].map fun entry => .add entry.key entry.addedAt)

/-- Another key than `0b` that makes the same codes. -/
def entrySame : KeychainEntry := ⟨⟨[0x0B, 0x00]⟩, .atSecond 1030⟩

def sameCodes : List KeychainCall := [.add entrySame.key entrySame.addedAt]

/-- The message goes on being matched when the oldest key is gone and a fourth one is there, now to that one. -/
theorem discovers_rotated :
    Renders signedByB signedByB ∧ heldABC.NewestVerifier signedByB [entryC] entryB ∧
      Leaves heldABC sameCodes [entryC] entryB ∧
      (∃ found, (run heldABC sameCodes).matchKey signedByB = .ok found.key ∧
        signedByB.VerifiedBy found.key ∧ (found = entryB ∨ found ∈ added sameCodes)) ∧
      (run heldABC sameCodes).matchKey signedByB = .ok entrySame.key := by
  have hrenders := signedByB.renders
  have hentries : heldABC.entries = [entryC] ++ entryB :: [entryA] := by decide +kernel
  have hverified : signedByB.VerifiedBy entryB.key := by decide +kernel
  have hnewer : ∀ e ∈ [entryC], ¬ signedByB.VerifiedBy e.key := by decide +kernel
  have hnewest : heldABC.NewestVerifier signedByB [entryC] entryB := ⟨⟨_, hentries⟩, hverified, hnewer⟩
  have hleaves : Leaves heldABC sameCodes [entryC] entryB :=
    leaves_of_mem hentries (by decide) (by decide +kernel)
  have hrotated : (run heldABC sameCodes).entries = [] ++ entrySame :: [entryC, entryB] := by decide +kernel
  have hsame : signedByB.VerifiedBy entrySame.key := by decide +kernel
  have hnewestRotated : (run heldABC sameCodes).NewestVerifier signedByB [] entrySame :=
    ⟨⟨_, hrotated⟩, hsame, List.forall_mem_nil _⟩
  refine ⟨hrenders, hnewest, hleaves, ?_, matchKey_of_newestVerifier hrenders hnewestRotated⟩
  exact ((discovers hrenders heldABC).2.2.2 _ _ hnewest sameCodes).2 hleaves

end KeychainCall

end PaymentCredentials
