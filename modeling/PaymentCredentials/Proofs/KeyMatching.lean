import PaymentCredentials.Keychain
import PaymentCredentials.Proofs.Results

/-!
Which key of a keychain a signed value is matched to. A value that has a canonical message and a signature is
matched to the newest key that is held and verifies it, and there are two reasons for it to be matched to none.
-/
namespace PaymentCredentials

/-- The signature of a message is its code under a key. -/
def RenderedMessage.VerifiedBy (r : RenderedMessage) (key : Key) : Prop :=
  hmac r.hash key.bytes r.body = r.signature

instance (r : RenderedMessage) (key : Key) : Decidable (r.VerifiedBy key) := inferInstanceAs (Decidable (_ = _))

/-- A signed value has a canonical message and a signature, which are the given ones. -/
structure Renders {α : Type} [Signed α] (m : α) (r : RenderedMessage) : Prop where
  body : Signable.message m = .ok r.body
  hash : Signable.hash m = r.hash
  signature : Signed.signature m = .ok r.signature

theorem RenderedMessage.renders (r : RenderedMessage) : Renders r r := ⟨rfl, rfl, rfl⟩

section

variable {α : Type} [Signed α] {m : α} {r : RenderedMessage}

theorem isAuthentic_of_renders (h : Renders m r) (key : Key) :
    isAuthentic m key.bytes = .ok (decide (r.VerifiedBy key)) := by
  have hsign : sign m key.bytes = .ok (hmac r.hash key.bytes r.body) := by
    rw [sign, h.hash]
    exact bind_of_ok h.body _
  have hsame : sameBytes (hmac r.hash key.bytes r.body) r.signature = decide (r.VerifiedBy key) := by
    rw [Bool.eq_iff_iff, sameBytes_iff, decide_eq_true_iff]
    rfl
  rw [isAuthentic, bind_of_ok hsign, bind_of_ok h.signature, hsame]
  rfl

namespace Keychain

/-- An entry of a keychain, behind the given newer ones, is the newest one whose key verifies a message. -/
def NewestVerifier (c : Keychain) (r : RenderedMessage) (newer : List KeychainEntry) (entry : KeychainEntry) :
    Prop :=
  (∃ older, c.entries = newer ++ entry :: older) ∧ r.VerifiedBy entry.key ∧ ∀ e ∈ newer, ¬ r.VerifiedBy e.key

variable {c : Keychain} {newer : List KeychainEntry} {entry : KeychainEntry}

theorem firstMatch_of_renders (h : Renders m r) (entries : List KeychainEntry) :
    firstMatch m entries =
      match entries.find? fun entry => r.VerifiedBy entry.key with
      | some entry => .ok entry.key
      | none => .error .noMatchingKey := by
  induction entries with
  | nil => rfl
  | cons entry older ih =>
      rw [firstMatch, isAuthentic_of_renders h, List.find?_cons]
      refine (bind_of_ok rfl _).trans ?_
      cases decide (r.VerifiedBy entry.key) with
      | true => rfl
      | false => exact ih

theorem matchKey_of_renders (h : Renders m r) (c : Keychain) :
    c.matchKey m =
      match c.entries.find? fun entry => r.VerifiedBy entry.key with
      | some entry => .ok entry.key
      | none => .error (if c.entries = [] then .noKeys else .noMatchingKey) := by
  unfold matchKey
  split
  · rename_i hnil
    rw [hnil]
    rfl
  · rename_i hcons
    rw [firstMatch_of_renders h, if_neg hcons]

theorem find?_eq_some_iff_newestVerifier :
    c.entries.find? (fun entry => r.VerifiedBy entry.key) = some entry ↔
      ∃ newer, c.NewestVerifier r newer entry := by
  rw [List.find?_eq_some_iff_append]
  constructor
  · rintro ⟨hverified, newer, older, hentries, hnewer⟩
    refine ⟨newer, ⟨older, hentries⟩, of_decide_eq_true hverified, ?_⟩
    intro e he
    simpa using hnewer e he
  · rintro ⟨newer, ⟨older, hentries⟩, hverified, hnewer⟩
    refine ⟨decide_eq_true hverified, newer, older, hentries, ?_⟩
    intro e he
    simpa using hnewer e he

theorem matchKey_of_newestVerifier (h : Renders m r) (hnewest : c.NewestVerifier r newer entry) :
    c.matchKey m = .ok entry.key := by
  rw [matchKey_of_renders h, find?_eq_some_iff_newestVerifier.mpr ⟨newer, hnewest⟩]

/-- No key of a keychain verifies a message. -/
theorem find?_eq_none_iff_not_verified :
    c.entries.find? (fun entry => r.VerifiedBy entry.key) = none ↔
      ∀ entry ∈ c.entries, ¬ r.VerifiedBy entry.key := by
  simp only [List.find?_eq_none, decide_eq_true_eq]

theorem matchKey_eq_ok_iff_newestVerifier (h : Renders m r) {key : Key} :
    c.matchKey m = .ok key ↔ ∃ newer entry, c.NewestVerifier r newer entry ∧ entry.key = key := by
  constructor
  · intro hkey
    rw [matchKey_of_renders h] at hkey
    split at hkey
    · rename_i entry hfind
      obtain ⟨newer, hnewest⟩ := find?_eq_some_iff_newestVerifier.mp hfind
      exact ⟨newer, entry, hnewest, Except.ok.inj hkey⟩
    · cases hkey
  · rintro ⟨newer, entry, hnewest, rfl⟩
    exact matchKey_of_newestVerifier h hnewest

theorem matchKey_eq_noKeys_iff (h : Renders m r) : c.matchKey m = .error .noKeys ↔ c.entries = [] := by
  constructor
  · intro hnone
    rw [matchKey_of_renders h] at hnone
    split at hnone
    · cases hnone
    · split at hnone
      · assumption
      · cases hnone
  · intro hnil
    rw [matchKey_of_renders h, hnil]
    rfl

theorem matchKey_eq_noMatchingKey_iff (h : Renders m r) :
    c.matchKey m = .error .noMatchingKey ↔
      c.entries ≠ [] ∧ ∀ entry ∈ c.entries, ¬ r.VerifiedBy entry.key := by
  rw [matchKey_of_renders h]
  constructor
  · intro hnone
    split at hnone
    · cases hnone
    · rename_i hfind
      split at hnone
      · cases hnone
      · rename_i hcons
        exact ⟨hcons, find?_eq_none_iff_not_verified.mp hfind⟩
  · rintro ⟨hcons, hnone⟩
    rw [find?_eq_none_iff_not_verified.mpr hnone, if_neg hcons]

end Keychain

end

/-! ### Keychains with the same keys -/

namespace Keychain

variable {α : Type} [Signed α]

theorem firstMatch_congr_keys (m : α) {entries entries' : List KeychainEntry}
    (h : entries.map (·.key) = entries'.map (·.key)) : firstMatch m entries = firstMatch m entries' := by
  induction entries generalizing entries' with
  | nil =>
      obtain rfl := List.map_eq_nil_iff.mp h.symm
      rfl
  | cons entry older ih =>
      obtain ⟨entry', older', rfl, hkey, holder⟩ := List.map_eq_cons_iff.mp h.symm
      rw [firstMatch, firstMatch, hkey, ih holder.symm]

/-- When the keys were added does not matter for what they match. -/
theorem matchKey_congr_keys (m : α) {c c' : Keychain} (h : c.entries.map (·.key) = c'.entries.map (·.key)) :
    c.matchKey m = c'.matchKey m := by
  have hmatch := firstMatch_congr_keys m h
  unfold matchKey
  cases hc : c.entries with
  | nil =>
      rw [hc] at h
      rw [List.map_eq_nil_iff.mp h.symm]
  | cons entry older =>
      rw [hc] at h hmatch
      obtain ⟨entry', older', hc', -, -⟩ := List.map_eq_cons_iff.mp h.symm
      rw [hc'] at hmatch ⊢
      exact hmatch

end Keychain

end PaymentCredentials
