import PaymentCredentials.Proofs.KeyMatching
import PaymentCredentials.Proofs.SessionRoundTrip

/-!
Which tokens an authority accepts. A token can fail at its frame, its expiry, its signature, its cipher,
its compression, its text and its user; it is accepted just in case it passes all of these, and the
failures are one and the same outside.
-/
namespace PaymentCredentials

namespace Authorization

/-- The signature is the code of the container under a key. -/
def SignedWith (a : Authorization) (key : Key) : Prop :=
  hmac a.hash key.bytes a.message = a.container.signature

instance (a : Authorization) (key : Key) : Decidable (a.SignedWith key) := inferInstanceAs (Decidable (_ = _))

/-- The container as a message with its signature. -/
def rendered (a : Authorization) : RenderedMessage := ⟨a.message, a.hash, a.container.signature⟩

theorem renders (a : Authorization) : Renders a a.rendered := ⟨rfl, rfl, rfl⟩

/-- The last second at which a container is good. A timestamp beyond the calendar counts as the beginning
of the calendar. -/
def expirySecond (a : Authorization) : Int :=
  if firstSecond ≤ a.container.timestamp.toInt ∧ a.container.timestamp.toInt ≤ lastSecond then
    a.container.timestamp.toInt
  else firstSecond

/-- A container expires at the beginning of its last second. -/
theorem expiry_eq (a : Authorization) : a.expiry.seconds = a.expirySecond ∧ a.expiry.nanos = 0 := by
  rw [expiry, expirySecond]
  by_cases h : firstSecond ≤ a.container.timestamp.toInt ∧ a.container.timestamp.toInt ≤ lastSecond
  · rw [Instant.ofUnix?_of_lt h.1 h.2 (by decide), if_pos h]
    exact ⟨rfl, rfl⟩
  · rw [Instant.ofUnix?, dif_neg fun h' => h ⟨h'.1, h'.2.1⟩, if_neg h]
    exact ⟨rfl, rfl⟩

/-- A container is not expired as long as nothing of its last second has passed. -/
theorem not_isExpiredAt_iff {a : Authorization} {now : Instant} : a.isExpiredAt now = false ↔
    now.seconds < a.expirySecond ∨ now.seconds = a.expirySecond ∧ now.nanos = 0 := by
  rw [isExpiredAt, Instant.not_before_iff, a.expiry_eq.1, a.expiry_eq.2, Nat.le_zero]

/-- Taking the claims out is deciphering, decompressing and reading them. -/
theorem decode_eq_ok_iff {a b : Authorization} {key : Bytes} :
    a.decode key = .ok b ↔ ∃ compressed text claims,
      Cipher.decrypt? (deriveKey a.hash key a.container.salt) a.container.ciphertext = some compressed ∧
      Gzip.decompress a.maxTextLength compressed = .ok text ∧ Json.decode Claims.read text = .ok claims ∧
      b = { a with claims := claims } := by
  constructor
  · intro h
    unfold decode at h
    split at h
    · cases h
    · rename_i compressed hdeciphered
      obtain ⟨claims, hclaims, h⟩ := ok_of_bind h
      obtain ⟨text, htext, hparsed⟩ := ok_of_bind hclaims
      exact ⟨compressed, text, claims, hdeciphered, ok_of_mapError htext, ok_of_mapError hparsed,
        (Except.ok.inj h).symm⟩
  · rintro ⟨compressed, text, claims, hdeciphered, htext, hparsed, rfl⟩
    rw [decode_of_decrypt key hdeciphered, Claims.decompress, htext]
    refine (bind_of_ok ((bind_of_ok (mapError_ok _ _) _).trans ?_) _).trans rfl
    rw [hparsed]
    rfl

/-- Whatever keeps a wire form from being read is the fault of the wire form. -/
theorem isUnauthorized_of_readWire {a : Authorization} {wire : String} {fault : CredentialFault}
    (h : a.readWire wire = .error fault) : fault.isUnauthorized = true := by
  rcases error_of_bind h with h | ⟨_, -, h⟩
  · obtain ⟨malformation, -, rfl⟩ := error_of_mapError h
    rfl
  · cases h

theorem isUnauthorized_of_decode {a : Authorization} {key : Bytes} {fault : CredentialFault}
    (h : a.decode key = .error fault) : fault.isUnauthorized = true := by
  unfold decode at h
  split at h
  · obtain rfl := Except.error.inj h
    rfl
  rcases error_of_bind h with h | ⟨_, -, h⟩
  · rcases error_of_bind h with h | ⟨_, -, h⟩
    all_goals
      obtain ⟨cause, -, rfl⟩ := error_of_mapError h
      rfl
  · cases h

end Authorization

namespace Keychain

/-- A key is the newest one of a keychain that signed a container. -/
def NewestSigner (c : Keychain) (a : Authorization) (key : Key) : Prop :=
  ∃ newer entry older, c.entries = newer ++ entry :: older ∧ entry.key = key ∧ a.SignedWith key ∧
    ∀ e ∈ newer, ¬ a.SignedWith e.key

theorem matchKey_eq_find (c : Keychain) (a : Authorization) :
    c.matchKey a =
      match c.entries.find? fun entry => a.SignedWith entry.key with
      | some entry => .ok entry.key
      | none => .error (if c.entries = [] then .noKeys else .noMatchingKey) := matchKey_of_renders a.renders c

theorem matchKey_eq_ok_iff {c : Keychain} {a : Authorization} {key : Key} :
    c.matchKey a = .ok key ↔ c.NewestSigner a key := by
  rw [matchKey_eq_ok_iff_newestVerifier a.renders]
  constructor
  · rintro ⟨newer, entry, ⟨⟨older, hentries⟩, hsigned, hnewer⟩, rfl⟩
    exact ⟨newer, entry, older, hentries, rfl, hsigned, hnewer⟩
  · rintro ⟨newer, entry, older, hentries, rfl, hsigned, hnewer⟩
    exact ⟨newer, entry, ⟨⟨older, hentries⟩, hsigned, hnewer⟩, rfl⟩

/-- No key of the keychain matches for one of two reasons only. -/
theorem matchKey_eq_error {c : Keychain} {a : Authorization} {fault : CredentialFault}
    (h : c.matchKey a = .error fault) : fault = .noKeys ∨ fault = .noMatchingKey := by
  rw [matchKey_eq_find] at h
  split at h
  · cases h
  · obtain rfl := Except.error.inj h
    split
    · exact Or.inl rfl
    · exact Or.inr rfl

end Keychain

namespace SessionAuthority

/-- A container as an authority looks at it, its claims not taken out. -/
def presented (s : SessionAuthority) (container : Container) : Authorization :=
  { s.blank with container := container }

/-- What a token is read as: its container, the newest key that signed it, and what is under the cipher and
the compression. -/
structure ReadsAs (s : SessionAuthority) (token : String) (now : Instant) (claims : Claims)
    (container : Container) (key : Key) (compressed text : Bytes) : Prop where
  framed : Container.ofWire s.settings.hash.outputSize s.settings.maxMessageSize token = .ok container
  unexpired : now.seconds < (s.presented container).expirySecond ∨
    now.seconds = (s.presented container).expirySecond ∧ now.nanos = 0
  signed : s.keychain.NewestSigner (s.presented container) key
  deciphered :
    Cipher.decrypt? (deriveKey s.settings.hash key.bytes container.salt) container.ciphertext = some compressed
  decompressed : Gzip.decompress s.blank.maxTextLength compressed = .ok text
  parsed : Json.decode Claims.read text = .ok claims

/-- A token is read as claims that name a user by a text. -/
def Accepts (s : SessionAuthority) (token : String) (now : Instant) (claims : Claims) : Prop :=
  (∃ container key compressed text, s.ReadsAs token now claims container key compressed text) ∧
    ∃ id, claims.get? Claims.userKey = some (.text id)

variable {s : SessionAuthority} {token : String} {now : Instant} {claims : Claims}

theorem readWire_blank_eq_ok_iff {a : Authorization} :
    s.blank.readWire token = .ok a ↔
      ∃ container, Container.ofWire s.settings.hash.outputSize s.settings.maxMessageSize token = .ok container ∧
        a = s.presented container := Authorization.readWire_eq_ok_iff

/-- Verification in its steps: a token is read, it is not expired, a key matches it, its claims are taken out. -/
theorem verifyAt_eq_ok_iff_steps : s.verifyAt token now = .ok claims ↔
    ∃ a key opened, s.blank.readWire token = .ok a ∧ a.isExpiredAt now = false ∧ s.keychain.matchKey a = .ok key ∧
      a.decode key.bytes = .ok opened ∧ opened.claims = claims := by
  constructor
  · intro h
    obtain ⟨a, hread, -⟩ := ok_of_bind h
    rw [verifyAt_of_readWire hread] at h
    split at h
    · cases h
    rename_i hexpired
    split at h
    · cases h
    · cases h
    rename_i key hkey
    obtain ⟨opened, hopened, h⟩ := ok_of_bind h
    exact ⟨a, key, opened, hread, Bool.eq_false_iff.mpr hexpired, hkey, hopened, Except.ok.inj h⟩
  · rintro ⟨a, key, opened, hread, hexpired, hkey, hopened, rfl⟩
    rw [verifyAt_of_readWire hread, hexpired, if_neg Bool.false_ne_true, hkey]
    exact bind_of_ok hopened _

theorem verifyAt_eq_ok_iff : s.verifyAt token now = .ok claims ↔
    ∃ container key compressed text, s.ReadsAs token now claims container key compressed text := by
  rw [verifyAt_eq_ok_iff_steps]
  constructor
  · rintro ⟨a, key, opened, hread, hexpired, hkey, hopened, rfl⟩
    obtain ⟨container, hframed, rfl⟩ := readWire_blank_eq_ok_iff.mp hread
    obtain ⟨compressed, text, claims, hdeciphered, hdecompressed, hparsed, rfl⟩ :=
      Authorization.decode_eq_ok_iff.mp hopened
    exact ⟨container, key, compressed, text, hframed, Authorization.not_isExpiredAt_iff.mp hexpired,
      Keychain.matchKey_eq_ok_iff.mp hkey, hdeciphered, hdecompressed, hparsed⟩
  · rintro ⟨container, key, compressed, text, h⟩
    have hopened : (s.presented container).decode key.bytes =
        .ok { s.presented container with claims := claims } :=
      Authorization.decode_eq_ok_iff.mpr
        ⟨compressed, text, claims, h.deciphered, h.decompressed, h.parsed, rfl⟩
    exact ⟨s.presented container, key, _, readWire_blank_eq_ok_iff.mpr ⟨container, h.framed, rfl⟩,
      Authorization.not_isExpiredAt_iff.mpr h.unexpired, Keychain.matchKey_eq_ok_iff.mpr h.signed, hopened, rfl⟩

/-- Whatever keeps a token from being read is the fault of the token. -/
theorem isUnauthorized_of_verifyAt {fault : CredentialFault} (h : s.verifyAt token now = .error fault) :
    fault.isUnauthorized = true := by
  cases hread : s.blank.readWire token with
  | error cause =>
      have hcause : s.verifyAt token now = .error cause := by
        rw [verifyAt, hread]
        rfl
      obtain rfl := Except.error.inj (hcause.symm.trans h)
      exact Authorization.isUnauthorized_of_readWire hread
  | ok a =>
      rw [verifyAt_of_readWire hread] at h
      split at h
      · obtain rfl := Except.error.inj h
        rfl
      split at h
      · obtain rfl := Except.error.inj h
        rfl
      · rename_i cause hne hkey
        obtain rfl := Except.error.inj h
        rcases Keychain.matchKey_eq_error hkey with rfl | rfl
        · exact (hne rfl).elim
        · rfl
      · rcases error_of_bind h with h | ⟨_, -, h⟩
        · exact Authorization.isUnauthorized_of_decode h
        · cases h

theorem isSome_user_iff : claims.user?.isSome ↔ ∃ id, claims.get? Claims.userKey = some (.text id) := by
  unfold Claims.user?
  split
  · rename_i id hid
    exact ⟨fun _ => ⟨id, hid⟩, fun _ => rfl⟩
  · rename_i hne
    exact ⟨nofun, fun ⟨id, hid⟩ => (hne id hid).elim⟩

theorem authenticateAt_of_no_user (h : s.verifyAt token now = .ok claims) (huser : ¬ claims.user?.isSome) :
    s.authenticateAt token now = .error .unauthorized := by
  rw [authenticateAt, h]
  refine (bind_of_ok rfl _).trans ?_
  rw [if_pos (Option.isNone_iff_eq_none.mpr (Option.not_isSome_iff_eq_none.mp huser))]
  rfl

/-- Accepted claims are those that a token is verified to have, if they name a user. -/
theorem authenticateAt_eq_ok_iff :
    s.authenticateAt token now = .ok claims ↔ s.verifyAt token now = .ok claims ∧ claims.user?.isNone = false := by
  constructor
  · intro h
    obtain ⟨verified, hverify, h⟩ := ok_of_bind h
    split at h
    · cases h
    · rename_i huser
      obtain rfl := Except.ok.inj h
      exact ⟨ok_of_mapError hverify, Bool.eq_false_iff.mpr huser⟩
  · rintro ⟨hverify, huser⟩
    rw [authenticateAt, hverify, mapError_ok, bind_of_ok rfl, huser, if_neg Bool.false_ne_true]
    rfl

theorem authenticateAt_of_accepts (h : s.Accepts token now claims) :
    s.authenticateAt token now = .ok claims :=
  authenticateAt_of_ok (verifyAt_eq_ok_iff.mpr h.1) (isSome_user_iff.mpr h.2)

/-- A token is answered with claims it is read as, or with the one refusal. -/
theorem authenticateAt_cases (s : SessionAuthority) (token : String) (now : Instant) :
    (∃ claims, s.Accepts token now claims ∧ s.authenticateAt token now = .ok claims) ∨
      s.authenticateAt token now = .error .unauthorized := by
  cases hverify : s.verifyAt token now with
  | error fault => exact Or.inr (authenticateAt_of_error hverify (isUnauthorized_of_verifyAt hverify))
  | ok claims =>
      by_cases huser : claims.user?.isSome
      · have haccepts : s.Accepts token now claims :=
          ⟨verifyAt_eq_ok_iff.mp hverify, isSome_user_iff.mp huser⟩
        exact Or.inl ⟨claims, haccepts, authenticateAt_of_accepts haccepts⟩
      · exact Or.inr (authenticateAt_of_no_user hverify huser)

/-- **Which tokens are accepted.** Whatever keys an authority holds, a token is answered with claims just in
case it is read as a container that is not expired, the newest key that signed the container takes exactly
these claims out of it, and they name a user by a text. Every other token gets one and the same refusal. -/
theorem authenticateAt_iff (s : SessionAuthority) (token : String) (now : Instant) :
    (∀ claims, s.authenticateAt token now = .ok claims ↔ s.Accepts token now claims) ∧
      (s.authenticateAt token now = .error .unauthorized ↔ ∀ claims, ¬ s.Accepts token now claims) := by
  have haccepted : ∀ claims, s.authenticateAt token now = .ok claims → s.Accepts token now claims := by
    intro claims h
    rcases s.authenticateAt_cases token now with ⟨accepted, haccepts, hok⟩ | herror
    · obtain rfl := Except.ok.inj (hok.symm.trans h)
      exact haccepts
    · cases herror.symm.trans h
  refine ⟨fun claims => ⟨haccepted claims, authenticateAt_of_accepts⟩, ?_, ?_⟩
  · intro h claims haccepts
    cases h.symm.trans (authenticateAt_of_accepts haccepts)
  · intro hnone
    rcases s.authenticateAt_cases token now with ⟨claims, haccepts, -⟩ | herror
    · exact absurd haccepts (hnone claims)
    · exact herror

end SessionAuthority

end PaymentCredentials
