import PaymentCredentials.Proofs.CompressedSize
import PaymentCredentials.Proofs.SealedClaims
import PaymentCredentials.Proofs.Seconds
import PaymentCredentials.Session

/-!
Issued tokens presented to the authority that issued them. The newest key signs and is the first that is
tried, so a token is always matched to its own key; its expiry is the one that was told when it was issued.
What is left are the bounds of reading, which issuing does not look at.
-/
namespace PaymentCredentials

theorem Keychain.entries_of_newest {c : Keychain} {key : Key} (h : c.newest = .ok key) :
    ∃ addedAt older, c.entries = ⟨key, addedAt⟩ :: older := by
  unfold newest at h
  split at h
  · cases h
  · rename_i entry older hentries
    obtain rfl := Except.ok.inj h
    exact ⟨entry.addedAt, older, hentries⟩

theorem Keychain.matchKey_of_newest {α : Type} [Signed α] {m : α} {c : Keychain} {key : Key}
    (hnewest : c.newest = .ok key) (h : isAuthentic m key.bytes = .ok true) : c.matchKey m = .ok key := by
  obtain ⟨addedAt, older, hentries⟩ := entries_of_newest hnewest
  unfold matchKey
  rw [hentries]
  exact (bind_of_ok h _).trans rfl

/-- An expiry is kept to the second. -/
theorem Authorization.expiry_of_timestamp {a : Authorization} {t : Instant}
    (h : a.container.timestamp = t.timestamp) : a.expiry = t.whole := by
  rw [expiry, h, Instant.ofUnix?_timestamp]
  rfl

namespace SessionAuthority

/-- A token for claims is within the bounds of reading: the text of the claims is no longer than what is
decompressed and nests no deeper than texts are read, and the token has the size of a text. -/
structure Legible (s : SessionAuthority) (claims : Claims) (token : String) : Prop where
  text : claims.text.length ≤ s.blank.maxTextLength
  nesting : claims.nesting ≤ Json.maxDepth
  token : token.utf8ByteSize ≤ Container.maxSize

instance (s : SessionAuthority) (claims : Claims) (token : String) : Decidable (s.Legible claims token) :=
  decidable_of_iff (claims.text.length ≤ s.blank.maxTextLength ∧ claims.nesting ≤ Json.maxDepth ∧
    token.utf8ByteSize ≤ Container.maxSize)
    ⟨fun h => ⟨h.1, h.2.1, h.2.2⟩, fun h => ⟨h.text, h.nesting, h.token⟩⟩

/-- Claims with their expiry, not sealed yet. -/
def unsealed (s : SessionAuthority) (claims : Claims) (expiresAt : Instant) : Authorization :=
  { s.blank with claims := claims }.expiringAt expiresAt

/-- Claims with their expiry, sealed under a key with what was drawn for them. -/
def issued (s : SessionAuthority) (claims : Claims) (expiresAt : Instant) (key : Key)
    (salt : Draw saltSize) (counter : Draw Cipher.blockSize) : Authorization :=
  (s.unsealed claims expiresAt).sealed key.bytes salt counter

/-- The session that an authorization is handed out as. -/
def handedOut (a : Authorization) : IssuedSession := ⟨a.toWire, a.expiry⟩

variable {s : SessionAuthority} {claims : Claims} {now t : Instant} {e e' : Entropy}
  {session : IssuedSession}

/-- A session that is issued is made under the newest key, of claims within the limit when compressed. -/
theorem issueAt_cases (h : s.issueAt claims now e = .ok (session, e')) :
    claims.compress.length ≤ s.settings.maxMessageSize.toNat ∧
      ∃ (expiresAt : Instant) (key : Key) (salt : Draw saltSize) (counter : Draw Cipher.blockSize),
        now.add? s.settings.lifetime = some expiresAt ∧ s.keychain.newest = .ok key ∧
          session = handedOut (s.issued claims expiresAt key salt counter) := by
  unfold issueAt at h
  split at h
  · cases h
  · rename_i expiresAt hexpires
    obtain ⟨key, hkey, h⟩ := ok_of_bind h
    obtain ⟨⟨a, _⟩, hencode, h⟩ := ok_of_bind h
    obtain ⟨hlimit, salt, counter, rfl⟩ := Authorization.encode_cases hencode
    obtain ⟨hsession, -⟩ := Prod.mk.inj (Except.ok.inj h)
    exact ⟨hlimit, expiresAt, key, salt, counter, hexpires, hkey, hsession.symm⟩

/-- Claims within the limit are issued a session, if there is a key, the expiry lies within the calendar
and there are enough random bytes. -/
theorem exists_issueAt {expiresAt : Instant} {key : Key}
    (hexpires : now.add? s.settings.lifetime = some expiresAt) (hkey : s.keychain.newest = .ok key)
    (hlimit : claims.compress.length ≤ s.settings.maxMessageSize.toNat)
    (hsupply : saltSize + Cipher.blockSize ≤ e.supply.length) :
    ∃ session e', s.issueAt claims now e = .ok (session, e') := by
  obtain ⟨a, e', hencode⟩ :=
    Authorization.exists_encode (s.unsealed claims expiresAt) hlimit hsupply key.bytes
  refine ⟨handedOut a, e', ?_⟩
  rw [issueAt, hexpires]
  exact (bind_of_ok hkey _).trans (bind_of_ok hencode _)

/-- The expiry that is told is the one the session has, to the second. -/
theorem expiresAt_of_issueAt (h : s.issueAt claims now e = .ok (session, e')) {expiresAt : Instant}
    (hexpires : now.add? s.settings.lifetime = some expiresAt) : session.expiresAt = expiresAt.whole := by
  obtain ⟨-, told, key, salt, counter, htold, -, rfl⟩ := issueAt_cases h
  obtain rfl := Option.some.inj (htold.symm.trans hexpires)
  exact Authorization.expiry_of_timestamp rfl

/-- Under a limit that leaves room for a block, claims of a moderate size are within it when compressed. -/
theorem exists_issueAt_of_moderate {expiresAt : Instant} {key : Key}
    (hexpires : now.add? s.settings.lifetime = some expiresAt) (hkey : s.keychain.newest = .ok key)
    (hroom : Deflate.oneBlock + 23 ≤ s.settings.maxMessageSize.toNat)
    (hleast : Deflate.mostUnstored + 1 < claims.text.length) (hmost : claims.text.length ≤ Deflate.oneBlock)
    (hsupply : saltSize + Cipher.blockSize ≤ e.supply.length) :
    ∃ session e', s.issueAt claims now e = .ok (session, e') ∧ session.expiresAt = expiresAt.whole := by
  have hlimit : claims.compress.length ≤ s.settings.maxMessageSize.toNat := by
    calc claims.compress.length ≤ claims.text.length + 23 := Gzip.length_compress_le hleast hmost
      _ ≤ Deflate.oneBlock + 23 := Nat.add_le_add_right hmost 23
      _ ≤ s.settings.maxMessageSize.toNat := hroom
  obtain ⟨session, e', hissue⟩ := exists_issueAt hexpires hkey hlimit hsupply
  exact ⟨session, e', hissue, expiresAt_of_issueAt hissue hexpires⟩

/-- Under any limit of practical size a token has the size of a text. -/
theorem utf8ByteSize_token_le (h : s.issueAt claims now e = .ok (session, e'))
    (hpractical : s.settings.maxMessageSize.toNat ≤ 0x4000000000000000) :
    session.token.utf8ByteSize ≤ Container.maxSize := by
  obtain ⟨hlimit, expiresAt, key, salt, counter, -, -, rfl⟩ := issueAt_cases h
  have hframed : (s.issued claims expiresAt key salt counter).Framed :=
    Authorization.framed_sealed (s.unsealed claims expiresAt) key.bytes salt counter hlimit
  refine Container.utf8ByteSize_toWire_le_maxSize _ hframed.length_signature_le ?_
  exact Nat.le_trans hframed.ciphertext
    (Nat.add_le_add_right (Nat.le_trans hpractical (by decide)) Cipher.blockSize)

/-- A token that is read as a container is refused for its expiry, for its signature or for what is in
it. -/
theorem verifyAt_of_readWire {token : String} {a : Authorization} (hread : s.blank.readWire token = .ok a) :
    s.verifyAt token t =
      if a.isExpiredAt t then .error (.expired a.container.timestamp)
      else
        match s.keychain.matchKey a with
        | .error .noKeys => .error .unauthorized
        | .error fault => .error fault
        | .ok key => (do return (← a.decode key.bytes).claims) := by
  rw [verifyAt, bind_of_ok hread]
  cases a.isExpiredAt t with
  | true => cases s.keychain.matchKey a <;> rfl
  | false => rfl

/-- A token of the size of a text is read as the container that it was made of. -/
theorem readWire_handedOut {expiresAt : Instant} {key : Key} (salt : Draw saltSize)
    (counter : Draw Cipher.blockSize)
    (hlimit : claims.compress.length ≤ s.settings.maxMessageSize.toNat)
    (hsize : (handedOut (s.issued claims expiresAt key salt counter)).token.utf8ByteSize ≤
      Container.maxSize) :
    s.blank.readWire (handedOut (s.issued claims expiresAt key salt counter)).token =
      .ok (s.issued claims expiresAt key salt counter).closed := by
  have hframed : (s.issued claims expiresAt key salt counter).Framed :=
    Authorization.framed_sealed (s.unsealed claims expiresAt) key.bytes salt counter hlimit
  exact hframed.readWire_toWire rfl rfl hsize

/-- What reading a token of an authority comes to: its expiry is looked at first, then the bounds of
reading. -/
theorem verifyAt_handedOut {expiresAt : Instant} {key : Key} (salt : Draw saltSize)
    (counter : Draw Cipher.blockSize) (hkey : s.keychain.newest = .ok key) (hintegral : claims.Integral)
    (hlimit : claims.compress.length ≤ s.settings.maxMessageSize.toNat)
    (hsession : session = handedOut (s.issued claims expiresAt key salt counter))
    (hsize : session.token.utf8ByteSize ≤ Container.maxSize) :
    s.verifyAt session.token t =
      if session.expiresAt.before t then .error (.expired expiresAt.timestamp)
      else if s.blank.maxTextLength < claims.text.length then .error (.compression (.gzip .exceedsLimit))
      else if claims.nesting ≤ Json.maxDepth then .ok claims
      else .error (.serialization (.json .malformed)) := by
  have hread : s.blank.readWire session.token = .ok (s.issued claims expiresAt key salt counter).closed := by
    rw [hsession] at hsize ⊢
    exact readWire_handedOut salt counter hlimit hsize
  have hmatch : s.keychain.matchKey (s.issued claims expiresAt key salt counter).closed = .ok key :=
    Keychain.matchKey_of_newest hkey (Authorization.isAuthentic_sealed _ _ _ _)
  have hexpired : (s.issued claims expiresAt key salt counter).closed.isExpiredAt t =
      session.expiresAt.before t := by
    rw [hsession]
    rfl
  have hdecode : (s.issued claims expiresAt key salt counter).closed.decode key.bytes =
      if s.blank.maxTextLength < claims.text.length then .error (.compression (.gzip .exceedsLimit))
      else if claims.nesting ≤ Json.maxDepth then .ok (s.issued claims expiresAt key salt counter)
      else .error (.serialization (.json .malformed)) :=
    Authorization.decode_sealed key.bytes salt counter hintegral
  rw [verifyAt_of_readWire hread, hexpired, hmatch]
  simp only [hdecode]
  split
  · rfl
  split
  · rfl
  split <;> rfl

/-- A token that is no text in size is not read, whatever else is right with it. -/
theorem verifyAt_of_maxSize_lt {a : Authorization} (h : Container.maxSize < a.toWire.utf8ByteSize) :
    s.verifyAt (handedOut a).token t = .error (.malformed .exceedsSizeLimit) := by
  have hread : s.blank.readWire (handedOut a).token = _ := Authorization.readWire_of_maxSize_lt h
  rw [verifyAt, hread]
  rfl

theorem authenticateAt_of_error {token : String} {fault : CredentialFault}
    (h : s.verifyAt token t = .error fault) (hfault : fault.isUnauthorized = true) :
    s.authenticateAt token t = .error .unauthorized := by
  rw [authenticateAt, h, mapError_error, CredentialFault.collapse, if_pos hfault]
  rfl

theorem authenticateAt_of_ok {token : String} (h : s.verifyAt token t = .ok claims)
    (huser : claims.user?.isSome) : s.authenticateAt token t = .ok claims := by
  have hnone : ¬ claims.user?.isNone = true := by
    rw [Option.isNone_iff_eq_none]
    rintro hnone
    rw [hnone] at huser
    cases huser
  rw [authenticateAt, h]
  refine (bind_of_ok rfl _).trans ?_
  rw [if_neg hnone]
  rfl

/-- Until its expiry a token within the bounds of reading gives the claims that it was issued for. -/
theorem authenticateAt_of_legible (huser : claims.user?.isSome) (hintegral : claims.Integral)
    (hissue : s.issueAt claims now e = .ok (session, e')) (hexpiry : session.expiresAt.before t = false)
    (hlegible : s.Legible claims session.token) : s.authenticateAt session.token t = .ok claims := by
  obtain ⟨hlimit, expiresAt, key, salt, counter, -, hkey, hsession⟩ := issueAt_cases hissue
  apply authenticateAt_of_ok _ huser
  rw [verifyAt_handedOut salt counter hkey hintegral hlimit hsession hlegible.token, hexpiry,
    if_neg Bool.false_ne_true, if_neg (Nat.not_lt_of_le hlegible.text), if_pos hlegible.nesting]

/-- A token that is expired, or not within the bounds of reading, is refused. -/
theorem authenticateAt_of_refused (hintegral : claims.Integral)
    (hissue : s.issueAt claims now e = .ok (session, e'))
    (hrefused : session.expiresAt.before t = true ∨ ¬ s.Legible claims session.token) :
    s.authenticateAt session.token t = .error .unauthorized := by
  obtain ⟨hlimit, expiresAt, key, salt, counter, -, hkey, hsession⟩ := issueAt_cases hissue
  by_cases hsize : Container.maxSize < session.token.utf8ByteSize
  · subst hsession
    exact authenticateAt_of_error (verifyAt_of_maxSize_lt hsize) rfl
  have hverify := verifyAt_handedOut (t := t) salt counter hkey hintegral hlimit hsession
    (Nat.le_of_not_lt hsize)
  split at hverify
  · exact authenticateAt_of_error hverify rfl
  rename_i hexpiry
  split at hverify
  · exact authenticateAt_of_error hverify rfl
  rename_i htext
  split at hverify
  · rename_i hnesting
    rcases hrefused with hexpired | hlegible
    · exact absurd hexpired hexpiry
    · exact absurd ⟨Nat.le_of_not_lt htext, hnesting, Nat.le_of_not_lt hsize⟩ hlegible
  · exact authenticateAt_of_error hverify rfl

/-- **Issued tokens.** A token that was issued for claims with a user and without fractions gives exactly
these claims at every instant up to its expiry, if it is within the bounds of reading. At every later
instant, and at every instant if it is not within them, it is refused. -/
theorem authenticateAt_of_issueAt (huser : claims.user?.isSome) (hintegral : claims.Integral)
    (hissue : s.issueAt claims now e = .ok (session, e')) (t : Instant) :
    s.authenticateAt session.token t =
      if session.expiresAt.before t = false ∧ s.Legible claims session.token then .ok claims
      else .error .unauthorized := by
  split
  · rename_i h
    exact authenticateAt_of_legible huser hintegral hissue h.1 h.2
  · rename_i h
    apply authenticateAt_of_refused hintegral hissue
    cases hexpiry : session.expiresAt.before t with
    | true => exact Or.inl rfl
    | false => exact Or.inr fun hlegible => h ⟨hexpiry, hlegible⟩

/-- An authority with one key and the settings by default. -/
def standard : SessionAuthority :=
  ⟨⟨[⟨⟨List.replicate 32 0x61⟩, .earliest⟩], .unbounded⟩, .standard⟩

/-- An instant at which it issues sessions, and what is drawn for a session. -/
def issuing : Instant := (Instant.ofUnix? 1700000000 0).getD .earliest

def drawn : Entropy := ⟨List.replicate (saltSize + Cipher.blockSize) 0⟩

/-- Claims of a user with a role. -/
def administrator : Claims := (Claims.ofUser systemUser).insert "role" (.ofText "administrator")

/-- A text inside of a count of arrays. -/
def nested : Nat → OrderedJson
  | 0 => .ofText ""
  | n + 1 => ⟨.array [(nested n).value], (nested n).ordered, trivial⟩

/-- Claims of a user that nest one deeper than texts are read. -/
def tooDeep : Claims := (Claims.ofUser systemUser).insert "path" (nested Json.maxDepth)

/-- When these sessions expire. -/
def expiring : Instant := (Instant.ofUnix? 1700000900 0).getD .earliest

theorem add?_issuing : issuing.add? standard.settings.lifetime = some expiring := by decide +kernel

/-- Claims of a moderate size are issued sessions by that authority. -/
theorem exists_issueAt_standard (claims : Claims) (hleast : Deflate.mostUnstored + 1 < claims.text.length)
    (hmost : claims.text.length ≤ Deflate.oneBlock) :
    ∃ session e', standard.issueAt claims issuing drawn = .ok (session, e') ∧
      session.expiresAt = expiring :=
  exists_issueAt_of_moderate add?_issuing rfl (by decide) hleast hmost (by decide)

/-- Claims that are issued a session of which nothing can be read: they nest too deeply, and their token is
refused at the very instant at which it was issued. -/
theorem standard_refuses_tooDeep : tooDeep.user? = some systemUser ∧ tooDeep.Integral ∧
    ∃ session e', standard.issueAt tooDeep issuing drawn = .ok (session, e') ∧
      session.expiresAt.before issuing = false ∧
      standard.authenticateAt session.token issuing = .error .unauthorized := by
  have hintegral : tooDeep.Integral := by
    rw [Claims.Integral]
    decide +kernel
  have hnesting : ¬ tooDeep.nesting ≤ Json.maxDepth := by decide +kernel
  obtain ⟨session, e', hissue, hexpires⟩ := exists_issueAt_standard tooDeep (by decide +kernel)
    (by decide +kernel)
  refine ⟨by decide +kernel, hintegral, session, e', hissue, ?_, ?_⟩
  · rw [hexpires]
    rfl
  · exact authenticateAt_of_refused hintegral hissue (Or.inr fun hlegible => hnesting hlegible.nesting)

/-- The token of an administrator is good at its expiry and no longer a nanosecond after it. -/
theorem standard_accepts_administrator : administrator.user?.isSome ∧ administrator.Integral ∧
    ∃ session e', standard.issueAt administrator issuing drawn = .ok (session, e') ∧
      session.expiresAt = expiring ∧ standard.authenticateAt session.token expiring = .ok administrator ∧
      standard.authenticateAt session.token ((Instant.ofUnix? 1700000900 1).getD .earliest) =
        .error .unauthorized := by
  have huser : administrator.user?.isSome := by decide +kernel
  have hintegral : administrator.Integral := by
    rw [Claims.Integral]
    decide +kernel
  obtain ⟨session, e', hissue, hexpires⟩ := exists_issueAt_standard administrator (by decide +kernel)
    (by decide +kernel)
  have hlegible : standard.Legible administrator session.token :=
    ⟨by decide +kernel, by decide +kernel, utf8ByteSize_token_le hissue (by decide)⟩
  refine ⟨huser, hintegral, session, e', hissue, hexpires, ?_, ?_⟩
  · rw [authenticateAt_of_issueAt huser hintegral hissue, hexpires, if_pos ⟨rfl, hlegible⟩]
  · rw [authenticateAt_of_issueAt huser hintegral hissue, hexpires, if_neg fun h => nomatch h.1]

end SessionAuthority

end PaymentCredentials
