import PaymentCredentials.Proofs.SealingLimits

/-!
What becomes of a container between two sealings. Three calls change it: setting the expiry, an encoding that
succeeds and reading a wire form that can be read. Whatever else is done to an authorization, its container
stays as it was; so it stays authentic under the key that sealed it, and what is taken out of it are the claims
as they were sealed.
-/
namespace PaymentCredentials

namespace Authorization

/-- The random bytes for an encoding give out behind the salt. -/
def GivesOut (a : Authorization) (e : Entropy) : Prop :=
  a.claims.compress.length ≤ a.maxMessageSize.toNat ∧ saltSize ≤ e.supply.length ∧
    e.supply.length < saltSize + Cipher.blockSize

theorem encode_of_gt {a : Authorization} (h : a.maxMessageSize.toNat < a.claims.compress.length)
    (key : Bytes) (e : Entropy) :
    a.encode key e = .error (.messageTooLarge a.claims.compress.length a.maxMessageSize.toNat) := by
  simp only [encode, if_pos h]
  rfl

/-- An encoding that fails leaves everything as it was, or has replaced the salt before the random bytes gave
out. -/
theorem encoded_of_error {a : Authorization} {key : Bytes} {e : Entropy} {fault : CredentialFault}
    (h : a.encode key e = .error fault) :
    a.encoded key e = a ∨ a.GivesOut e ∧ ∃ salt, a.encoded key e = a.salted salt := by
  by_cases hlimit : a.maxMessageSize.toNat < a.claims.compress.length
  · rw [encoded, encode_of_gt hlimit]
    exact Or.inl rfl
  replace hlimit := Nat.le_of_not_lt hlimit
  by_cases hsupply : saltSize + Cipher.blockSize ≤ e.supply.length
  · obtain ⟨b, e', hok⟩ := exists_encode a hlimit hsupply key
    cases h.symm.trans hok
  replace hsupply := Nat.lt_of_not_le hsupply
  rw [encoded, h]
  split
  · rename_i hok
    cases hok
  · exact Or.inl rfl
  · by_cases hsalt : saltSize ≤ e.supply.length
    · obtain ⟨salt, hdraw⟩ := Entropy.draw_of_le hsalt
      rw [hdraw]
      exact Or.inr ⟨⟨hlimit, hsalt, hsupply⟩, salt, rfl⟩
    · have hdraw : e.draw saltSize = .error (.random "supply exhausted") := dif_neg hsalt
      rw [hdraw]
      exact Or.inl rfl

/-- The claims have no part in taking the sealed ones out, nor in what is authentic. -/
theorem decode_of_closed_eq {a b : Authorization} (h : a.closed = b.closed) (key : Bytes) :
    a.decode key = b.decode key := by
  have hdecode : a.closed.decode key = b.closed.decode key := by rw [h]
  exact hdecode

theorem isAuthentic_of_closed_eq {a b : Authorization} (h : a.closed = b.closed) (key : Bytes) :
    isAuthentic a key = isAuthentic b key := by
  have hauthentic : isAuthentic a.closed key = isAuthentic b.closed key := by rw [h]
  exact hauthentic

end Authorization

namespace AuthorizationCall

open Authorization

/-- A call that changes what is sealed: it sets the expiry, seals the claims, or reads a wire form. -/
inductive Seals (a : Authorization) : AuthorizationCall → Prop
  | expire (time : Instant) : Seals a (.expire time)
  | encode {key : Bytes} {e e' : Entropy} {b : Authorization} (h : a.encode key e = .ok (b, e')) :
      Seals a (.encode key e)
  | readWire {wire : String} {b : Authorization} (h : a.readWire wire = .ok b) : Seals a (.readWire wire)

/-- An encoding whose random bytes give out. -/
inductive BreaksOff (a : Authorization) : AuthorizationCall → Prop
  | encode {key : Bytes} {e : Entropy} (h : a.GivesOut e) : BreaksOff a (.encode key e)

/-- A call that fails. -/
inductive Fails (a : Authorization) : AuthorizationCall → Prop
  | encode {key : Bytes} {e : Entropy} {fault : CredentialFault} (h : a.encode key e = .error fault) :
      Fails a (.encode key e)
  | decode {key : Bytes} {fault : CredentialFault} (h : a.decode key = .error fault) : Fails a (.decode key)
  | readWire {wire : String} {fault : CredentialFault} (h : a.readWire wire = .error fault) :
      Fails a (.readWire wire)

/-- What a call leaves alone. -/
structure Frame (a : Authorization) (call : AuthorizationCall) : Prop where
  /-- A call seals, or it keeps the container; only if random bytes give out may the salt be another. -/
  container : Seals a call ∨ (next a call).container = a.container ∨
    BreaksOff a call ∧ ∃ salt, next a call = a.salted salt
  /-- Claims that are too large are refused before anything is drawn. -/
  refused : ∀ key e size limit, call = .encode key e →
    a.encode key e = .error (.messageTooLarge size limit) → next a call = a
  /-- A call that fails keeps the claims. -/
  claims : Fails a call → (next a call).claims = a.claims

theorem next_encode_of_ok {a b : Authorization} {key : Bytes} {e e' : Entropy}
    (h : a.encode key e = .ok (b, e')) : next a (.encode key e) = b := by
  rw [next, encoded, h]

theorem next_decode_of_error {a : Authorization} {key : Bytes} {fault : CredentialFault}
    (h : a.decode key = .error fault) : next a (.decode key) = a := by
  rw [next, h]

theorem next_readWire_of_error {a : Authorization} {wire : String} {fault : CredentialFault}
    (h : a.readWire wire = .error fault) : next a (.readWire wire) = a := by
  rw [next, h]

theorem claims_of_fails {a : Authorization} {call : AuthorizationCall} (h : Fails a call) :
    (next a call).claims = a.claims := by
  cases h with
  | encode h =>
    rcases encoded_of_error h with hsame | ⟨-, salt, hsalted⟩
    · exact congrArg Authorization.claims hsame
    · exact (congrArg Authorization.claims hsalted).trans rfl
  | decode h => rw [next_decode_of_error h]
  | readWire h => rw [next_readWire_of_error h]

theorem container_next (a : Authorization) (call : AuthorizationCall) :
    Seals a call ∨ (next a call).container = a.container ∨
      BreaksOff a call ∧ ∃ salt, next a call = a.salted salt := by
  cases call with
  | insert key value => exact Or.inr (Or.inl rfl)
  | setClaims claims => exact Or.inr (Or.inl rfl)
  | expire time => exact Or.inl (.expire time)
  | encode key e =>
      cases h : a.encode key e with
      | ok sealed => exact Or.inl (.encode h)
      | error fault =>
          rcases encoded_of_error h with hsame | ⟨hout, hsalted⟩
          · exact Or.inr (Or.inl (congrArg Authorization.container hsame))
          · exact Or.inr (Or.inr ⟨.encode hout, hsalted⟩)
  | decode key =>
      cases h : a.decode key with
      | ok b =>
          obtain ⟨claims, rfl⟩ := claims_of_decode h
          rw [next, h]
          exact Or.inr (Or.inl rfl)
      | error fault => exact Or.inr (Or.inl (congrArg Authorization.container (next_decode_of_error h)))
  | readWire wire =>
      cases h : a.readWire wire with
      | ok b => exact Or.inl (.readWire h)
      | error fault => exact Or.inr (Or.inl (congrArg Authorization.container (next_readWire_of_error h)))

theorem frame (a : Authorization) (call : AuthorizationCall) : Frame a call := by
  refine ⟨container_next a call, ?_, claims_of_fails⟩
  rintro key e size limit rfl h
  rw [next, encoded, h]

/-- No call of a run seals, and none breaks off. -/
def Quiet (a : Authorization) : List AuthorizationCall → Prop
  | [] => True
  | call :: calls => ¬ Seals a call ∧ ¬ BreaksOff a call ∧ Quiet (next a call) calls

/-- A change of the claims in the clear, or an attempt to take out what is sealed. -/
inductive Harmless : AuthorizationCall → Prop
  | insert (key : String) (value : OrderedJson) : Harmless (.insert key value)
  | setClaims (claims : Claims) : Harmless (.setClaims claims)
  | decode (key : Bytes) : Harmless (.decode key)

/-- Such calls are quiet, whatever they are made of. -/
theorem quiet_of_harmless {calls : List AuthorizationCall} (h : ∀ call ∈ calls, Harmless call)
    (a : Authorization) : Quiet a calls := by
  induction calls generalizing a with
  | nil => trivial
  | cons call calls ih =>
      obtain ⟨hcall, hcalls⟩ := List.forall_mem_cons.mp h
      refine ⟨fun hseals => ?_, fun hbreaks => ?_, ih hcalls _⟩
      · cases hcall <;> cases hseals
      · cases hcall <;> cases hbreaks

/-- A quiet run keeps the container. -/
theorem container_run_of_quiet {a : Authorization} {calls : List AuthorizationCall} (h : Quiet a calls) :
    (run a calls).container = a.container := by
  induction calls generalizing a with
  | nil => rfl
  | cons call calls ih =>
      obtain ⟨hseals, hbreaks, hquiet⟩ := h
      have hnext : (next a call).container = a.container := by
        rcases container_next a call with hs | hkept | ⟨hb, -⟩
        · exact absurd hs hseals
        · exact hkept
        · exact absurd hb hbreaks
      calc (run a (call :: calls)).container = (next a call).container := ih hquiet
        _ = a.container := hnext

theorem closed_run_of_quiet {a : Authorization} {calls : List AuthorizationCall} (h : Quiet a calls) :
    (run a calls).closed = a.closed := by
  obtain ⟨hhash, hlimit⟩ := settings_run a calls
  rw [closed, closed, container_run_of_quiet h, hhash, hlimit]

/-- What is sealed stays authentic and is taken out as it was sealed. -/
structure KeepsSealed (a : Authorization) (key : Bytes) (last : Authorization) : Prop where
  authentic : isAuthentic last key = .ok true
  claims : a.claims.Integral → ∀ c, last.decode key = .ok c → c.claims = a.claims
  readable : a.claims.Integral → ((∃ c, last.decode key = .ok c) ↔ a.Readable)

theorem keepsSealed_of_quiet {a b : Authorization} {key : Bytes} {e e' : Entropy}
    (hencode : a.encode key e = .ok (b, e')) {steps : List AuthorizationCall} (h : Quiet b steps) :
    KeepsSealed a key (run b steps) := by
  obtain ⟨-, salt, counter, rfl⟩ := encode_cases hencode
  have hclosed := closed_run_of_quiet h
  have hopened : a.claims.Integral → ∀ c, (run (a.sealed key salt counter) steps).decode key = .ok c ↔
      a.Readable ∧ c = a.sealed key salt counter := by
    intro hintegral c
    rw [decode_of_closed_eq hclosed]
    exact decode_sealed_eq_ok_iff hintegral key salt counter c
  refine ⟨?_, fun hintegral c hc => ?_, fun hintegral => ⟨?_, ?_⟩⟩
  · rw [isAuthentic_of_closed_eq hclosed]
    exact isAuthentic_sealed a key salt counter
  · rw [((hopened hintegral c).mp hc).2]
    rfl
  · rintro ⟨c, hc⟩
    exact ((hopened hintegral c).mp hc).1
  · intro hreadable
    exact ⟨_, (hopened hintegral _).mpr ⟨hreadable, rfl⟩⟩

/-- **The sealed part changes by sealing only.** Let any calls have been made of an authorization. A further call
changes its container if the call sets the expiry, is an encoding that succeeds or reads a wire form that can be
read; every other call leaves the container and so the wire form as they are, only that an encoding whose random
bytes give out between the salt and the initial counter has replaced the salt. Claims that are too large when
compressed leave everything as it was, and a call that fails leaves the claims as they were. So after an encoding
that succeeds, and as long as no other call seals, the container is authentic under its key, and what is taken out
of it under that key are the claims at that encoding; they can be taken out just in case they are readable. -/
theorem changed_by_sealing_only (start : Authorization) (before : List AuthorizationCall) :
    (∀ call, Frame (run start before) call) ∧
    (∀ steps, Quiet (run start before) steps →
      (run start (before ++ steps)).container = (run start before).container ∧
        (run start (before ++ steps)).toWire = (run start before).toWire) ∧
    ∀ key e b e', (run start before).encode key e = .ok (b, e') → ∀ steps, Quiet b steps →
      KeepsSealed (run start before) key (run start (before ++ .encode key e :: steps)) := by
  have hrun : ∀ steps, run start (before ++ steps) = run (run start before) steps :=
    fun steps => List.foldl_append
  refine ⟨frame _, fun steps hquiet => ?_, fun key e b e' hencode steps hquiet => ?_⟩
  · have hcontainer := container_run_of_quiet hquiet
    rw [hrun]
    exact ⟨hcontainer, congrArg Container.toWire hcontainer⟩
  · have hsealed : run start (before ++ .encode key e :: steps) = run b steps := by
      rw [hrun, run, List.foldl_cons, next_encode_of_ok hencode, ← run]
    rw [hsealed]
    exact keepsSealed_of_quiet hencode hquiet

/-- The claims of a porter. -/
def porter : Authorization := (new .sha512 4096).insert Claims.userKey (.ofText "porter of the third gate")

/-- What is done behind the encoding: another key is tried, and the claims in the clear are changed. -/
def meddling : List AuthorizationCall :=
  [.decode [0x0C], .insert Claims.userKey (.ofText "root"), .decode [], .setClaims .empty]

theorem harmless_meddling : ∀ call ∈ meddling, Harmless call := by
  simp only [meddling, List.forall_mem_cons]
  exact ⟨.decode _, .insert _ _, .decode _, .setClaims _, List.forall_mem_nil _⟩

/-- Sealed claims are not affected by what is done to the claims in the clear, or with other keys. -/
theorem changed_by_sealing_only_porter : ∃ b e',
    (run porter [.expire .earliest]).encode [0x0B] ⟨List.replicate 24 0x5C⟩ = .ok (b, e') ∧ Quiet b meddling ∧
      (run porter [.expire .earliest]).claims.Integral ∧
      ∃ c, (run porter (.expire .earliest :: .encode [0x0B] ⟨List.replicate 24 0x5C⟩ :: meddling)).decode [0x0B] =
          .ok c ∧
        c.claims = porter.claims := by
  have hintegral : (run porter [.expire .earliest]).claims.Integral := by
    rw [Claims.Integral]
    decide +kernel
  have hreadable : (run porter [.expire .earliest]).Readable := ⟨by decide +kernel, by decide +kernel⟩
  have hlimit : (run porter [.expire .earliest]).claims.compress.length ≤ porter.maxMessageSize.toNat := by
    calc porter.claims.compress.length ≤ porter.claims.text.length + 23 :=
          Gzip.length_compress_le (by decide +kernel) (by decide +kernel)
      _ ≤ porter.maxMessageSize.toNat := by decide +kernel
  obtain ⟨b, e', hencode⟩ := exists_encode (run porter [.expire .earliest]) hlimit
    (show saltSize + Cipher.blockSize ≤ (Entropy.mk (List.replicate 24 0x5C)).supply.length by decide) [0x0B]
  have hquiet := quiet_of_harmless harmless_meddling b
  have hkept := (changed_by_sealing_only porter [.expire .earliest]).2.2 _ _ b e' hencode meddling hquiet
  obtain ⟨c, hdecode⟩ := (hkept.readable hintegral).mpr hreadable
  exact ⟨b, e', hencode, hquiet, hintegral, c, hdecode, hkept.claims hintegral c hdecode⟩

end AuthorizationCall

end PaymentCredentials
