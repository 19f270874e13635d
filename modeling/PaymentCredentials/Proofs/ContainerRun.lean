import PaymentCredentials.Proofs.SealedClaims

/-!
Containers in use. Whatever is done to a container that was empty at first, its signature has the size of
its hash and its ciphertext keeps to its limit, since both sealing and reading see to that. So its wire form
can always be read again, and is written as it was.
-/
namespace PaymentCredentials

namespace Authorization

/-- The authorization with another salt. -/
def salted (a : Authorization) (salt : Draw saltSize) : Authorization :=
  { a with container := { a.container with salt := salt.bytes, salt_size := salt.size } }

/-- The authorization after an encoding. An encoding that fails leaves everything as it was, but if it got
as far as to draw a salt, that stays. -/
def encoded (a : Authorization) (key : Bytes) (e : Entropy) : Authorization :=
  match a.encode key e with
  | .ok (b, _) => b
  | .error (.messageTooLarge _ _) => a
  | .error _ =>
    match e.draw saltSize with
    | .ok (salt, _) => a.salted salt
    | .error _ => a

theorem framed_new (hash : HashAlgorithm) (limit : UInt64) : (new hash limit).Framed :=
  ⟨List.length_replicate, Nat.zero_le _⟩

end Authorization

/-- A call of an authorization: its claims are changed, its expiry is set, its claims are sealed or taken out,
or a wire form is read into it. -/
inductive AuthorizationCall
  | insert (key : String) (value : OrderedJson)
  | setClaims (claims : Claims)
  | expire (time : Instant)
  | encode (key : Bytes) (e : Entropy)
  | decode (key : Bytes)
  | readWire (wire : String)

namespace AuthorizationCall

open Authorization

/-- The authorization after a call. -/
def next (a : Authorization) : AuthorizationCall → Authorization
  | .insert key value => a.insert key value
  | .setClaims claims => { a with claims := claims }
  | .expire time => a.expiringAt time
  | .encode key e => a.encoded key e
  | .decode key =>
      match a.decode key with
      | .ok b => b
      | .error _ => a
  | .readWire wire =>
      match a.readWire wire with
      | .ok b => b
      | .error _ => a

/-- The authorization after a run. -/
def run (a : Authorization) (calls : List AuthorizationCall) : Authorization := calls.foldl next a

/-- All that a call may do to a container: keep its signature and its ciphertext, seal claims that are within
the limit, or take over a container that was read under its own hash and limit. -/
theorem next_cases (a : Authorization) (call : AuthorizationCall) :
    (next a call).hash = a.hash ∧ (next a call).maxMessageSize = a.maxMessageSize ∧
      ((next a call).container.signature = a.container.signature ∧
          (next a call).container.ciphertext = a.container.ciphertext ∨
        (∃ key salt counter, a.claims.compress.length ≤ a.maxMessageSize.toNat ∧
          next a call = a.sealed key salt counter) ∨
        ∃ wire, Container.ofWire a.hash.outputSize a.maxMessageSize wire = .ok (next a call).container) := by
  cases call with
  | insert key value => exact ⟨rfl, rfl, Or.inl ⟨rfl, rfl⟩⟩
  | setClaims claims => exact ⟨rfl, rfl, Or.inl ⟨rfl, rfl⟩⟩
  | expire time => exact ⟨rfl, rfl, Or.inl ⟨rfl, rfl⟩⟩
  | encode key e =>
      simp only [next, encoded]
      split
      · rename_i b rest hencode
        obtain ⟨hlimit, salt, counter, rfl⟩ := encode_cases hencode
        exact ⟨rfl, rfl, Or.inr (Or.inl ⟨key, salt, counter, hlimit, rfl⟩)⟩
      · exact ⟨rfl, rfl, Or.inl ⟨rfl, rfl⟩⟩
      · split
        · exact ⟨rfl, rfl, Or.inl ⟨rfl, rfl⟩⟩
        · exact ⟨rfl, rfl, Or.inl ⟨rfl, rfl⟩⟩
  | decode key =>
      simp only [next]
      split
      · rename_i b hdecode
        obtain ⟨claims, rfl⟩ := claims_of_decode hdecode
        exact ⟨rfl, rfl, Or.inl ⟨rfl, rfl⟩⟩
      · exact ⟨rfl, rfl, Or.inl ⟨rfl, rfl⟩⟩
  | readWire wire =>
      simp only [next]
      split
      · rename_i b hread
        obtain ⟨container, hframed, hb⟩ := ok_of_bind hread
        obtain rfl := Except.ok.inj hb
        exact ⟨rfl, rfl, Or.inr (Or.inr ⟨wire, ok_of_mapError hframed⟩)⟩
      · exact ⟨rfl, rfl, Or.inl ⟨rfl, rfl⟩⟩

theorem framed_next {a : Authorization} (h : a.Framed) (call : AuthorizationCall) : (next a call).Framed := by
  obtain ⟨hhash, hlimit, hcontainer⟩ := next_cases a call
  rcases hcontainer with ⟨hsignature, hciphertext⟩ | ⟨key, salt, counter, hclaims, hsealed⟩ | ⟨wire, hread⟩
  · refine ⟨?_, ?_⟩
    · rw [hsignature, hhash]
      exact h.signature
    · rw [hciphertext, hlimit]
      exact h.ciphertext
  · rw [hsealed]
    exact framed_sealed a key salt counter hclaims
  · obtain ⟨hsignature, hciphertext⟩ := Container.sizes_of_ofWire hread
    refine ⟨hsignature.trans (congrArg _ hhash.symm), ?_⟩
    rw [hlimit]
    exact Nat.le_trans hciphertext (Nat.min_le_left _ _)

/-- A run changes neither the hash nor the limit. -/
theorem settings_run (a : Authorization) (calls : List AuthorizationCall) :
    (run a calls).hash = a.hash ∧ (run a calls).maxMessageSize = a.maxMessageSize := by
  induction calls generalizing a with
  | nil => exact ⟨rfl, rfl⟩
  | cons call calls ih =>
      obtain ⟨hhash, hlimit, -⟩ := next_cases a call
      exact ⟨(ih _).1.trans hhash, (ih _).2.trans hlimit⟩

theorem framed_run {a : Authorization} (h : a.Framed) (calls : List AuthorizationCall) :
    (run a calls).Framed := by
  induction calls generalizing a with
  | nil => exact h
  | cons call calls ih => exact ih (framed_next h call)

/-- What is read is there, whatever was done before. -/
theorem container_run_readWire (a : Authorization) (calls : List AuthorizationCall) {wire : String}
    {c : Container} (h : Container.ofWire a.hash.outputSize a.maxMessageSize wire = .ok c) :
    (run a (calls ++ [.readWire wire])).container = c := by
  obtain ⟨hhash, hlimit⟩ := settings_run a calls
  rw [← hhash, ← hlimit] at h
  rw [run, List.foldl_append, List.foldl_cons, List.foldl_nil, ← run, next, readWire_of_ofWire h]

end AuthorizationCall

namespace Authorization

open AuthorizationCall

/-- The wire form of an authorization is one that there can be: its limit is moderate, or else its size is
that of a text. -/
def Writable (a : Authorization) : Prop :=
  a.maxMessageSize.toNat ≤ Container.moderateLimit ∨ a.toWire.utf8ByteSize ≤ Container.maxSize

theorem Framed.utf8ByteSize_toWire_le {a : Authorization} (h : a.Framed) (hwritable : a.Writable) :
    a.toWire.utf8ByteSize ≤ Container.maxSize := by
  rcases hwritable with hlimit | hsize
  · exact Container.utf8ByteSize_toWire_le_maxSize a.container h.length_signature_le
      (Nat.le_trans h.ciphertext (Nat.add_le_add_right hlimit _))
  · exact hsize

/-- **Every container survives the wire.** Whatever was done to a container that was empty at first, its
signature has the size of its hash and its ciphertext is no longer than its limit and a block. If its wire
form is one that there can be, whoever reads that under the same hash and limit has the same container, which
is written as the same text. -/
theorem survives_wire (hash : HashAlgorithm) (limit : UInt64) (calls : List AuthorizationCall) :
    (run (new hash limit) calls).container.signature.length = hash.outputSize ∧
      (run (new hash limit) calls).container.ciphertext.length ≤ limit.toNat + Cipher.blockSize ∧
      ((run (new hash limit) calls).Writable →
        (run (new hash limit) calls).container.ciphertext.length ≤ Container.maxCiphertextLength limit ∧
        ∀ reader : Authorization, reader.hash = hash → reader.maxMessageSize = limit →
          ∃ b, reader.readWire (run (new hash limit) calls).toWire = .ok b ∧
            b.container = (run (new hash limit) calls).container ∧
            b.toWire = (run (new hash limit) calls).toWire) := by
  have hframed := framed_run (framed_new hash limit) calls
  obtain ⟨hhash, hlimit⟩ := settings_run (new hash limit) calls
  have hsignature := hframed.signature
  have hciphertext := hframed.ciphertext
  rw [hhash] at hsignature
  rw [hlimit] at hciphertext
  refine ⟨hsignature, hciphertext, fun hwritable => ⟨?_, fun reader hreader hreader' => ?_⟩⟩
  · exact Nat.le_min.mpr
      ⟨hciphertext, Container.length_ciphertext_le_maxSize _ (hframed.utf8ByteSize_toWire_le hwritable)⟩
  · refine ⟨_, hframed.readWire_toWire ?_ ?_ (hframed.utf8ByteSize_toWire_le hwritable), rfl, rfl⟩
    · rw [hreader, hhash]
      rfl
    · rw [hreader', hlimit]
      rfl

/-- A container with the longest expiry that there is, and bars all over its salt. -/
def longestExpiry : Container :=
  ⟨Int64.minValue, List.replicate saltSize Container.separator, List.replicate HashAlgorithm.sha256.outputSize 0,
    [], by decide⟩

/-- Calls of all kinds, of which the last reads that container. -/
def busy : List AuthorizationCall :=
  [.setClaims .empty, .insert Claims.userKey (.ofText "root"), .expire .earliest,
    .encode [0x0B] ⟨List.replicate (saltSize + Cipher.blockSize) 0⟩, .decode [0x0B]] ++
    [.readWire longestExpiry.toWire]

/-- Under the greatest limit, the longest expiry is read back after calls of all kinds. -/
theorem survives_wire_longestExpiry :
    (run (new .sha256 0xFFFFFFFFFFFFFFFF) busy).Writable ∧
      ∃ b, (new .sha256 0xFFFFFFFFFFFFFFFF).readWire (run (new .sha256 0xFFFFFFFFFFFFFFFF) busy).toWire = .ok b ∧
        b.container = longestExpiry := by
  have hsize : longestExpiry.toWire.utf8ByteSize ≤ Container.maxSize := by decide +kernel
  have hcontainer : (run (new .sha256 0xFFFFFFFFFFFFFFFF) busy).container = longestExpiry :=
    container_run_readWire _ _
      (Container.ofWire_toWire longestExpiry (Nat.zero_le _) hsize)
  have hwritable : (run (new .sha256 0xFFFFFFFFFFFFFFFF) busy).Writable := by
    refine Or.inr ?_
    rw [toWire, hcontainer]
    exact hsize
  obtain ⟨b, hread, hb, -⟩ := ((survives_wire .sha256 0xFFFFFFFFFFFFFFFF busy).2.2 hwritable).2
    (new .sha256 0xFFFFFFFFFFFFFFFF) rfl rfl
  exact ⟨hwritable, b, hread, hb.trans hcontainer⟩

end Authorization

end PaymentCredentials
