import PaymentCredentials.Proofs.Blanks
import PaymentCredentials.Proofs.SeededKeychain
import PaymentCredentials.Proofs.SettingsText

/-!
Settings that pass validation can be used. They are read back from their own text, the keychain that they start
with holds the key they name last, and their lifetime is a length of time.
-/
namespace PaymentCredentials

theorem Hex.isBlank_digit {n : UInt8} (h : n < 16) : Text.isBlank (digit n) = false :=
  Bytes.forall_lt (by decide) n h

/-- A key that was told is a key for settings. -/
theorem Key.ofHex_toHex (key : Key) : ofHex key.toHex = .ok key := by
  have hprinted : ∀ c ∈ key.toHex.toList, Text.isBlank c = false := by
    intro c hc
    rw [toHex, Hex.encode, String.toList_ofList, Hex.digits] at hc
    obtain ⟨x, -, hx⟩ := List.mem_flatMap.mp hc
    obtain ⟨hhigh, hlow, -⟩ := Hex.halves x
    rcases List.mem_cons.mp hx with rfl | hx
    · exact Hex.isBlank_digit hhigh
    · rw [List.mem_singleton.mp hx]
      exact Hex.isBlank_digit hlow
  rw [ofHex_eq_ok_iff, Text.trim_eq_self hprinted, toHex, Hex.decode?_encode]

namespace Settings

/-! ### Validation -/

/-- What validation demands of settings. -/
structure Valid (s : Settings) : Prop where
  lifetime_ne_zero : s.lifetime ≠ 0
  lifetime_le : s.lifetime.toNat ≤ Duration.maxSeconds
  maxMessageSize_ne_zero : s.maxMessageSize ≠ 0
  maxMessageSize_le : s.maxMessageSize ≤ maxMessageSizeLimit
  requestMaxAge_ne_zero : s.requestMaxAge ≠ 0
  retention : s.retention.fault? = none
  keys : AllKeys s.authKeys

theorem badKey?_eq_none_iff (index : Nat) (texts : List String) : badKey? index texts = none ↔ AllKeys texts := by
  induction texts generalizing index with
  | nil => exact ⟨fun _ => List.forall_mem_nil _, fun _ => rfl⟩
  | cons text texts ih =>
      rw [AllKeys, List.forall_mem_cons, ← AllKeys, badKey?]
      cases hkey : Key.ofHex text with
      | ok key => exact (ih (index + 1)).trans ⟨fun h => ⟨⟨key, rfl⟩, h⟩, And.right⟩
      | error fault => exact ⟨nofun, fun ⟨⟨_, hok⟩, _⟩ => nomatch hok⟩

theorem fault?_eq_none_iff (s : Settings) : s.fault? = none ↔ s.Valid := by
  constructor
  · intro h
    unfold fault? at h
    split at h
    · cases h
    rename_i hlifetime
    split at h
    · cases h
    rename_i hlong
    split at h
    · cases h
    rename_i hsize
    split at h
    · cases h
    rename_i hlimit
    split at h
    · cases h
    rename_i hage
    cases hretention : s.retention.fault? with
    | some fault =>
        rw [hretention] at h
        cases h
    | none =>
        rw [hretention, Option.map_eq_none_iff, badKey?_eq_none_iff] at h
        exact ⟨hlifetime, Nat.le_of_not_lt hlong, hsize, UInt64.not_lt.mp hlimit, hage, hretention, h⟩
  · intro h
    rw [fault?, if_neg h.lifetime_ne_zero, if_neg (Nat.not_lt_of_le h.lifetime_le),
      if_neg h.maxMessageSize_ne_zero, if_neg (UInt64.not_lt.mpr h.maxMessageSize_le),
      if_neg h.requestMaxAge_ne_zero, h.retention]
    exact Option.map_eq_none_iff.mpr ((badKey?_eq_none_iff 0 s.authKeys).mpr h.keys)

theorem validate_eq_ok_iff (s : Settings) : s.validate = .ok () ↔ s.Valid := by
  rw [← fault?_eq_none_iff, validate]
  cases s.fault? with
  | none => exact ⟨fun _ => rfl, fun _ => rfl⟩
  | some fault => exact ⟨nofun, nofun⟩

variable {s : Settings}

/-- Valid settings are loaded from both texts of their JSON form. -/
theorem ofBytes_written (h : s.Valid) :
    ofBytes s.toJson.compact = .ok s ∧ ofBytes (s.toJson.pretty 0) = .ok s := by
  have hvalid : s.validate = .ok () := s.validate_eq_ok_iff.mpr h
  obtain ⟨hcompact, hpretty⟩ := s.decode_written
  rw [ofBytes, hcompact, ofBytes, hpretty]
  exact ⟨bind_of_ok hvalid _, bind_of_ok hvalid _⟩

/-- Settings that were loaded are valid. -/
theorem valid_of_ofFile {path : String} {file : Except FileFault Bytes} (h : ofFile path file = .ok s) : s.Valid := by
  cases file with
  | error fault => cases h
  | ok b =>
      obtain ⟨read, -, h⟩ := ok_of_bind h
      obtain ⟨_, hvalidate, h⟩ := ok_of_bind h
      obtain rfl := Except.ok.inj h
      exact read.validate_eq_ok_iff.mp hvalidate

/-! ### What is made of valid settings -/

/-- A window that is valid does not pass while a clock stands still. -/
theorem outlasts_still (h : s.Valid) (time : Instant) : s.retention.Outlasts (Clock.still time) := by
  intro secs hpolicy
  have hfault := h.retention
  rw [hpolicy, RetentionPolicy.fault?] at hfault
  split at hfault
  · cases hfault
  · rename_i hne
    exact Clock.within_still time (Nat.pos_of_ne_zero fun hzero => hne (UInt64.toNat_inj.mp hzero))

theorem lifetime_session (h : s.Valid) : s.session.lifetime = ⟨s.lifetime.toNat * nanosPerSecond⟩ := by
  rw [session, Duration.ofSeconds?, if_pos h.lifetime_le, Option.getD_some]

/-- The longest of all lengths of time is no count of whole seconds. -/
theorem whole_ne_longest (n : Nat) : (⟨n * nanosPerSecond⟩ : Duration) ≠ .longest := by
  intro h
  have hnanoseconds := congrArg Duration.nanoseconds h
  simp only [nanosPerSecond, Duration.longest] at hnanoseconds
  omega

/-- What a keychain holds that was made for settings, with a key generated for it or without, and which random bytes
were drawn for it. -/
structure StartsWith (s : Settings) (e : Entropy) (c : Keychain) (generated : Option Key) (e' : Entropy) : Prop where
  held : c.entries ≠ []
  /-- The newest key is the last one of the settings. -/
  newest : ∀ text ∈ s.authKeys.getLast?,
    ∃ b, Hex.decode? (Text.trim text) = some b ∧ c.newest = .ok ⟨b⟩
  isSome_generated_iff : generated.isSome = true ↔ s.authKeys = []
  /-- Without a generated key nothing is drawn. -/
  undrawn : generated = none → e' = e
  /-- A generated key is the first 32 random bytes. It is the newest one, and the text that tells it is a key for
  settings. -/
  generated : ∀ key ∈ generated, key.bytes.length = 32 ∧ e.supply = key.bytes ++ e'.supply ∧
    c.newest = .ok key ∧ Key.ofHex key.toHex = .ok key
  keyCount : ∀ count, s.retention = .keepLatest count →
    c.keyCount = if s.authKeys = [] then 1 else min s.authKeys.length count.toNat

theorem startsWith_seeded (h : s.Valid) (hne : s.authKeys ≠ []) (clock : Clock) (e : Entropy) :
    s.StartsWith e (seeded s.retention clock s.authKeys) none e := by
  have hheld : (seeded s.retention clock s.authKeys).entries ≠ [] := by
    rwa [ne_eq, seeded_eq_nil_iff s.retention clock h.keys]
  constructor
  case held => exact hheld
  case newest =>
    intro text htext
    obtain ⟨key, hkey⟩ := h.keys text (List.mem_of_getLast? htext)
    refine ⟨key.bytes, Key.ofHex_eq_ok_iff.mp hkey, ?_⟩
    rw [Keychain.newest_eq, head?_seeded s.retention clock h.keys, getLast?_keysOf htext hkey]
    rfl
  case isSome_generated_iff => exact ⟨nofun, fun hnil => absurd hnil hne⟩
  case generated => nofun
  case undrawn => exact fun _ => rfl
  case keyCount =>
    intro count hcount
    have hpositive : count.toNat ≠ 0 := by
      intro hzero
      have hfault := h.retention
      rw [hcount, RetentionPolicy.fault?, if_pos (UInt64.toNat_inj.mp hzero)] at hfault
      cases hfault
    have hkeys := map_key_seeded_keepLatest count clock h.keys
    have hlength := congrArg List.length hkeys
    rw [List.length_map, List.length_take, List.length_reverse, length_keysOf h.keys] at hlength
    rw [if_neg hne, Keychain.keyCount, hcount, hlength]
    omega

theorem startsWith_generated (hnil : s.authKeys = []) {e e' : Entropy} {key : Key}
    (hkey : Key.generate e = .ok (key, e')) (time : Instant) :
    s.StartsWith e ((Keychain.empty s.retention).addAt key time) (some key) e' := by
  have hentries : ((Keychain.empty s.retention).addAt key time).entries = [⟨key, time⟩] := rfl
  have hnewest : ((Keychain.empty s.retention).addAt key time).newest = .ok key := rfl
  constructor
  case held =>
    rw [hentries]
    exact List.cons_ne_nil _ _
  case newest =>
    intro text htext
    rw [hnil] at htext
    cases htext
  case isSome_generated_iff => exact ⟨fun _ => hnil, fun _ => rfl⟩
  case generated =>
    rintro _ ⟨⟩
    obtain ⟨hlength, hsupply⟩ := Key.supply_of_generate hkey
    exact ⟨hlength, hsupply, hnewest, key.ofHex_toHex⟩
  case undrawn => nofun
  case keyCount =>
    intro _ _
    rw [Keychain.keyCount, hentries, if_pos hnil]
    rfl

/-- Every keychain that is made for valid settings is one to start with. -/
theorem startsWith_of_buildKeychain (h : s.Valid) {clock : Clock} {e e' : Entropy} {c : Keychain}
    {generated : Option Key} (hbuilt : s.buildKeychain clock e = .ok (c, generated, e')) :
    s.StartsWith e c generated e' := by
  by_cases hnil : s.authKeys = []
  · obtain ⟨key, hkey, rfl, rfl⟩ := buildKeychain_cases hnil hbuilt
    exact startsWith_generated hnil hkey _
  · rw [buildKeychain_of_keys h.keys hnil] at hbuilt
    obtain ⟨rfl, rfl, rfl⟩ := hbuilt
    exact startsWith_seeded h hnil clock e

theorem exists_buildKeychain (h : s.Valid) (clock : Clock) {e : Entropy}
    (hsupply : s.authKeys = [] → Key.generatedSize ≤ e.supply.length) :
    ∃ c generated e', s.buildKeychain clock e = .ok (c, generated, e') := by
  by_cases hnil : s.authKeys = []
  · exact exists_buildKeychain_of_no_keys hnil clock (hsupply hnil)
  · exact ⟨_, _, _, buildKeychain_of_keys h.keys hnil clock e⟩

/-- **Valid settings can be used, and are what they say.** They are loaded again from either text of their JSON
form. Unless they are short of the random bytes for a key that they do not name, their keychain is made whatever
the clock shows: it is not empty, the last key of the settings is the newest one held, a key is drawn and told
just in case they name none, and with a bound on the count that many keys are held or as many as there are. The
lifetime of a session is as many seconds as they say, and not the longest length of time instead. -/
theorem usable_of_validate (h : s.validate = .ok ()) :
    (ofBytes s.toJson.compact = .ok s ∧ ofBytes (s.toJson.pretty 0) = .ok s) ∧
      (∀ (clock : Clock) (e : Entropy), (s.authKeys = [] → Key.generatedSize ≤ e.supply.length) →
        ∃ c generated e', s.buildKeychain clock e = .ok (c, generated, e') ∧
          s.StartsWith e c generated e') ∧
      s.session.lifetime = ⟨s.lifetime.toNat * nanosPerSecond⟩ ∧ s.session.lifetime ≠ .longest := by
  have hvalid := s.validate_eq_ok_iff.mp h
  have hlifetime := lifetime_session hvalid
  refine ⟨ofBytes_written hvalid, ?_, hlifetime, ?_⟩
  · intro clock e hsupply
    obtain ⟨c, generated, e', hbuilt⟩ := exists_buildKeychain hvalid clock hsupply
    exact ⟨c, generated, e', hbuilt, startsWith_of_buildKeychain hvalid hbuilt⟩
  · rw [hlifetime]
    exact whole_ne_longest _

/-- Settings at their bounds: keys between blanks and in letters of either case, one of them kept, the longest
lifetime. -/
def atBounds : Settings :=
  ⟨[" 0A\n", "\t0b0C "], .sha512, 9223372036854775, maxMessageSizeLimit, .keepLatest 1, 0xFFFFFFFFFFFFFFFF,
    .standard⟩

/-- Of the settings at their bounds, the last key is held alone, and the lifetime is exact. The standard settings
name no key, so the first 32 random bytes are the only one. -/
theorem usable_of_validate_atBounds : atBounds.validate = .ok () ∧ standard.validate = .ok () ∧
    ofBytes (atBounds.toJson.pretty 0) = .ok atBounds ∧
    (∃ c generated e',
      atBounds.buildKeychain (Clock.still (.atSecond 1700000000)) ⟨[]⟩ = .ok (c, generated, e') ∧
      c.newest = .ok ⟨[0x0B, 0x0C]⟩ ∧ generated = none ∧ c.keyCount = 1) ∧
    atBounds.session.lifetime = ⟨9223372036854775000000000⟩ ∧
    ∃ c key e',
      standard.buildKeychain (Clock.still (.atSecond 1700000000)) ⟨List.replicate 32 7 ++ [8]⟩ =
        .ok (c, some key, e') ∧
      key.bytes = List.replicate 32 7 ∧ e'.supply = [8] ∧ c.newest = .ok key := by
  have hvalid : atBounds.validate = .ok () := by decide +kernel
  have hstandard : standard.validate = .ok () := by decide +kernel
  obtain ⟨⟨-, hpretty⟩, hbuilt, hlifetime, -⟩ := usable_of_validate hvalid
  obtain ⟨c, generated, e', hc, hstarts⟩ := hbuilt (Clock.still (.atSecond 1700000000)) ⟨[]⟩ nofun
  obtain ⟨b, hb, hnewest⟩ := hstarts.newest "\t0b0C " rfl
  have hread : Hex.decode? (Text.trim "\t0b0C ") = some [0x0B, 0x0C] := by decide +kernel
  have hnone : generated = none := by
    rw [← Option.not_isSome_iff_eq_none, hstarts.isSome_generated_iff]
    exact List.cons_ne_nil _ _
  have hnewestBytes : c.newest = .ok ⟨[0x0B, 0x0C]⟩ := by rw [hnewest, Option.some.inj (hb.symm.trans hread)]
  refine ⟨hvalid, hstandard, hpretty, ⟨c, generated, e', hc, hnewestBytes, hnone, hstarts.keyCount 1 rfl⟩,
    hlifetime, ?_⟩
  obtain ⟨-, hbuilt, -⟩ := usable_of_validate hstandard
  obtain ⟨c, generated, e', hc, hstarts⟩ :=
    hbuilt (Clock.still (.atSecond 1700000000)) ⟨List.replicate 32 7 ++ [8]⟩ (fun _ => by decide)
  obtain ⟨key, rfl⟩ := Option.isSome_iff_exists.mp (hstarts.isSome_generated_iff.mpr rfl)
  obtain ⟨hlength, hsupply, hnewest, -⟩ := hstarts.generated key rfl
  obtain ⟨hkey, hrest⟩ := List.append_inj hsupply hlength.symm
  exact ⟨c, key, e', hc, hkey.symm, hrest.symm, hnewest⟩

end Settings

end PaymentCredentials
