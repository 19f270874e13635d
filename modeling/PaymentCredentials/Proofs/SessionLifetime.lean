import PaymentCredentials.Proofs.LoadedSettings
import PaymentCredentials.Proofs.SessionRoundTrip

/-!
Lifetimes and the calendar. Validation bounds a lifetime by the longest length of time, which is much longer than
the calendar: settings may be valid and no session can be issued under them at all. How much of a lifetime is left
at an instant is what the calendar still has after it.
-/
namespace PaymentCredentials

namespace Instant

/-- Whole seconds and a fraction after a whole second. -/
theorem ofNanos?_whole (seconds : Int) (n : Nat) {nanos : Nat} (hnanos : nanos < 1000000000) :
    ofNanos? seconds (nanos + n * nanosPerSecond) = ofUnix? (seconds + n) nanos := by
  have hseconds : (seconds * nanosPerSecond + (nanos + n * nanosPerSecond)).fdiv nanosPerSecond = seconds + n := by
    rw [Int.fdiv_eq_ediv_of_nonneg _ (by decide)]
    unfold nanosPerSecond
    omega
  have hrest : (seconds * nanosPerSecond + (nanos + n * nanosPerSecond)).fmod nanosPerSecond = nanos := by
    rw [Int.fmod_eq_emod_of_nonneg _ (by decide)]
    unfold nanosPerSecond
    omega
  rw [ofNanos?, hseconds, hrest, Int.toNat_natCast]

/-- The calendar has ended, or the second is in it. -/
theorem ofUnix?_cases {n : Int} {nanos : Nat} (hlower : firstSecond ≤ n) (hnanos : nanos < 1000000000) :
    (lastSecond < n ∧ ofUnix? n nanos = none) ∨
      (n ≤ lastSecond ∧ ∃ t, ofUnix? n nanos = some t ∧ t.seconds = n) := by
  by_cases hend : lastSecond < n
  · exact Or.inl ⟨hend, dif_neg fun h => Int.not_le_of_gt hend h.2.1⟩
  · have hupper := Int.not_lt.mp hend
    exact Or.inr ⟨hupper, _, ofUnix?_of_lt hlower hupper hnanos, rfl⟩

/-- Whole seconds later the calendar has ended, or that many seconds have passed. -/
theorem add?_whole_cases (t : Instant) (n : Nat) :
    (lastSecond < t.seconds + n ∧ t.add? ⟨n * nanosPerSecond⟩ = none) ∨
      (t.seconds + n ≤ lastSecond ∧
        ∃ later, t.add? ⟨n * nanosPerSecond⟩ = some later ∧ later.seconds = t.seconds + n) := by
  have hlower := t.lower
  have hnanos := t.nanos_lt
  have hwithin : firstSecond ≤ t.seconds + n := by omega
  rw [add?]
  cases hleap : t.isLeap with
  | false =>
      rw [if_neg Bool.false_ne_true, ofNanos?_whole _ _ (isLeap_eq_false_iff.mp hleap)]
      exact ofUnix?_cases hwithin (isLeap_eq_false_iff.mp hleap)
  | true =>
      have hbeyond : 1000000000 ≤ t.nanos := of_decide_eq_true hleap
      rw [if_pos rfl]
      cases n with
      | zero =>
          have hsame : 1000000000 ≤ t.nanos + ((0 : Nat) : Int) * nanosPerSecond ∧
              t.nanos + ((0 : Nat) : Int) * nanosPerSecond < 2000000000 := by omega
          rw [dif_pos hsame]
          have hupper := t.upper
          exact Or.inr ⟨by omega, _, rfl, by simp⟩
      | succ n =>
          -- The second of the leap second is one of those that pass.
          have hpast : ¬(t.nanos + ((n + 1 : Nat) : Int) * nanosPerSecond < 1000000000) := by
            unfold nanosPerSecond
            omega
          have hleft : ¬(1000000000 ≤ t.nanos + ((n + 1 : Nat) : Int) * nanosPerSecond ∧
              t.nanos + ((n + 1 : Nat) : Int) * nanosPerSecond < 2000000000) := by
            unfold nanosPerSecond
            omega
          have hrest : t.nanos + ((n + 1 : Nat) : Int) * nanosPerSecond - nanosPerSecond =
              ((t.nanos - 1000000000 : Nat) : Int) + ((n + 1 : Nat) : Int) * nanosPerSecond := by
            unfold nanosPerSecond
            omega
          rw [dif_neg hleft, if_neg hpast, hrest, ofNanos?_whole _ _ (by omega)]
          exact ofUnix?_cases hwithin (by omega)

/-- The last second of the year 9999. -/
def lastSecondOf9999 : Int := 253402300799

/-- The last of the 400 years of an era begins with the day 146037 of the era at the latest, if it is counted from
January. -/
theorem yearOfEra_eq {day : Nat} (hfirst : 146037 ≤ day) (hlast : day < 146097) :
    (day - day / 1460 + day / 36524 - day / 146096) / 365 = 399 := by
  have hfours : day / 1460 = 100 := by omega
  omega

/-- From the year 10000 on, years have more than four digits. -/
theorem lt_year_dateOfDays {days : Int} (h : 2932896 < days) : 9999 < (dateOfDays days).year := by
  have hera : (days + 719468).fdiv 146097 = (days + 719468) / 146097 :=
    Int.fdiv_eq_ediv_of_nonneg _ (by decide)
  have hday : (days + 719468).fmod 146097 = (days + 719468) % 146097 :=
    Int.fmod_eq_emod_of_nonneg _ (by decide)
  simp only [dateOfDays, hera, hday]
  by_cases hlater : 25 ≤ (days + 719468) / 146097
  · split <;> omega
  · -- The first two months of the year 10000 still belong to the era before.
    have hcount : (days + 719468) / 146097 = 24 := by omega
    have hfirst : 146037 ≤ ((days + 719468) % 146097).toNat := by omega
    have hlast : ((days + 719468) % 146097).toNat < 146097 := by omega
    rw [yearOfEra_eq hfirst hlast, hcount]
    generalize ((days + 719468) % 146097).toNat = day at hfirst hlast
    have hmonth : 10 ≤ (5 * (day - (365 * 399 + 399 / 4 - 399 / 100)) + 2) / 153 := by omega
    split <;> omega

theorem seconds_le_of_year_le {t : Instant} (h : t.date.year ≤ 9999) : t.seconds ≤ lastSecondOf9999 := by
  have hdays : t.days ≤ 2932896 := by
    by_contra hlater
    exact Int.not_le_of_gt (lt_year_dateOfDays (Int.not_le.mp hlater)) h
  rw [days, Int.fdiv_eq_ediv_of_nonneg _ (by decide)] at hdays
  unfold lastSecondOf9999
  omega

end Instant

namespace SessionAuthority

variable {s : SessionAuthority} {claims : Claims} {now : Instant} {e : Entropy}

/-- Beyond the calendar nothing is issued; within it, no fault of issuing is one of the settings. -/
theorem issueAt_eq_settings_iff {fault : SettingsFault} :
    s.issueAt claims now e = .error (.settings fault) ↔
      fault = .lifetimeOutOfRange ∧ now.add? s.settings.lifetime = none := by
  unfold issueAt
  cases now.add? s.settings.lifetime with
  | none =>
      constructor
      · intro h
        exact ⟨(CredentialFault.settings.inj (Except.error.inj h)).symm, rfl⟩
      · rintro ⟨rfl, -⟩
        rfl
  | some expiresAt =>
      refine ⟨fun h => ?_, nofun⟩
      rcases error_of_bind h with hkey | ⟨key, -, h⟩
      · rw [Keychain.newest_eq] at hkey
        cases hhead : s.keychain.entries.head? with
        | none =>
            rw [hhead] at hkey
            cases hkey
        | some entry =>
            rw [hhead] at hkey
            cases hkey
      rcases error_of_bind h with hencode | ⟨⟨sealedClaims, e₁⟩, -, h⟩
      · rcases Authorization.error_of_encode hencode with ⟨_, _, hfault⟩ | ⟨_, hfault⟩ <;> cases hfault
      · cases h

end SessionAuthority

namespace Settings

variable {s : Settings}

/-- **Valid settings issue sessions within the calendar.** An authority made of valid settings fails to issue a
session for a fault of its settings at exactly the instants after which the calendar has less left than the
lifetime. At every other instant claims within the limit are issued a session, given enough random bytes, and it
expires a whole lifetime later. So no instant of the years up to 9999 makes it fail if, and only if, the lifetime
is no longer than what the calendar has left after the last of them. -/
theorem issues_within_calendar (h : s.validate = .ok ()) {clock : Clock} {e e' : Entropy} {c : Keychain}
    {generated : Option Key} (hbuilt : s.buildKeychain clock e = .ok (c, generated, e')) :
    (∀ claims now supply fault,
      SessionAuthority.issueAt ⟨c, s.session⟩ claims now supply = .error (.settings fault) ↔
        fault = .lifetimeOutOfRange ∧ lastSecond < now.seconds + s.lifetime.toNat) ∧
      (∀ claims now supply, now.seconds + s.lifetime.toNat ≤ lastSecond →
        claims.compress.length ≤ s.maxMessageSize.toNat →
        saltSize + Cipher.blockSize ≤ supply.supply.length →
        ∃ session supply',
          SessionAuthority.issueAt ⟨c, s.session⟩ claims now supply = .ok (session, supply') ∧
            session.expiresAt.seconds = now.seconds + s.lifetime.toNat) ∧
      ((∀ claims now supply fault, 1970 ≤ now.date.year → now.date.year ≤ 9999 →
        SessionAuthority.issueAt ⟨c, s.session⟩ claims now supply ≠ .error (.settings fault)) ↔
        s.lifetime.toNat ≤ lastSecond - Instant.lastSecondOf9999) := by
  have hvalid := s.validate_eq_ok_iff.mp h
  have hlifetime := lifetime_session hvalid
  have hfails : ∀ claims now supply fault,
      SessionAuthority.issueAt ⟨c, s.session⟩ claims now supply = .error (.settings fault) ↔
        fault = .lifetimeOutOfRange ∧ lastSecond < now.seconds + s.lifetime.toNat := by
    intro claims now supply fault
    rw [SessionAuthority.issueAt_eq_settings_iff, hlifetime]
    rcases now.add?_whole_cases s.lifetime.toNat with ⟨hend, hnone⟩ | ⟨hwithin, later, hlater, -⟩
    · exact and_congr_right fun _ => ⟨fun _ => hend, fun _ => hnone⟩
    · rw [hlater]
      exact and_congr_right fun _ => ⟨nofun, fun hend => absurd hwithin (Int.not_le_of_gt hend)⟩
  refine ⟨hfails, ?_, ?_⟩
  · intro claims now supply hwithin hlimit hsupply
    obtain ⟨key, hkey⟩ := Keychain.exists_newest (startsWith_of_buildKeychain hvalid hbuilt).held
    rcases now.add?_whole_cases s.lifetime.toNat with ⟨hend, -⟩ | ⟨-, later, hlater, hseconds⟩
    · exact absurd hwithin (Int.not_le_of_gt hend)
    rw [← hlifetime] at hlater
    obtain ⟨session, supply', hissue⟩ := SessionAuthority.exists_issueAt
      (s := ⟨c, s.session⟩) hlater hkey hlimit hsupply
    refine ⟨session, supply', hissue, ?_⟩
    rw [SessionAuthority.expiresAt_of_issueAt hissue hlater]
    exact hseconds
  · constructor
    · intro hnever
      by_contra hlong
      refine hnever .empty (.atSecond Instant.lastSecondOf9999) ⟨[]⟩ .lifetimeOutOfRange (by decide)
        (by decide) ?_
      refine (hfails _ _ _ _).mpr ⟨rfl, ?_⟩
      have hseconds : (Instant.atSecond Instant.lastSecondOf9999).seconds = Instant.lastSecondOf9999 := by decide
      omega
    · rintro hshort claims now supply fault - hyear hfault
      have hnow := Instant.seconds_le_of_year_le hyear
      have hend := ((hfails claims now supply fault).mp hfault).2
      omega

/-- Settings with one key and a lifetime of so many seconds. -/
def lasting (lifetime : UInt64) : Settings := { standard with authKeys := ["0b"], lifetime := lifetime }

/-- The longest lifetime that validation lets through leads beyond the calendar: no session is issued in November
2023. -/
theorem longest_lifetime_issues_nothing : (lasting 9223372036854775).validate = .ok () ∧
    1970 ≤ SessionAuthority.issuing.date.year ∧ SessionAuthority.issuing.date.year ≤ 9999 ∧
    (lasting 9223372036854775).buildKeychain SessionAuthority.issuing ⟨[]⟩ =
      .ok (⟨[⟨⟨[0x0B]⟩, SessionAuthority.issuing⟩], .standard⟩, none, ⟨[]⟩) ∧
    SessionAuthority.issueAt
        ⟨⟨[⟨⟨[0x0B]⟩, SessionAuthority.issuing⟩], .standard⟩, (lasting 9223372036854775).session⟩
        SessionAuthority.administrator SessionAuthority.issuing SessionAuthority.drawn =
      .error (.settings .lifetimeOutOfRange) := by
  refine ⟨by decide +kernel, by decide, by decide, ?_, ?_⟩
  · rfl
  · rw [SessionAuthority.issueAt_eq_settings_iff]
    exact ⟨rfl, by decide +kernel⟩

/-- Under the longest lifetime that the calendar has room for, a session issued in the last second of the year 9999
expires in the last second of the calendar. -/
theorem issues_within_calendar_at_its_end : (lasting 7956864576000).validate = .ok () ∧
    ∃ c, (lasting 7956864576000).buildKeychain SessionAuthority.issuing ⟨[]⟩ = .ok (c, none, ⟨[]⟩) ∧
      ∃ session supply,
        SessionAuthority.issueAt ⟨c, (lasting 7956864576000).session⟩ SessionAuthority.administrator
          (.atSecond Instant.lastSecondOf9999) SessionAuthority.drawn = .ok (session, supply) ∧
        session.expiresAt.seconds = lastSecond := by
  have hvalid : (lasting 7956864576000).validate = .ok () := by decide +kernel
  have hbuilt := buildKeychain_of_keys ((lasting 7956864576000).validate_eq_ok_iff.mp hvalid).keys
    (List.cons_ne_nil _ _) SessionAuthority.issuing ⟨[]⟩
  have hmoderate : SessionAuthority.administrator.compress.length ≤
      SessionAuthority.administrator.text.length + 23 :=
    Gzip.length_compress_le (by decide +kernel) (by decide +kernel)
  have hlimit : SessionAuthority.administrator.compress.length ≤ (lasting 7956864576000).maxMessageSize.toNat :=
    Nat.le_trans hmoderate (by decide +kernel)
  obtain ⟨-, hissues, -⟩ := issues_within_calendar hvalid hbuilt
  exact ⟨hvalid, _, hbuilt, hissues SessionAuthority.administrator (.atSecond Instant.lastSecondOf9999)
    SessionAuthority.drawn (by decide) hlimit (by decide)⟩

end Settings

end PaymentCredentials
