import PaymentCredentials.Instant

/-!
Instants, their order and their whole seconds.
-/
namespace PaymentCredentials.Instant

/-- The calendar lies within the 64-bit seconds. -/
theorem toInt_timestamp (t : Instant) : t.timestamp.toInt = t.seconds := by
  have hlower := t.lower
  have hupper := t.upper
  unfold firstSecond at hlower
  unfold lastSecond at hupper
  exact Int64.toInt_ofInt_of_le (by omega) (by omega)

theorem seconds_le_of_not_before {s t : Instant} (h : t.before s = false) :
    s.seconds ≤ t.seconds := by
  simp only [before, Bool.or_eq_false_iff, decide_eq_false_iff_not] at h
  omega

/-- Instants are in the order of their seconds, and within a second of their nanoseconds. -/
theorem before_iff {s t : Instant} :
    s.before t = true ↔ s.seconds < t.seconds ∨ s.seconds = t.seconds ∧ s.nanos < t.nanos := by
  simp only [before, Bool.or_eq_true, Bool.and_eq_true, decide_eq_true_eq, beq_iff_eq]

theorem not_before_iff {s t : Instant} :
    s.before t = false ↔ t.seconds < s.seconds ∨ t.seconds = s.seconds ∧ t.nanos ≤ s.nanos := by
  rw [Bool.eq_false_iff, ne_eq, before_iff]
  omega

theorem not_before_self (t : Instant) : t.before t = false :=
  not_before_iff.mpr (Or.inr ⟨rfl, Nat.le_refl _⟩)

theorem not_before_trans {s t u : Instant} (hst : t.before s = false) (htu : u.before t = false) :
    u.before s = false := by
  rw [not_before_iff] at hst htu ⊢
  omega

/-- Two instants neither of which is before the other are one. -/
theorem eq_of_not_before {s t : Instant} (hst : t.before s = false) (hts : s.before t = false) : s = t := by
  rw [not_before_iff] at hst hts
  cases s
  cases t
  simp only at hst hts
  simp only [mk.injEq]
  omega

/-- Nothing is before the beginning of the calendar. -/
theorem not_before_earliest (t : Instant) : t.before earliest = false := by
  have ht := t.lower
  rw [not_before_iff]
  simp only [earliest]
  omega

/-! ### Measured time -/

theorem isLeap_eq_false_iff {t : Instant} : t.isLeap = false ↔ t.nanos < 1000000000 := by
  rw [isLeap, decide_eq_false_iff_not, Nat.not_le]

theorem nanosUntil_self (t : Instant) : t.nanosUntil t = 0 := by
  rw [nanosUntil, if_neg fun h => Nat.lt_irrefl _ h.1, if_neg fun h => Nat.lt_irrefl _ h.1, Int.sub_self]

theorem secondsUntil_self (t : Instant) : t.secondsUntil t = 0 := by
  rw [secondsUntil, nanosUntil_self, Int.zero_tdiv]

/-- Outside of leap seconds, instants are as far from each other as their nanoseconds. -/
theorem nanosUntil_of_plain {s t : Instant} (hs : s.isLeap = false) (ht : t.isLeap = false) :
    s.nanosUntil t = t.totalNanos - s.totalNanos := by
  rw [nanosUntil, hs, ht, if_neg fun h => Bool.false_ne_true h.2, if_neg fun h => Bool.false_ne_true h.2]

/-- Outside of leap seconds, instants are in the order of their nanoseconds. -/
theorem not_before_iff_of_plain {s t : Instant} (hs : s.isLeap = false) (ht : t.isLeap = false) :
    s.before t = false ↔ t.totalNanos ≤ s.totalNanos := by
  rw [isLeap_eq_false_iff] at hs ht
  rw [not_before_iff]
  simp only [totalNanos, nanosPerSecond]
  omega

/-- Outside of leap seconds, more whole seconds lie between two instants the earlier the one and the later the other
is. -/
theorem secondsUntil_le_of_plain {s s' t t' : Instant} (hs : s.isLeap = false) (hs' : s'.isLeap = false)
    (ht : t.isLeap = false) (ht' : t'.isLeap = false) (hearlier : s.before s' = false)
    (hlater : t'.before t = false) : s.secondsUntil t ≤ s'.secondsUntil t' := by
  rw [not_before_iff_of_plain hs hs'] at hearlier
  rw [not_before_iff_of_plain ht' ht] at hlater
  rw [secondsUntil, secondsUntil, nanosUntil_of_plain hs ht, nanosUntil_of_plain hs' ht']
  exact Int.tdiv_le_tdiv (by decide) (Int.sub_le_sub hlater hearlier)

theorem secondsUntil_lt_of_plain {s t : Instant} (hs : s.isLeap = false) (ht : t.isLeap = false)
    (hle : t.before s = false) {n : Int} (h : t.totalNanos < s.totalNanos + n * nanosPerSecond) :
    s.secondsUntil t < n := by
  rw [not_before_iff_of_plain ht hs] at hle
  rw [secondsUntil, nanosUntil_of_plain hs ht, Int.tdiv_eq_ediv_of_nonneg (Int.sub_nonneg_of_le hle),
    Int.ediv_lt_iff_lt_mul (by decide)]
  omega

/-- Time is measured evenly among instants: up to the later one of two no less is measured than up to the earlier
one, and from the earlier one on no less than from the later one on. -/
def Even (instants : List Instant) : Prop :=
  ∀ s ∈ instants, ∀ t ∈ instants, ∀ u ∈ instants, t.before s = false → u.before t = false →
    s.secondsUntil t ≤ s.secondsUntil u ∧ t.secondsUntil u ≤ s.secondsUntil u

instance (instants : List Instant) : Decidable (Even instants) :=
  inferInstanceAs (Decidable (∀ s ∈ instants, ∀ t ∈ instants, ∀ u ∈ instants, _ → _ → _))

/-- Outside of leap seconds time is measured evenly. -/
theorem even_of_plain {instants : List Instant} (h : ∀ t ∈ instants, t.isLeap = false) : Even instants := by
  intro s hs t ht u hu hst htu
  constructor
  · exact secondsUntil_le_of_plain (h s hs) (h s hs) (h t ht) (h u hu) s.not_before_self htu
  · exact secondsUntil_le_of_plain (h t ht) (h s hs) (h u hu) (h u hu) hst u.not_before_self

/-! ### Whole seconds -/

/-- The beginning of a second. Seconds beyond the calendar count as its beginning. -/
def atSecond (n : Int) : Instant := (ofUnix? n 0).getD earliest

/-- The whole second that an instant lies in. -/
def whole (t : Instant) : Instant := ⟨t.seconds, 0, t.lower, t.upper, earliest.nanos_lt⟩

theorem isLeap_whole (t : Instant) : t.whole.isLeap = false := rfl

/-! ### Later instants -/

theorem ofUnix?_of_lt {n : Int} {nanos : Nat} (hlower : firstSecond ≤ n) (hupper : n ≤ lastSecond)
    (hnanos : nanos < 1000000000) :
    ofUnix? n nanos = some ⟨n, nanos, hlower, hupper, Nat.lt_trans hnanos (by decide)⟩ :=
  dif_pos ⟨hlower, hupper, Nat.lt_of_lt_of_le hnanos (le_nanosIn n)⟩

theorem eq_of_ofUnix? {n : Int} {nanos : Nat} {t : Instant} (h : ofUnix? n nanos = some t) :
    t.seconds = n ∧ t.nanos = nanos := by
  rw [ofUnix?, Option.dite_none_right_eq_some] at h
  obtain ⟨_, h⟩ := h
  rw [← Option.some.inj h]
  exact ⟨rfl, rfl⟩

/-- Nanoseconds after a whole second lead out of leap seconds. -/
theorem of_ofNanos? {n nanos : Int} {t : Instant} (h : ofNanos? n nanos = some t) :
    t.isLeap = false ∧ t.totalNanos = n * nanosPerSecond + nanos := by
  have hpos : 0 < nanosPerSecond := by decide
  have hnonneg := Int.fmod_nonneg_of_pos (n * nanosPerSecond + nanos) hpos
  have hlt := Int.fmod_lt_of_pos (n * nanosPerSecond + nanos) hpos
  obtain ⟨hseconds, hnanos⟩ := eq_of_ofUnix? h
  constructor
  · rw [isLeap_eq_false_iff, hnanos]
    unfold nanosPerSecond at hlt hnonneg ⊢
    omega
  · rw [totalNanos, hseconds, hnanos, Int.toNat_of_nonneg hnonneg, Int.mul_comm]
    exact Int.mul_fdiv_add_fmod _ _

/-- A length of time leads to an instant of the same leap second, or out of leap seconds, that many nanoseconds later,
less the second that ends with the leap second when it is left behind. -/
theorem add?_cases {s t : Instant} {d : Duration} (h : s.add? d = some t) :
    (s.isLeap = true ∧ t.seconds = s.seconds) ∨
      (t.isLeap = false ∧ (s.isLeap = true → s.nanos + d.nanoseconds < nanosPerSecond) ∧
        t.totalNanos = s.totalNanos + d.nanoseconds) ∨
      (s.isLeap = true ∧ t.isLeap = false ∧ t.totalNanos = s.totalNanos + d.nanoseconds - nanosPerSecond) := by
  rw [add?] at h
  cases hs : s.isLeap with
  | false =>
      rw [hs, if_neg Bool.false_ne_true] at h
      obtain ⟨hplain, htotal⟩ := of_ofNanos? h
      exact Or.inr (Or.inl ⟨hplain, nofun, htotal.trans (Int.add_assoc _ _ _).symm⟩)
  | true =>
      rw [hs, if_pos rfl] at h
      split at h
      · obtain rfl := Option.some.inj h
        exact Or.inl ⟨rfl, rfl⟩
      obtain ⟨hplain, htotal⟩ := of_ofNanos? h
      split at htotal
      · exact Or.inr (Or.inl ⟨hplain, fun _ => ‹_›, htotal.trans (Int.add_assoc _ _ _).symm⟩)
      · refine Or.inr (Or.inr ⟨rfl, hplain, htotal.trans ?_⟩)
        rw [totalNanos]
        omega

/-- From an instant to the whole second that lies a length of time later, less than that length passes after the
instant. -/
theorem totalNanos_whole_lt_of_add? {s r t : Instant} {d : Duration} (h : s.add? d = some t)
    (hr : r.isLeap = false) (hafter : s.before r = true) (hle : t.whole.before r = false) :
    t.whole.totalNanos < r.totalNanos + d.nanoseconds := by
  rw [isLeap_eq_false_iff] at hr
  rw [before_iff] at hafter
  rw [not_before_iff] at hle
  have hs := s.nanos_lt
  rcases add?_cases h with ⟨hleap, hseconds⟩ | ⟨hplain, hend, htotal⟩ | ⟨hleap, hplain, htotal⟩
  all_goals simp only [totalNanos, whole, isLeap, nanosPerSecond, decide_eq_true_eq] at *
  all_goals omega

theorem ofUnix?_timestamp (t : Instant) : ofUnix? t.timestamp.toInt 0 = some t.whole := by
  rw [toInt_timestamp, ofUnix?_of_lt t.lower t.upper (by decide)]
  rfl

end PaymentCredentials.Instant
