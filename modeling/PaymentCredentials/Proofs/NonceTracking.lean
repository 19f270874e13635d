import PaymentCredentials.NonceStore

/-!
What a store of nonces remembers, as a relation between scopes, nonces and expiries. Each operation of
the store is described by what it does to this relation; how the nonces lie in the store is of no
matter beyond this module.
-/
namespace PaymentCredentials.NonceStore

/-- Whether a store remembers a nonce of a scope with an expiry. -/
def Tracks (s : NonceStore) (scope nonce : String) (expiry : Int64) : Prop :=
  ∃ t ∈ s.scopes, t.name = scope ∧ (nonce, expiry) ∈ t.used

theorem contains_iff {s : NonceStore} {scope nonce : String} :
    s.contains scope nonce = true ↔ ∃ expiry, s.Tracks scope nonce expiry := by
  simp only [contains, NonceScope.contains, Tracks, List.any_eq_true, Bool.and_eq_true, decide_eq_true_eq]
  constructor
  · rintro ⟨t, ht, hname, u, hu, rfl⟩
    exact ⟨u.2, t, ht, hname, hu⟩
  · rintro ⟨expiry, t, ht, hname, hu⟩
    exact ⟨t, ht, hname, _, hu, rfl⟩

/-- A nonce that is entered is remembered from then on, and nothing else changes. -/
theorem tracks_insertInto {scope nonce scope' nonce' : String} {expiry expiry' : Int64}
    {scopes : List NonceScope} :
    Tracks ⟨insertInto scope nonce expiry scopes⟩ scope' nonce' expiry' ↔
      Tracks ⟨scopes⟩ scope' nonce' expiry' ∨ scope' = scope ∧ nonce' = nonce ∧ expiry' = expiry := by
  unfold Tracks
  induction scopes with
  | nil =>
      simp only [insertInto, List.mem_singleton, exists_eq_left, List.not_mem_nil, false_and,
        exists_false, false_or, Prod.mk.injEq, eq_comm (a := scope)]
  | cons t rest ih =>
      by_cases ht : t.name = scope
      · simp only [insertInto, ht, if_true, List.mem_cons, exists_eq_or_imp, Prod.mk.injEq]
        constructor
        · rintro (⟨hscope, hnew | hu⟩ | hrest)
          · exact Or.inr ⟨hscope.symm, hnew⟩
          · exact Or.inl (Or.inl ⟨hscope, hu⟩)
          · exact Or.inl (Or.inr hrest)
        · rintro ((⟨hscope, hu⟩ | hrest) | ⟨hscope, hnew⟩)
          · exact Or.inl ⟨hscope, Or.inr hu⟩
          · exact Or.inr hrest
          · exact Or.inl ⟨hscope.symm, Or.inl hnew⟩
      · simp only [insertInto, ht, if_false, List.mem_cons, exists_eq_or_imp]
        rw [ih, or_assoc]

/-- A purge forgets the nonces whose expiry has passed, and no others. -/
theorem tracks_purge {s : NonceStore} {limit : Int64} {scope nonce : String} {expiry : Int64} :
    (s.purge limit).Tracks scope nonce expiry ↔ s.Tracks scope nonce expiry ∧ limit ≤ expiry := by
  simp only [purge, Tracks, NonceScope.purge, List.mem_filter, List.mem_map, decide_eq_true_eq]
  constructor
  · rintro ⟨_, ⟨⟨t, ht, rfl⟩, -⟩, hname, hu⟩
    have hu := List.mem_filter.mp hu
    exact ⟨⟨t, ht, hname, hu.1⟩, of_decide_eq_true hu.2⟩
  · rintro ⟨⟨t, ht, hname, hu⟩, hlimit⟩
    have hkept : (nonce, expiry) ∈ t.used.filter fun u => limit ≤ u.2 :=
      List.mem_filter.mpr ⟨hu, decide_eq_true hlimit⟩
    exact ⟨_, ⟨⟨t, ht, rfl⟩, List.ne_nil_of_mem hkept⟩, hname, hkept⟩

end PaymentCredentials.NonceStore
