import PaymentCredentials.Proofs.Replay
import PaymentCredentials.Proofs.RequestDecision

/-!
The window of timestamps at every corner of its range. The distance of a timestamp is computed within 64 bits,
and a distance into the past that is too great for them is cut off to the greatest one. Only the widest window
lets that through, so that a timestamp is fresh that is too old, and whose nonce expires before it was used.
-/
namespace PaymentCredentials

namespace RequestVerifier

/-- The widest window, to which a new verifier cuts off any other. -/
def widest : Nat := 0x7FFFFFFFFFFFFFFF

/-- How far a timestamp is from the time at hand, before it or after it. -/
def distance (timestamp : Int64) (now : Instant) : Nat := (now.timestamp.toInt - timestamp.toInt).natAbs

/-- The window is the widest one, and the timestamp lies farther back than that. -/
def Overruns (window : UInt64) (timestamp : Int64) (now : Instant) : Prop :=
  widest ≤ window.toNat ∧ (widest : Int) < now.timestamp.toInt - timestamp.toInt

section

variable {σ : Type} (nonces : σ) (window : UInt64)

/-- A timestamp is fresh when its distance is within the window, and when it overruns the widest one. -/
theorem isFresh_new_iff (timestamp : Int64) (now : Instant) :
    isFresh (new nonces window).maxAge timestamp now = true ↔
      distance timestamp now ≤ min window.toNat widest ∨ Overruns window timestamp now := by
  rw [isFresh_iff_or, toInt_maxAge]
  simp only [distance, Overruns, widest, now.toInt_timestamp]
  omega

/-- Of the times at which a timestamp is fresh, those behind the expiry of its nonce are the ones at which it
overruns the window. -/
theorem fresh_behind_expiry_iff (timestamp : Int64) (later : Instant) :
    isFresh (new nonces window).maxAge timestamp later = true ∧
        nonceExpiry (new nonces window).maxAge timestamp < later.timestamp ↔
      Overruns window timestamp later := by
  have hlower := later.lower
  have hupper := later.upper
  have hmaxAge := toInt_maxAge nonces window
  rw [isFresh_new_iff, Int64.lt_iff_toInt_lt, toInt_nonceExpiry (by omega), hmaxAge]
  simp only [distance, Overruns, widest, firstSecond, lastSecond, later.toInt_timestamp] at hlower hupper ⊢
  omega

end

/-- The expiry of an accepted nonce is the only one with which it is remembered. -/
theorem tracks_next_iff {v : RequestVerifier NonceStore} {c : VerifierCall} {a : Admission}
    (h : c.admits v = some a) (expiry : Int64) :
    (c.next v).nonces.Tracks a.scope a.nonce expiry ↔ expiry = nonceExpiry v.maxAge a.timestamp := by
  cases c with
  | verify key request now =>
      rcases v.verifyAt_cases key request now with ⟨fault, hcall⟩ | ⟨-, -, hunused, hcall⟩
      · rw [VerifierCall.admits, hcall] at h
        cases h
      · rw [VerifierCall.admits, hcall] at h
        cases h
        have hbefore := not_contains_iff.mp hunused expiry
        rw [VerifierCall.next, hcall, NonceStore.tracks_insertInto]
        simp only [hbefore, false_or, true_and]
  | purge now => cases h

/-- A request whose signature and nonce are in order is accepted or refused by its timestamp. -/
theorem verifyAt_eq_ok_iff_isFresh {α : Type} [ProjectRequest α] {key : ProjectKey} {request : α}
    (hsigned : checkSignature key request = .ok ()) {v : RequestVerifier NonceStore}
    (hunused : v.nonces.contains (ProjectRequest.projectKey request) (Stamped.stamp request).nonce = false)
    (now : Instant) :
    (v.verifyAt key request now).1 = .ok () ↔
      isFresh v.maxAge (Stamped.stamp request).timestamp now = true := by
  rw [verifyAt_of_ok hsigned]
  simp only [hunused, and_true]
  split
  · rename_i hfresh
    simp only [hfresh]
  · rename_i hstale
    simp only [hstale, reduceCtorEq]

/-- **The freshness window.** For every window, timestamp and time at hand, a new verifier takes a timestamp for
fresh just in case their distance is within the window, cut off at the widest, or the timestamp overruns that;
and this decides about a request whose signature and nonce are in order. A nonce that is accepted is remembered
with one expiry, and no second behind that expiry finds its timestamp fresh but those at which it overruns
the window. -/
theorem window_exact (nonces : NonceStore) (window : UInt64) :
    (∀ (timestamp : Int64) (now : Instant), isFresh (new nonces window).maxAge timestamp now = true ↔
      distance timestamp now ≤ min window.toNat widest ∨ Overruns window timestamp now) ∧
    (∀ {α : Type} [ProjectRequest α] (key : ProjectKey) (request : α) (now : Instant),
      checkSignature key request = .ok () →
      nonces.contains (ProjectRequest.projectKey request) (Stamped.stamp request).nonce = false →
      (((new nonces window).verifyAt key request now).1 = .ok () ↔
        distance (Stamped.stamp request).timestamp now ≤ min window.toNat widest ∨
          Overruns window (Stamped.stamp request).timestamp now)) ∧
    ∀ (c : VerifierCall) (a : Admission), c.admits (new nonces window) = some a →
      ∃ expiry, (∀ e, (c.next (new nonces window)).nonces.Tracks a.scope a.nonce e ↔ e = expiry) ∧
        ∀ later : Instant, isFresh (new nonces window).maxAge a.timestamp later = true ∧
          expiry < later.timestamp ↔ Overruns window a.timestamp later := by
  refine ⟨isFresh_new_iff nonces window, ?_, ?_⟩
  · intro α _ key request now hsigned hunused
    exact (verifyAt_eq_ok_iff_isFresh hsigned hunused now).trans (isFresh_new_iff nonces window _ now)
  · intro c a hadmits
    exact ⟨nonceExpiry (new nonces window).maxAge a.timestamp, tracks_next_iff hadmits,
      fresh_behind_expiry_iff nonces window a.timestamp⟩

/-- The beginning of 1970. -/
def epoch : Instant := Instant.atSecond 0

/-- A request of the earliest second that there is. -/
def ancientCall : VerifierCall :=
  statusCall Int64.minValue "cfaf03a8dfb120b00b661ada6fdfcd68c4a0b011acabf2f7c3a4ccd362e259ac" epoch

/-- The widest window overrun: a request is accepted whose timestamp lies one second farther back than the window
reaches, and is accepted again when a purge of the same second has forgotten its nonce. -/
theorem ancient_accepted_twice :
    widest < distance Int64.minValue epoch ∧
      isFresh (new NonceStore.empty 0x7FFFFFFFFFFFFFFF).maxAge Int64.minValue epoch = true ∧
      nonceExpiry (new NonceStore.empty 0x7FFFFFFFFFFFFFFF).maxAge Int64.minValue < epoch.timestamp ∧
      ancientCall.admits (new .empty 0x7FFFFFFFFFFFFFFF) = some ⟨"shop", "n1", Int64.minValue⟩ ∧
      ancientCall.admits (VerifierCall.run (new .empty 0x7FFFFFFFFFFFFFFF) [ancientCall, .purge epoch]) =
        some ⟨"shop", "n1", Int64.minValue⟩ := by
  refine ⟨?_, ?_, ?_, ?_, ?_⟩
  all_goals decide +kernel

/-- The request of the first call. -/
def firstRequest : StatusRequest :=
  { StatusRequest.new "shop" (some "1234") none with
    stamp := ⟨1000, "n1", "460b1258dd1296469e2cec9e82f86261b7502519157e02e6c9c642682e84646e"⟩ }

/-- With a window of sixty seconds, the request is accepted sixty seconds after it was signed and not one second
later; its nonce is remembered as long as its timestamp is fresh. -/
theorem window_exact_first :
    ((new NonceStore.empty 60).verifyAt (ProjectKey.new "shop" "0b") firstRequest (Instant.atSecond 1060)).1 =
        .ok () ∧
      ((new NonceStore.empty 60).verifyAt (ProjectKey.new "shop" "0b") firstRequest (Instant.atSecond 1061)).1 ≠
        .ok () ∧
      firstCall.admits (new .empty 60) = some ⟨"shop", "n1", 1000⟩ ∧
      ∃ expiry, (∀ e, (firstCall.next (new .empty 60)).nonces.Tracks "shop" "n1" e ↔ e = expiry) ∧
        ∀ later : Instant, isFresh (new NonceStore.empty 60).maxAge 1000 later = true →
          later.timestamp ≤ expiry := by
  have hsigned : checkSignature (ProjectKey.new "shop" "0b") firstRequest = .ok () :=
    ok_of_toOption (by decide +kernel)
  have hadmits : firstCall.admits (new .empty 60) = some ⟨"shop", "n1", 1000⟩ := by decide +kernel
  obtain ⟨-, hdecides, hremembers⟩ := window_exact .empty 60
  have hdistance := fun now => hdecides (ProjectKey.new "shop" "0b") firstRequest now hsigned rfl
  obtain ⟨expiry, htracks, hbehind⟩ := hremembers firstCall _ hadmits
  refine ⟨(hdistance _).mpr (Or.inl (by decide +kernel)), ?_, hadmits, expiry, htracks, ?_⟩
  · rw [Ne, hdistance]
    rintro (hnear | hoverruns)
    · exact absurd hnear (by decide +kernel)
    · exact absurd hoverruns.1 (by decide)
  · intro later hfresh
    apply Int64.not_lt.mp
    intro hlt
    exact absurd ((hbehind later).mp ⟨hfresh, hlt⟩).1 (by decide)

end RequestVerifier

end PaymentCredentials
