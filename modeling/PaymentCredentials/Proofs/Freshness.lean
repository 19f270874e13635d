import PaymentCredentials.Proofs.Seconds
import PaymentCredentials.Verifier

/-!
The window of timestamps in exact integers. The check of a timestamp, the expiry of its nonce and the
comparison at a purge are cut off at the ends of the 64-bit range; below the widest window none of the
cuts changes an answer, so that a nonce is purged only when no request with its timestamp is fresh.
-/
namespace PaymentCredentials

theorem toInt_saturated (i : Int) :
    (saturated i).toInt = max (-0x8000000000000000) (min i 0x7FFFFFFFFFFFFFFF) := by
  unfold saturated
  split
  · rw [Int64.toInt_minValue]
    omega
  · split
    · rw [Int64.toInt_maxValue]
      omega
    · rw [Int64.toInt_ofInt_of_le (by omega) (by omega)]
      omega

namespace RequestVerifier

/-- The greatest distance of a new verifier, as an integer. -/
theorem toInt_maxAge {σ : Type} (nonces : σ) (window : UInt64) :
    (new nonces window).maxAge.toInt = min (window.toNat : Int) 0x7FFFFFFFFFFFFFFF := by
  unfold new
  rw [toInt_saturated]
  omega

theorem toInt_maxAge_new {σ : Type} (nonces : σ) {window : UInt64} (h : window.toNat < 0x8000000000000000) :
    (new nonces window).maxAge.toInt = window.toNat := by
  rw [toInt_maxAge]
  omega

/-- A timestamp is fresh when its distance to the time at hand, in exact integers, is within the window. The
greatest distances are cut off, into the past to what is within the widest window. -/
theorem isFresh_iff_or {maxAge timestamp : Int64} {now : Instant} :
    isFresh maxAge timestamp now = true ↔
      ((now.seconds - timestamp.toInt).natAbs : Int) ≤ maxAge.toInt ∨
        maxAge.toInt = 0x7FFFFFFFFFFFFFFF ∧ 0x7FFFFFFFFFFFFFFF < now.seconds - timestamp.toInt := by
  have hlt := maxAge.toInt_lt
  have hage := toInt_saturated (now.seconds - timestamp.toInt)
  have hmin : saturated (now.seconds - timestamp.toInt) = Int64.minValue ↔
      (saturated (now.seconds - timestamp.toInt)).toInt = -0x8000000000000000 :=
    Int64.toInt_inj.symm
  simp only [isFresh, now.toInt_timestamp, Bool.and_eq_true, decide_eq_true_eq, ne_eq, hmin]
  omega

/-- Below the widest window nothing is cut off. -/
theorem isFresh_iff {maxAge timestamp : Int64} {now : Instant} (h : maxAge.toInt < 0x7FFFFFFFFFFFFFFF) :
    isFresh maxAge timestamp now = true ↔
      ((now.seconds - timestamp.toInt).natAbs : Int) ≤ maxAge.toInt := by
  rw [isFresh_iff_or]
  omega

/-- Within the calendar no cut changes an answer, whatever the window. -/
theorem isFresh_timestamp_iff {σ : Type} (nonces : σ) (window : UInt64) (signing now : Instant) :
    isFresh (new nonces window).maxAge signing.timestamp now = true ↔
      (now.seconds - signing.seconds).natAbs ≤ window.toNat := by
  have hupper := now.upper
  have hlower := now.lower
  have hupper' := signing.upper
  have hlower' := signing.lower
  rw [isFresh_iff_or, toInt_maxAge, signing.toInt_timestamp]
  simp only [firstSecond, lastSecond] at hlower hupper hlower' hupper'
  omega

/-- The expiry of a nonce is cut off from above only, where no purge reaches it. -/
theorem toInt_nonceExpiry {maxAge timestamp : Int64} (h : 0 ≤ maxAge.toInt) :
    (nonceExpiry maxAge timestamp).toInt = min (timestamp.toInt + maxAge.toInt) 0x7FFFFFFFFFFFFFFF := by
  have hle := timestamp.le_toInt
  unfold nonceExpiry
  rw [toInt_saturated]
  omega

/-- At a time when a nonce is purged, its timestamp lies behind the window. -/
theorem window_passed {maxAge timestamp : Int64} {now : Instant} (h : 0 ≤ maxAge.toInt)
    (hpurged : nonceExpiry maxAge timestamp < now.timestamp) :
    timestamp.toInt + maxAge.toInt < now.seconds := by
  have hlt := Int64.lt_iff_toInt_lt.mp hpurged
  have hupper := now.upper
  unfold lastSecond at hupper
  rw [toInt_nonceExpiry h, now.toInt_timestamp] at hlt
  omega

end RequestVerifier

end PaymentCredentials
