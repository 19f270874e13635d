import PaymentCredentials.Instant

/-!
Clocks. What an operation needs of the time it reads off a clock that its caller hands in, as often as it
needs it.
-/
namespace PaymentCredentials

/-- A clock: what it shows when it is read for the first time, for the second time, and so on. It may stand
still between two readings, and it may be set back. -/
structure Clock where
  reading : Nat → Instant

namespace Clock

/-- A clock that stands still. -/
def still (time : Instant) : Clock := ⟨fun _ => time⟩

instance : Coe Instant Clock := ⟨still⟩

/-- What the clock shows now. -/
def now (c : Clock) : Instant := c.reading 0

/-- The clock once it was read. -/
def later (c : Clock) : Clock := ⟨fun n => c.reading (n + 1)⟩

end Clock

end PaymentCredentials
