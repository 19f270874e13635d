/-!
Integers cut off at the ends of a range.
-/
namespace PaymentCredentials

/-- The 64-bit integer nearest to an integer. -/
def saturated (i : Int) : Int64 :=
  if i < -0x8000000000000000 then Int64.minValue
  else if 0x8000000000000000 ≤ i then Int64.maxValue
  else Int64.ofInt i

end PaymentCredentials
