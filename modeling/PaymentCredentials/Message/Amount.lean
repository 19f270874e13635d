import PaymentCredentials.Decimal

/-!
Amounts of money as decimal numerals. An amount counts the smallest units of a currency, and so many of
its digits stand behind the point. No zeros are at the end behind the point, and there is no point before
nothing.
-/
namespace PaymentCredentials.Message

def withoutFinalZeros (ds : List Char) : List Char := (ds.reverse.dropWhile (· = '0')).reverse

/-- The numeral of an amount with its last `places` digits behind the point; below zero so many zeros
are added. -/
def decimalAmount (amount : Int64) (places : Int8) : String :=
  let n := amount.toInt.natAbs
  let sign := if amount < 0 then ['-'] else []
  if places ≤ 0 then
    if amount = 0 then "0"
    else String.ofList (sign ++ Decimal.digits n ++ List.replicate places.toInt.natAbs '0')
  else
    let scale := places.toInt.natAbs
    let padded := Decimal.padded (scale + 1) n
    let whole := padded.take (padded.length - scale)
    let fraction := withoutFinalZeros (padded.drop (padded.length - scale))
    if fraction = [] then if whole = ['0'] then "0" else String.ofList (sign ++ whole)
    else String.ofList (sign ++ whole ++ '.' :: fraction)

end PaymentCredentials.Message
