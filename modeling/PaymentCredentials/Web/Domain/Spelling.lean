import PaymentCredentials.Web.Domain.Spelling.Letters
import PaymentCredentials.Web.Domain.Spelling.Refused
import PaymentCredentials.Web.Domain.Spelling.Words

/-!
How characters are written in the names of domains. Letters are in lower case, variants of a letter are
written as the letter, signs that are made of several characters as these, and the full stops of other
scripts as points.
-/
namespace PaymentCredentials.Web.Domain

def isIn (ranges : List (Nat × Nat)) (c : Char) : Bool :=
  ranges.any fun r => r.1 ≤ c.toNat && c.toNat ≤ r.2

/-- The character that a shifted range has for a character. -/
def shifted? (n : Nat) : Option Nat :=
  (shiftedRanges.find? fun r => r.1 ≤ n && n ≤ r.2.1 && (n - r.1) % r.2.2.1 == 0).map
    fun r => r.2.2.2 + (n - r.1)

/-- How a character is written, if it may be. -/
def spelling? (c : Char) : Option (List Char) :=
  let n := c.toNat
  if n < 0x80 then some [c.toLower]
  else if isIn refusedRanges c then none
  else if isIn leftOutRanges c then some []
  else
    match otherWords.find? (·.1 = n) with
    | some w => some (w.2.map Char.ofNat)
    | none =>
      match shifted? n, otherLetters.find? (·.1 = n) with
      | some m, _ => some [Char.ofNat m]
      | none, some l => some [Char.ofNat l.2]
      | none, none => some [c]

/-- Whether a character may not stand in a name once it is written. -/
def isForbidden (c : Char) : Bool :=
  c.toNat ≤ 32 || c.toNat == 127 || "#%/:<>?@[\\]^|".toList.contains c

end PaymentCredentials.Web.Domain
