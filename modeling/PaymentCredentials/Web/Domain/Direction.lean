import PaymentCredentials.Web.Domain.Direction.Table
import PaymentCredentials.Web.Domain.Spelling

/-!
Which way the labels of a name run. In a name with letters from right to left each label runs one way, as
its first letter does, and its last letter or digit shows it.
-/
namespace PaymentCredentials.Web.Domain

/-- Which way a character runs. -/
inductive Direction
  | leftToRight
  | rightToLeft
  | europeanDigit
  | arabicDigit
  | neutral
  /-- Like the character before it. -/
  | mark
  deriving DecidableEq

def direction (c : Char) : Direction :=
  if c.toNat < 0x80 then
    if c.isDigit then .europeanDigit else if c.isAlpha then .leftToRight else .neutral
  else if isIn markRanges c then .mark
  else if isIn rightToLeftRanges c then .rightToLeft
  else if isIn arabicDigitRanges c then .arabicDigit
  else if isIn europeanDigitRanges c then .europeanDigit
  else if isIn neutralRanges c then .neutral
  else .leftToRight

/-- Whether a character is a mark, with room of its own or without. -/
def isMark (c : Char) : Bool := isIn markRanges c || isIn spacingMarkRanges c

/-- Whether something in a label runs from right to left. -/
def runsLeft (label : List Char) : Bool :=
  label.any fun c => direction c = .rightToLeft || direction c = .arabicDigit

/-- Whether a label can stand in a name in which something runs from right to left. -/
def isDirected (label : List Char) : Bool :=
  let directions := label.map direction
  let last := (directions.reverse.dropWhile (· = .mark)).head?
  match directions with
  | [] => true
  | .rightToLeft :: _ =>
    !directions.contains .leftToRight &&
      !(directions.contains .europeanDigit && directions.contains .arabicDigit) &&
      (last = some .rightToLeft || last = some .europeanDigit || last = some .arabicDigit)
  | .leftToRight :: _ =>
    !directions.contains .rightToLeft && !directions.contains .arabicDigit &&
      (last = some .leftToRight || last = some .europeanDigit)
  | _ => false

end PaymentCredentials.Web.Domain
