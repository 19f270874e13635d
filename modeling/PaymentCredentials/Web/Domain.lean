import PaymentCredentials.Text.Pieces
import PaymentCredentials.Web.Domain.Joining
import PaymentCredentials.Web.Punycode

/-!
Domain names, international ones included. A name is brought into the form that is looked up, and its
labels are checked; labels may be empty, and only international ones may be too long.
-/
namespace PaymentCredentials.Web.Domain

def isAscii (label : List Char) : Bool := label.all fun c => c.toNat < 0x80

/-- The most characters of an international label. -/
def maxLength : Nat := 1000

/-- The most characters that spell an international label in ASCII, behind its sign. -/
def maxSpelledLength : Nat := 2000

/-- Whether a label has the form that is looked up. -/
def isLabel (label : List Char) : Bool :=
  isAscii label ||
    (!label.head?.any isMark && isJoined [] label && decide (label.length ≤ maxLength))

/-- Whether a label is written as it is looked up, so that nothing has to be changed. -/
def isSpelled (label : List Char) : Bool :=
  label.all (fun c => spelling? c = some [c] && !isForbidden c && c ≠ '.') && composed label = label

/-- A label, or what it spells if it is written in ASCII for an international one. -/
def readLabel? : List Char → Option (List Char)
  | 'x' :: 'n' :: '-' :: '-' :: rest =>
    if rest = [] ∨ rest.getLast? = some '-' ∨ isAscii rest = false ∨ maxSpelledLength < rest.length then none
    else do
      let label ← Punycode.decode? rest
      if isSpelled label && isLabel label then some label else none
  | label => if isLabel label then some label else none

/-- The labels of a name as they are looked up, the international ones in ASCII or not. -/
def labels? (name : List Char) : Option (List (List Char)) := do
  let spelled ← name.mapM spelling?
  let text := composed spelled.flatten
  if text.any isForbidden then none
  else
    let labels := Text.pieces (· == '.') text
    let read ← labels.mapM readLabel?
    if !read.any runsLeft || read.all isDirected then some labels else none

end PaymentCredentials.Web.Domain
