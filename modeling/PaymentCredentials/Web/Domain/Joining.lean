import PaymentCredentials.Web.Domain.Composition
import PaymentCredentials.Web.Domain.Direction
import PaymentCredentials.Web.Domain.Joining.Table

/-!
Joiners: two characters without a look of their own, which make their neighbours join or part. They stand
only where they make a difference.
-/
namespace PaymentCredentials.Web.Domain

def joiner : Char := '\u200D'

def nonJoiner : Char := '\u200C'

/-- The class of the marks that take the vowel from a letter. -/
def vowelKiller : Nat := 9

/-- Whether a character does not part the letters around it. -/
def isJoinedThrough (c : Char) : Bool := direction c = .mark || isIn joinedThroughRanges c

/-- The nearest character that is not joined through. -/
def nearest? (cs : List Char) : Option Char := (cs.dropWhile isJoinedThrough).head?

def joinsNext (c : Char) : Bool := isIn bothSidesRanges c || isIn nextOnlyRanges c

def joinsPrevious (c : Char) : Bool := isIn bothSidesRanges c || isIn previousOnlyRanges c

/-- Whether every joiner stands behind a mark that takes the vowel from a letter, or, if it parts, between
two letters that would join. `before` is what stands in front, nearest first. -/
def isJoined : (before : List Char) → List Char → Bool
  | _, [] => true
  | before, c :: rest =>
    let behindKiller := before.head?.any fun d => classOf d = vowelKiller
    let between := (nearest? before).any joinsNext && (nearest? rest).any joinsPrevious
    (if c = joiner then behindKiller else if c = nonJoiner then behindKiller || between else true) &&
      isJoined (c :: before) rest

end PaymentCredentials.Web.Domain
