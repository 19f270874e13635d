import PaymentCredentials.Text.Pieces

/-!
Network addresses in the place of a host: four numbers with points between them, or eight pieces of
hexadecimal digits with colons between them.
-/
namespace PaymentCredentials.Web.Address

/-- The value of a digit in a radix of at most sixteen. -/
def digit? (radix : Nat) (c : Char) : Option Nat :=
  let n :=
    if '0' ≤ c ∧ c ≤ '9' then c.toNat - 48
    else if 'a' ≤ c ∧ c ≤ 'f' then c.toNat - 87
    else if 'A' ≤ c ∧ c ≤ 'F' then c.toNat - 55
    else radix
  if n < radix then some n else none

def number? (radix : Nat) (cs : List Char) : Option Nat :=
  cs.foldlM (fun n c => (digit? radix c).map (radix * n + ·)) 0

/-- The number of a part of an address. A leading zero makes it octal, a leading `0x` hexadecimal. -/
def partNumber? : List Char → Option Nat
  | [] => none
  | '0' :: 'x' :: cs => number? 16 cs
  | '0' :: 'X' :: cs => number? 16 cs
  | ['0'] => some 0
  | '0' :: cs => number? 8 cs
  | cs => number? 10 cs

/-- The parts of a host without an empty one at the end. -/
def withoutRoot (parts : List (List Char)) : List (List Char) :=
  if parts.getLast? = some [] then parts.dropLast else parts

/-- Whether the last part of a host is a number, so that the host can only be an address. -/
def endsInNumber (parts : List (List Char)) : Bool :=
  match (withoutRoot parts).getLast? with
  | none => false
  | some part => (part ≠ [] && part.all fun c => '0' ≤ c && c ≤ '9') || (partNumber? part).isSome

/-- Whether parts are an address of 32 bits: the last of at most four numbers fills up what the others
leave. -/
def isFourParts (parts : List (List Char)) : Bool :=
  match (withoutRoot parts).mapM partNumber? with
  | none => false
  | some numbers =>
    numbers.length ≤ 4 && numbers.dropLast.all (· ≤ 255) &&
      (numbers.getLast?.getD 0) < 1 <<< (8 * (5 - numbers.length))

/-- Whether characters are a number of at most 255 without a leading zero. -/
def isByte (cs : List Char) : Bool :=
  match number? 10 cs with
  | none => false
  | some n => cs ≠ [] && n ≤ 255 && (cs.length == 1 || cs.head? ≠ some '0')

/-- Whether characters are four bytes with points between them. -/
def isFourBytes (cs : List Char) : Bool :=
  let parts := Text.pieces (· == '.') cs
  parts.length == 4 && parts.all isByte

/-- How many hexadecimal digits, at most four, are at the beginning. -/
def hexLength (cs : List Char) : Nat :=
  ((cs.take 4).takeWhile fun c => (digit? 16 c).isSome).length

/-- Whether characters go on with an address of which `count` pieces are known, and in which an empty
piece stands for several. Four bytes may stand for the last two pieces. -/
def isPiecesFrom (count : Nat) (compressed : Bool) (cs : List Char) : Bool :=
  match cs with
  | [] => compressed || count == 8
  | c :: rest =>
    if 8 ≤ count then false
    else if c = ':' then !compressed && isPiecesFrom (count + 1) true rest
    else
      match h : (c :: rest).drop (hexLength (c :: rest)) with
      | [] => compressed || count + 1 == 8
      | d :: more =>
        if d = ':' then more ≠ [] && isPiecesFrom (count + 1) compressed more
        else
          d = '.' && 0 < hexLength (c :: rest) && count ≤ 6 && isFourBytes (c :: rest) &&
            (compressed || count + 2 == 8)
termination_by cs.length
decreasing_by
  · simp
  · have := congrArg List.length h
    simp at this ⊢
    omega

/-- Whether characters are an address of 128 bits. -/
def isEightPieces : List Char → Bool
  | ':' :: ':' :: rest => isPiecesFrom 1 true rest
  | ':' :: _ => false
  | [_] => false
  | cs => cs ≠ [] && isPiecesFrom 0 false cs

end PaymentCredentials.Web.Address
