import PaymentCredentials.Web.Domain.Composition.Table

/-!
The composed form of a text: a letter and its marks are one character where there is one for them, and the
marks that are left stand in the order of their classes. Two texts that look the same have the same
composed form.
-/
namespace PaymentCredentials.Web.Domain

/-- The class of a mark. Letters have the class zero. -/
def classOf (c : Char) : Nat :=
  if c.toNat < 0x300 then 0
  else
    match classRanges.find? fun r => r.1 ≤ c.toNat && c.toNat ≤ r.2.1 with
    | some r => r.2.2
    | none => 0

/-! ### Syllables of Hangul -/

/-- The parts of a syllable: a consonant, a vowel and perhaps a final consonant. -/
def syllableParts? (n : Nat) : Option (List Nat) :=
  if 0xAC00 ≤ n ∧ n ≤ 0xD7A3 then
    let s := n - 0xAC00
    let final := if s % 28 = 0 then [] else [0x11A7 + s % 28]
    some ([0x1100 + s / 588, 0x1161 + s % 588 / 28] ++ final)
  else none

/-- The syllable of a consonant and a vowel, or of a syllable and a final consonant. -/
def syllable? (a b : Nat) : Option Nat :=
  if 0x1100 ≤ a ∧ a < 0x1113 ∧ 0x1161 ≤ b ∧ b < 0x1176 then
    some (0xAC00 + ((a - 0x1100) * 21 + (b - 0x1161)) * 28)
  else if 0xAC00 ≤ a ∧ a ≤ 0xD7A3 ∧ (a - 0xAC00) % 28 = 0 ∧ 0x11A7 < b ∧ b < 0x11C3 then
    some (a + (b - 0x11A7))
  else none

/-! ### Letters and marks -/

/-- The character that two make up. -/
def composite? (a b : Char) : Option Char :=
  match syllable? a.toNat b.toNat with
  | some n => some (Char.ofNat n)
  | none =>
    if b.toNat < 0x300 then none
    else (composites.find? fun p => p.1 = a.toNat && p.2.1 = b.toNat).map fun p => Char.ofNat p.2.2

/-- How often a character has to be taken apart until nothing is left to take apart. -/
def partsDepth : Nat := 4

/-- The letter and the marks that a character is made of. -/
def partsOf : (depth : Nat) → Char → List Char
  | 0, c => [c]
  | depth + 1, c =>
    if c.toNat < 0x80 then [c]
    else
      match syllableParts? c.toNat with
      | some parts => parts.map Char.ofNat
      | none =>
        match composites.find? (·.2.2 = c.toNat) with
        | some p => partsOf depth (Char.ofNat p.1) ++ partsOf depth (Char.ofNat p.2.1)
        | none => [c]

/-- Puts a character behind those before it, nearest first; a mark goes in front of marks of greater
classes. -/
def place (c : Char) : List Char → List Char
  | [] => [c]
  | d :: before =>
    if 0 < classOf c ∧ classOf c < classOf d then d :: place c before else c :: d :: before

/-- A text while it is composed: what is finished, the last letter, and the marks that follow it and stay
apart from it, each nearest first. -/
structure Composing where
  finished : List Char
  letter : Option Char
  marks : List Char

/-- One more character. It joins the last letter unless a mark of the same or a greater class stands
between. -/
def Composing.add (s : Composing) (c : Char) : Composing :=
  match s.letter with
  | none => if classOf c = 0 then { s with letter := some c } else { s with finished := c :: s.finished }
  | some letter =>
    let blocked := s.marks.head?.any fun mark => classOf c ≤ classOf mark
    match if blocked then none else composite? letter c with
    | some whole => { s with letter := some whole }
    | none =>
      if classOf c = 0 then ⟨s.marks ++ letter :: s.finished, some c, []⟩
      else { s with marks := c :: s.marks }

def composed (cs : List Char) : List Char :=
  let apart := ((cs.flatMap (partsOf partsDepth)).foldl (fun before c => place c before) []).reverse
  let s := apart.foldl Composing.add ⟨[], none, []⟩
  (s.marks ++ s.letter.toList ++ s.finished).reverse

end PaymentCredentials.Web.Domain
