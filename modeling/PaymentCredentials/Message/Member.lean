import PaymentCredentials.TextMap

/-!
The members of messages in JSON. Integers travel as decimal numerals in quotes; what is unset is left
out.
-/
namespace PaymentCredentials.Message

open Json

def textMember (name value : String) : List (String × Json) := [(name, .text value)]

def intMember (name : String) (value : Int) : List (String × Json) :=
  [(name, .text (Decimal.ofInt value))]

/-- A member that is left out if it is unset. -/
def optionalMember {α : Type} (member : String → α → List (String × Json)) (name : String) :
    Option α → List (String × Json)
  | none => []
  | some value => member name value

/-- A member with a text that is left out if it is empty. -/
def filledMember (name value : String) : List (String × Json) :=
  if value = "" then [] else textMember name value

def mapMember (name : String) (value : TextMap) : List (String × Json) := [(name, value.toJson)]

/-- An integer from a JSON value, its numeral being read as it says. -/
def readNumeral {α : Type} (read : String → Except Decimal.Fault α) (d : Draft) : Except Problem α := do
  (read (← d.toText)).mapError .numeral

/-- A 64-bit integer from a JSON value. -/
def readInt64 : Draft → Except Problem Int64 := readNumeral Decimal.readInt64

/-- An 8-bit integer from a JSON value. -/
def readInt8 : Draft → Except Problem Int8 := readNumeral Decimal.readInt8

end PaymentCredentials.Message
