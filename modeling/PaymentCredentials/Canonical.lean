import PaymentCredentials.Bytes
import PaymentCredentials.Decimal

/-!
Canonical forms of signed messages: the fields of a message one after the other in a fixed order, without
marks between them. Unset fields leave no trace, maps are written in the order of their entries' bytes,
and every message ends with its timestamp and its nonce.
-/
namespace PaymentCredentials.Canonical

/-- A field that is always there. -/
def field (value : String) : Bytes := utf8 value

def int (value : Int) : Bytes := utf8 (Decimal.ofInt value)

/-- A field that may be unset; an empty one counts as unset. -/
def optional (value : Option String) : Bytes := utf8 (value.getD "")

/-- An integer that may be unset; zero counts as unset. -/
def optionalInt (value : Int) : Bytes := if value = 0 then [] else int value

/-- The order of entries: by key, and by value under the same key. -/
def entryLe (a b : String × String) : Bool :=
  if a.1 = b.1 then textLe a.2 b.2 else textLe a.1 b.1

/-- Keys and values of a map in the order of its entries, whatever order they are given in. -/
def sortedMap (entries : List (String × String)) : Bytes :=
  (entries.mergeSort entryLe).flatMap fun e => utf8 e.1 ++ utf8 e.2

/-- The timestamp and the nonce at the end of every message. -/
def tail (timestamp : Int64) (nonce : String) : Bytes := int timestamp.toInt ++ field nonce

end PaymentCredentials.Canonical
