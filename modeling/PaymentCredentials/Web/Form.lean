import PaymentCredentials.Text.Lossy
import PaymentCredentials.Text.Pieces
import PaymentCredentials.Web.Percent

/-!
Forms as the query of an address: names with values, `name=value`, and an ampersand between them.
-/
namespace PaymentCredentials.Web.Form

/-- The bytes that stand for themselves: letters, digits and `*`, `-`, `.`, `_`. -/
def isPlain (b : UInt8) : Bool :=
  (0x30 ≤ b && b ≤ 0x39) || (0x41 ≤ b && b ≤ 0x5A) || (0x61 ≤ b && b ≤ 0x7A) ||
    b == 0x2A || b == 0x2D || b == 0x2E || b == 0x5F

def encodeByte (b : UInt8) : Bytes :=
  if isPlain b then [b] else if b = 0x20 then [0x2B] else percentEncode b

def encode (s : String) : Bytes := (utf8 s).flatMap encodeByte

def decode (b : Bytes) : String :=
  Text.lossy (percentDecode (b.map fun c => if c = 0x2B then 0x20 else c))

def pair (name value : String) : Bytes := encode name ++ 0x3D :: encode value

def bytes : List (String × String) → Bytes
  | [] => []
  | [(name, value)] => pair name value
  | (name, value) :: rest => pair name value ++ 0x26 :: bytes rest

def toQuery (fields : List (String × String)) : String := Text.lossy (bytes fields)

/-- The name and the value of a piece. Without an equals sign the value is empty. -/
def split (piece : Bytes) : String × String :=
  (decode (piece.takeWhile (· ≠ 0x3D)), decode ((piece.dropWhile (· ≠ 0x3D)).drop 1))

/-- The form of a query. Empty pieces are none of its fields. -/
def ofQuery (query : String) : List (String × String) :=
  ((Text.pieces (· == 0x26) (utf8 query)).filter (· ≠ [])).map split

end PaymentCredentials.Web.Form
