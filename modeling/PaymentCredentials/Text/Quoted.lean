import PaymentCredentials.Text.Printable

/-!
Texts in double quotes, as they stand in messages: a quote, a backslash and the common control
characters as two-character escapes, every other character that does not print as its code point.
-/
namespace PaymentCredentials.Text

/-- The lower-case hexadecimal digits of a number, without superfluous zeros. -/
def hexadecimal (n : Nat) : List Char := Nat.toDigits 16 n

/-- A character inside quotes. -/
def quotedChar (c : Char) : List Char :=
  if c = '\x00' then ['\\', '0']
  else if c = '\t' then ['\\', 't']
  else if c = '\r' then ['\\', 'r']
  else if c = '\n' then ['\\', 'n']
  else if c = '\\' then ['\\', '\\']
  else if c = '"' then ['\\', '"']
  else if isPrintable c then [c]
  else ['\\', 'u', '\x7b'] ++ hexadecimal c.toNat ++ ['\x7d']

def quoted (s : String) : String := String.ofList ('"' :: s.toList.flatMap quotedChar ++ ['"'])

end PaymentCredentials.Text
