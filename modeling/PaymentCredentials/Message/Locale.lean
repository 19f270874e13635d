import PaymentCredentials.Text.Pieces

/-!
Names of locales, such as `de`, `pt-BR` or `zh_Hant_TW`.
-/
namespace PaymentCredentials.Message

/-- Whether a text has the form of the name of a locale: two or three letters, and after them parts of at
most eight letters and digits, with hyphens or underscores between them. -/
def isLocale (s : String) : Bool :=
  match Text.pieces (fun c => c == '-' || c == '_') s.toList with
  | [] => false
  | language :: parts =>
    (language.length == 2 || language.length == 3) && language.all Char.isAlpha &&
      parts.all fun part => 1 ≤ part.length && part.length ≤ 8 && part.all Char.isAlphanum

end PaymentCredentials.Message
