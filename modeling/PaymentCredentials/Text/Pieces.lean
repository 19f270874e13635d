/-!
Lists cut at separators.
-/
namespace PaymentCredentials.Text

/-- The pieces between the separators of a list. There is one piece more than separators. -/
def pieces {α : Type} (isSeparator : α → Bool) : List α → List (List α)
  | [] => [[]]
  | c :: rest =>
    if isSeparator c then [] :: pieces isSeparator rest
    else
      match pieces isSeparator rest with
      | [] => [[c]]
      | piece :: more => (c :: piece) :: more

end PaymentCredentials.Text
