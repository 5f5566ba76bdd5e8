/-!
# Pieces between separators

A text with `n` separators has `n + 1` pieces, some of which may be empty. So no text is without
pieces, and the text is found again by putting the separators between its pieces.
-/

namespace NodeAdmission.Text

def pieces (separator : Char) : List Char → List (List Char)
  | [] => [[]]
  | c :: cs =>
    if c = separator then [] :: pieces separator cs
    else
      match pieces separator cs with
      | [] => [[c]]
      | p :: ps => (c :: p) :: ps

end NodeAdmission.Text
