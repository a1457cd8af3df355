/-!
# Fields

A text is cut at every separator in it. There is always one field more than there are separators,
and joined with the separators the fields give the text again.
-/

namespace RevisionControl.Text

/-- The fields of a text. -/
def fields (separator : Char) : List Char → List (List Char)
  | [] => [[]]
  | c :: rest =>
    if c = separator then [] :: fields separator rest
    else
      match fields separator rest with
      | [] => [[c]]
      | field :: more => (c :: field) :: more

end RevisionControl.Text
