import RevisionControl.Text.Blank

/-!
# Lines and listings

A line ends at a line feed, and one carriage return directly before the line feed belongs to the
line's end. A final line feed opens no further line. A listing is what a tool prints one name per
line: its names are the lines, trimmed, that are not blank.
-/

namespace RevisionControl.Text

/-- The lines of a text, without their ends. A carriage return that no line feed follows stays. -/
def lines : List Char → List (List Char)
  | [] => []
  | '\n' :: rest => [] :: lines rest
  | '\r' :: '\n' :: rest => [] :: lines rest
  | c :: rest =>
    match lines rest with
    | [] => [[c]]
    | line :: more => (c :: line) :: more

/-- The trimmed lines that are not blank, in order. -/
def listedChars (cs : List Char) : List (List Char) :=
  ((lines cs).map trimChars).filter (!·.isEmpty)

/-- The names of a listing, in order. -/
def listedNames (s : String) : List String :=
  (listedChars s.toList).map String.ofList

end RevisionControl.Text
