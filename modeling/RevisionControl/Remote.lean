import RevisionControl.Error
import RevisionControl.Text.Lines

/-!
# Choosing a remote

Of the remotes that a tool lists one is taken as the one that is meant: the only one there is, or
else the one of the preferred name.
-/

namespace RevisionControl

/-- The remote that is meant, of those in a list. -/
def chooseRemote (names : List String) (preferred : String) : Except Error String :=
  match names with
  | [name] => .ok name
  | names =>
    if preferred ∈ names then .ok preferred else .error (.ambiguousRemote names)

/-- The remote that is meant, of those in a listing. -/
def chooseListedRemote (listing preferred : String) : Except Error String :=
  chooseRemote (Text.listedNames listing) preferred

end RevisionControl
