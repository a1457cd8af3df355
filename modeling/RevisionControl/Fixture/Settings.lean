/-!
# Settings of a fixture

Who commits in a fixture, and what its first commit is.
-/

namespace RevisionControl.Fixture

/-- How a fixture is set up. -/
structure Settings where
  /-- The address of the committer. -/
  email : String
  /-- The name of the committer. -/
  author : String
  /-- The branch that a Git fixture starts on. -/
  branch : String
  /-- Whether there is a first commit. -/
  withCommit : Bool
  /-- The message of the first commit. -/
  message : String
deriving DecidableEq, Repr

namespace Settings

/-- A test user, and a first commit on `main`. -/
def default : Settings where
  email := "test@example.com"
  author := "Test User"
  branch := "main"
  withCommit := true
  message := "Initial commit"

instance : Inhabited Settings := ⟨.default⟩

/-- The committer in one text: the name, and the address in angle brackets. -/
def committer (settings : Settings) : String :=
  settings.author ++ " <" ++ settings.email ++ ">"

end Settings

end RevisionControl.Fixture
