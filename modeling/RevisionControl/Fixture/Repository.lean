import RevisionControl.Fixture.Run

/-!
# Fixtures

A fixture is a working copy set up for a test, step by step, in a directory of its own; the first
step that fails ends it. A fixture in a temporary directory leaves nothing behind when it fails.
-/

namespace RevisionControl.Fixture

open FileTree Host

/-! ## Commits -/

/-- The arguments that ask a tool for the head revision. -/
def headArguments : Tool → List String
  | .git => ["rev-parse", "HEAD"]
  | .hg => ["log", "-r", ".", "-T", "\x7bnode\x7d"]

/-- Writes a file, commits it and gives the new head revision. -/
def commit (tool : Tool) (path filename content message : String) :
    HostM Failure String := do
  writeFile (Path.join path filename) content
  let _ ← invoke tool path ["add", filename]
  let _ ← invoke tool path ["commit", "-m", message]
  return Text.trim (← invoke tool path (headArguments tool))

/-- Makes the first commit, if there is one. -/
def commitFirst (tool : Tool) (path : String) (settings : Settings) :
    HostM Failure Unit := do
  if settings.withCommit then
    let _ ← commit tool path "README.md" "Initial content" settings.message

/-- Publishes a branch, which then follows the remote's. -/
def push (path branch : String) : HostM Failure Unit := do
  let _ ← invoke .git path ["push", "-u", "origin", branch]

/-! ## Setting up -/

/-- The arguments that configure a Git fixture, one process after the other. -/
def gitConfiguration (settings : Settings) : List (List String) :=
  [["config", "user.email", settings.email], ["config", "user.name", settings.author],
    ["config", "commit.gpgsign", "false"], ["config", "tag.gpgsign", "false"]]

/-- Makes a directory a Git fixture. -/
def setUpGit (path : String) (settings : Settings) : HostM Failure Unit := do
  invokeAll .git path (["init", "-b", settings.branch] :: gitConfiguration settings)
  commitFirst .git path settings

/-- The file with the configuration of a Mercurial working copy. -/
def hgConfigurationFile (path : String) : String :=
  Path.join (Path.join path ".hg") "hgrc"

/-- The configuration of a Mercurial fixture. -/
def hgConfiguration (settings : Settings) : String :=
  "[ui]\nusername = " ++ settings.committer ++ "\n"

/-- Makes a directory a Mercurial fixture. -/
def setUpHg (path : String) (settings : Settings) : HostM Failure Unit := do
  let _ ← invoke .hg path ["init"]
  writeFile (hgConfigurationFile path) (hgConfiguration settings)
  commitFirst .hg path settings

/-- Makes a directory a fixture. -/
def setUp (tool : Tool) (path : String) (settings : Settings) : HostM Failure Unit :=
  match tool with
  | .git => setUpGit path settings
  | .hg => setUpHg path settings

/-! ## Temporary fixtures -/

/-- Does something in a new temporary directory, which is removed if that fails. -/
def inScratch {α : Type} (action : (path : String) → HostM Failure α) : HostM Failure α := do
  let location ← makeScratch
  match ← Host.outcome (action location.text) with
  | .ok value => return value
  | .error failure => do
    discard location
    throw failure

/-- A new fixture, and what is done with it; it is removed if that fails. -/
def withFixture {α : Type} (tool : Tool) (settings : Settings)
    (action : (path : String) → HostM Failure α) : HostM Failure α :=
  inScratch fun path => do
    setUp tool path settings
    action path

/-- A new fixture; gives its path. -/
def create (tool : Tool) (settings : Settings) : HostM Failure String :=
  withFixture tool settings pure

/-- The paths of a fixture and its remote. -/
structure Pair where
  /-- The fixture. -/
  path : String
  /-- The remote. -/
  remote : String
deriving DecidableEq, Repr

/-- A new Git fixture with an empty remote. -/
def createGitPair (settings : Settings) : HostM Failure Pair :=
  inScratch fun remote => do
    let _ ← invoke .git remote ["init", "--bare"]
    withFixture .git settings fun path => do
      let _ ← invoke .git path ["remote", "add", "origin", remote]
      return ⟨path, remote⟩

/-- A new Mercurial fixture that is a clone of its remote and has its configuration, too. -/
def createHgPair (settings : Settings) : HostM Failure Pair :=
  withFixture .hg settings fun remote =>
    inScratch fun directory => do
      let path := Path.join directory "clone"
      let _ ← invoke .hg directory ["clone", remote, path]
      let configuration ← Host.lift .io (Host.readText (hgConfigurationFile remote))
      Host.lift .io
        (Host.appendFile (hgConfigurationFile path) ("\n" ++ configuration).toUTF8.toList)
      return ⟨path, remote⟩

/-- A new fixture with a remote. -/
def createPair (tool : Tool) (settings : Settings) : HostM Failure Pair :=
  match tool with
  | .git => createGitPair settings
  | .hg => createHgPair settings

end RevisionControl.Fixture
