/-!
# Faults of the host

What the host answers when a file cannot be reached or a process cannot be started. A fault of the
file system is worded with its number.
-/

namespace RevisionControl.Host

/-- Why the host refuses. -/
inductive Fault where
  /-- Nothing has the path. -/
  | notFound
  /-- A component of the path, or a directory asked for, is no directory. -/
  | notADirectory
  /-- A file was asked for and there is a directory. -/
  | isADirectory
  /-- Too many symbolic links were followed. -/
  | linkLoop
  /-- A component of the path is too long. -/
  | nameTooLong
  /-- The file may not be executed. -/
  | permissionDenied
  /-- An argument or a variable holds the character zero. -/
  | nulInData
  /-- A path holds the character zero. -/
  | nulInPath
  /-- The content of a file is no text. -/
  | notText
  /-- Any other reason. -/
  | other (text : String)
deriving DecidableEq, Repr

/-- The wording of a fault. -/
def Fault.message : Fault → String
  | .notFound => "No such file or directory (os error 2)"
  | .notADirectory => "Not a directory (os error 20)"
  | .isADirectory => "Is a directory (os error 21)"
  | .linkLoop => "Too many levels of symbolic links (os error 40)"
  | .nameTooLong => "File name too long (os error 36)"
  | .permissionDenied => "Permission denied (os error 13)"
  | .nulInData => "nul byte found in provided data"
  | .nulInPath => "file name contained an unexpected NUL byte"
  | .notText => "stream did not contain valid UTF-8"
  | .other text => text

end RevisionControl.Host
