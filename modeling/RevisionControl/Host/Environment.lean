/-!
# Environment variables

Variables are a mapping from names to values, both of them texts. Setting a variable leaves every
other one as it is, and the value set last is the value.
-/

namespace RevisionControl.Host

/-- The variables of a process. -/
structure Environment where
  /-- The variables, each name once. -/
  entries : List (String × String)
deriving DecidableEq, Repr

namespace Environment

/-- No variables. -/
def empty : Environment := ⟨[]⟩

instance : EmptyCollection Environment := ⟨empty⟩

/-- The value of a variable. -/
def get? (environment : Environment) (name : String) : Option String :=
  environment.entries.lookup name

/-- Removes a variable. -/
def erase (environment : Environment) (name : String) : Environment :=
  ⟨environment.entries.filter (·.1 != name)⟩

/-- Gives a variable a value. -/
def set (environment : Environment) (name value : String) : Environment :=
  ⟨(name, value) :: (environment.erase name).entries⟩

/-- Sets variables in order. -/
def setAll (environment : Environment) (entries : List (String × String)) : Environment :=
  entries.foldl (fun environment (name, value) => environment.set name value) environment

/-- The texts that a process is handed: name, equals sign and value, in the order of the names. -/
def texts (environment : Environment) : List String :=
  (environment.entries.mergeSort fun a b => a.1 ≤ b.1).map
    fun (name, value) => name ++ "=" ++ value

/-- What a process finds under a name: what follows the name and an equals sign in the first text
that starts with both. Nothing is found under the empty name. -/
def found? (environment : Environment) (name : String) : Option String :=
  if name.isEmpty then none
  else environment.texts.findSome? fun text =>
    ((name ++ "=").toList.isPrefixOf? text.toList).map String.ofList

/-- Whether a name or a value holds the character zero. -/
def holdNul (environment : Environment) : Bool :=
  environment.entries.any fun (name, value) => '\x00' ∈ name.toList || '\x00' ∈ value.toList

end Environment

end RevisionControl.Host
