import RevisionControl.Json.Document

/-!
# Skipping values

A value that nobody asked for is read over. Neither its depth nor the size of its numbers matters,
so the brackets that are open are kept on a stack, and each step takes at least one character.
-/

namespace RevisionControl.Json.Reader

/-- A bracket that has been opened. -/
inductive Bracket where
  /-- The bracket of an array. -/
  | array
  /-- The brace of an object. -/
  | object
deriving DecidableEq, Repr

/-- What is due next while a value is skipped. -/
inductive Due where
  /-- A value. -/
  | value
  /-- The key of a member. -/
  | key
  /-- What may follow a value. -/
  | rest
deriving DecidableEq, Repr

/-- What is due behind a comma. -/
def Bracket.item : Bracket → Due
  | .array => .value
  | .object => .key

/-- The character that closes the bracket. -/
def Bracket.close : Bracket → Char
  | .array => ']'
  | .object => '\x7d'

/-- The fault of a text that ends inside the bracket. -/
def Bracket.ending : Bracket → Cause
  | .array => .endInArray
  | .object => .endInObject

/-- The fault of a character that can follow no value there. -/
def Bracket.expected : Bracket → Cause
  | .array => .expectedCommaOrBracket
  | .object => .expectedCommaOrBrace

/-- Opens a bracket: it may be closed at once, and otherwise something is due in it. -/
def openBracket (bracket : Bracket) : Reader Bool := do
  skip
  match ← peekToken? with
  | none => failHere bracket.ending
  | some c =>
    if c = bracket.close then do skip; return true else return false

/-- One step of skipping: from what is due inside the open brackets, innermost first, to what is
due afterwards. -/
def skipStep : Due → List Bracket → Reader (Due × List Bracket)
  | .value, stack => do
    match ← peekToken? with
    | none => failHere .endInValue
    | some c =>
      if c = 'n' then do skip; word ['u', 'l', 'l']; return (.rest, stack)
      else if c = 't' then do skip; word ['r', 'u', 'e']; return (.rest, stack)
      else if c = 'f' then do skip; word ['a', 'l', 's', 'e']; return (.rest, stack)
      else if c = '-' then do skip; skipNumber; return (.rest, stack)
      else if isDigit c then do skipNumber; return (.rest, stack)
      else if c = '"' then do skipString; return (.rest, stack)
      else if c = '[' then
        return if ← openBracket .array then (.rest, stack) else (.value, .array :: stack)
      else if c = '\x7b' then
        return if ← openBracket .object then (.rest, stack) else (.key, .object :: stack)
      else failAhead .expectedValue
  | .key, stack => do
    match ← peekToken? with
    | none => failHere .endInObject
    | some c =>
      if c = '"' then do
        skipString
        colon
        return (.value, stack)
      else failAhead .keyNotString
  | .rest, [] => return (.rest, [])
  | .rest, bracket :: stack => do
    match ← peekToken? with
    | none => failHere bracket.ending
    | some c =>
      if c = ',' then do skip; return (bracket.item, bracket :: stack)
      else if c = bracket.close then do skip; return (.rest, stack)
      else failAhead bracket.expected

/-- At most `fuel` steps of skipping, until no bracket is open. -/
def skipSteps : Nat → Due → List Bracket → Reader Unit
  | _, .rest, [] => return ()
  | 0, _, _ => failHere .endInValue
  | fuel + 1, due, stack => do
    let (due, stack) ← skipStep due stack
    skipSteps fuel due stack

/-- Skips a value. -/
def skipValue : Reader Unit := do
  let fuel ← remaining
  skipSteps (fuel + 1) .value []

end RevisionControl.Json.Reader
