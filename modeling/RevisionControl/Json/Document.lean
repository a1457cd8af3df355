import RevisionControl.Json.Strings
import RevisionControl.Json.Numbers

/-!
# Reading values

A value is read from the front of a text. Arrays and objects may lie inside each other up to a
limit, which is the number of brackets that may still be opened; the readers of items and members
do not know it, they take the reader of one value as an argument.
-/

namespace RevisionControl.Json.Reader

variable {α : Type}

/-- Whether another item of an array follows; its first character is then ahead, and otherwise
the closing bracket. -/
def nextItem (first : Bool) : Reader Bool := do
  match ← peekToken? with
  | none => failHere .endInArray
  | some c =>
    if c = ']' then return false
    else if first then return true
    else if c = ',' then do
      skip
      match ← peekToken? with
      | none => failHere .endInValue
      | some d => if d = ']' then failAhead .trailingComma else return true
    else failAhead .expectedCommaOrBracket

/-- Whether another member of an object follows; the quote of its key is then ahead, and otherwise
the closing brace. -/
def nextKey (first : Bool) : Reader Bool := do
  match ← peekToken? with
  | none => failHere .endInObject
  | some c =>
    if c = '\x7d' then return false
    else if first then
      if c = '"' then return true else failAhead .keyNotString
    else if c = ',' then do
      skip
      match ← peekToken? with
      | none => failHere .endInValue
      | some d =>
        if d = '"' then return true
        else if d = '\x7d' then failAhead .trailingComma
        else failAhead .keyNotString
    else failAhead .expectedCommaOrBrace

/-- Takes the colon behind a key. -/
def colon : Reader Unit := do
  match ← peekToken? with
  | none => failHere .endInObject
  | some c => if c = ':' then skip else failAhead .expectedColon

/-- Takes the bracket that closes an array. -/
def closeArray : Reader Unit := do
  match ← peekToken? with
  | none => failHere .endInArray
  | some c =>
    if c = ']' then skip
    else if c = ',' then do
      skip
      match ← peekToken? with
      | some ']' => failAhead .trailingComma
      | _ => failAhead .trailingCharacters
    else failAhead .trailingCharacters

/-- Takes the brace that closes an object. -/
def closeObject : Reader Unit := do
  match ← peekToken? with
  | none => failHere .endInObject
  | some c =>
    if c = '\x7d' then skip
    else if c = ',' then failAhead .trailingComma
    else failAhead .trailingCharacters

/-- Takes the items of an array, at most `fuel` of them. -/
def items (item : Reader α) : Nat → Bool → Reader (List α)
  | 0, _ => failHere .endInArray
  | fuel + 1, first => do
    if ← nextItem first then
      let value ← item
      return value :: (← items item fuel false)
    else return []

/-- Takes the members of an object, at most `fuel` of them, in the order of the text. -/
def members (item : Reader α) : Nat → Bool → Reader (List (String × α))
  | 0, _ => failHere .endInObject
  | fuel + 1, first => do
    if ← nextKey first then
      let key ← string
      colon
      let value ← item
      return (key, value) :: (← members item fuel false)
    else return []

/-- Takes an array, the opening bracket of which is ahead. -/
def array (item : Reader α) : Reader (List α) := do
  skip
  let fuel ← remaining
  let values ← items item (fuel + 1) true
  closeArray
  return values

/-- Takes an object, the opening brace of which is ahead, with its members in the order of the
text. -/
def object (item : Reader α) : Reader (List (String × α)) := do
  skip
  let fuel ← remaining
  let pairs ← members item (fuel + 1) true
  closeObject
  return pairs

/-- Takes a value. Fewer than `limit` arrays and objects may lie inside each other. -/
def value : (limit : Nat) → Reader Value
  | 0 => failAhead .tooDeep
  | limit + 1 => do
    match ← peekToken? with
    | none => failHere .endInValue
    | some c =>
      if c = 'n' then do skip; word ['u', 'l', 'l']; return .null
      else if c = 't' then do skip; word ['r', 'u', 'e']; return .boolean true
      else if c = 'f' then do skip; word ['a', 'l', 's', 'e']; return .boolean false
      else if c = '-' then do skip; return .number (← number true)
      else if isDigit c then return .number (← number false)
      else if c = '"' then return .text (← string)
      else if c = '[' then
        if limit = 0 then failAhead .tooDeep else return .array (← array (value limit))
      else if c = '\x7b' then
        if limit = 0 then failAhead .tooDeep
        else return .object (Members.ofList (← object (value limit)))
      else failAhead .expectedValue

/-- The number of the bracket that is one too many. -/
def depthLimit : Nat := 128

/-- Fails because the value ahead is not what was asked for. The fault stands behind a scalar
value, and before the bracket of an array or object. -/
def unexpected (expected : String) : Reader α := do
  match ← peekToken? with
  | none => failHere .endInValue
  | some c =>
    if c = 'n' then do skip; word ['u', 'l', 'l']; refuse .null
    else if c = 't' then do skip; word ['r', 'u', 'e']; refuse (.boolean true)
    else if c = 'f' then do skip; word ['a', 'l', 's', 'e']; refuse (.boolean false)
    else if c = '-' then do skip; refuse (.number (← number true))
    else if isDigit c then refuse (.number (← number false))
    else if c = '"' then refuse (.text (← string))
    else if c = '[' then refuse .array
    else if c = '\x7b' then refuse .object
    else failAhead .expectedValue
where
  /-- Fails behind what has been found. -/
  refuse (found : Found) : Reader α := failHere (.invalidType found expected)

end RevisionControl.Json.Reader

namespace RevisionControl.Json

/-- The value that a text is. -/
def Value.parse (s : String) : Except Fault Value :=
  (Reader.value Reader.depthLimit).run s

end RevisionControl.Json
