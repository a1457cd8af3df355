import RevisionControl.Json.Fault

/-!
# Reading a text with places

A cursor is the rest of a text together with the place it starts at. A reader takes something off
the front of the rest, or fails with a fault. A fault is placed either where the cursor stands
(`failHere`) or one byte further, on the byte that was looked at but not taken (`failAhead`); at
the end of the text there is no such byte, and the two agree.
-/

namespace RevisionControl.Json

/-- The start of a text. -/
def Position.start : Position := ⟨1, 0⟩

/-- The place behind a character. -/
def Position.after (place : Position) (c : Char) : Position :=
  if c = '\n' then ⟨place.line + 1, 0⟩ else ⟨place.line, place.column + c.utf8Size⟩

/-- The place behind the first byte of a character. -/
def Position.into (place : Position) (c : Char) : Position :=
  if c = '\n' then ⟨place.line + 1, 0⟩ else ⟨place.line, place.column + 1⟩

/-- The place behind so many bytes of a text; none if it has fewer. -/
def Position.afterBytes (place : Position) : Nat → List Char → Option Position
  | 0, _ => some place
  | _ + 1, [] => none
  | n + 1, c :: rest =>
    if c.utf8Size ≤ n + 1 then (place.after c).afterBytes (n + 1 - c.utf8Size) rest
    else some ⟨place.line, place.column + (n + 1)⟩

/-- The rest of a text and the place where it starts. -/
structure Cursor where
  /-- What has not been read yet. -/
  rest : List Char
  /-- Where it starts. -/
  position : Position
deriving DecidableEq, Repr

/-- The start of a text. -/
def Cursor.ofString (s : String) : Cursor := ⟨s.toList, .start⟩

/-- The cursor behind the characters of a prefix that has been taken. -/
def Cursor.move (c : Cursor) (taken rest : List Char) : Cursor :=
  ⟨rest, taken.foldl Position.after c.position⟩

/-- The place of a fault on the byte ahead. -/
def Cursor.ahead (c : Cursor) : Position :=
  match c.rest with
  | [] => c.position
  | x :: _ => c.position.into x

/-- Takes something off the front of a text, or fails. -/
abbrev Reader (α : Type) := StateT Cursor (Except Fault) α

namespace Reader

variable {α : Type}

/-- Fails where the cursor stands. -/
def failHere (cause : Cause) : Reader α := fun c => .error ⟨cause, some c.position⟩

/-- Fails on the byte ahead. -/
def failAhead (cause : Cause) : Reader α := fun c => .error ⟨cause, some c.ahead⟩

/-- The character ahead, which is not taken. -/
def peek? : Reader (Option Char) := fun c => .ok (c.rest.head?, c)

/-- Takes one character, if there is one. -/
def skip : Reader Unit := fun c =>
  match c.rest with
  | [] => .ok ((), c)
  | x :: rest => .ok ((), ⟨rest, c.position.after x⟩)

/-- Takes the longest prefix of characters of a class. -/
def takeWhile (p : Char → Bool) : Reader (List Char) := fun c =>
  let taken := c.rest.takeWhile p
  .ok (taken, c.move taken (c.rest.dropWhile p))

/-- The number of characters left. -/
def remaining : Reader Nat := fun c => .ok (c.rest.length, c)

/-- The blanks of the format. -/
def isSpace (c : Char) : Bool := c == ' ' || c == '\n' || c == '\t' || c == '\r'

/-- Skips the blanks ahead, and gives the character behind them, which is not taken. -/
def peekToken? : Reader (Option Char) := do
  let _ ← takeWhile isSpace
  peek?

/-- Takes the letters of a word, the first of which has been taken. -/
def word : List Char → Reader Unit
  | [] => pure ()
  | expected :: more => do
    match ← peek? with
    | none => failHere .endInValue
    | some c => if c = expected then do skip; word more else failAhead .expectedIdent

/-- Runs a reader on a whole text; only blanks may follow what it reads. -/
def run (reader : Reader α) (s : String) : Except Fault α := do
  let (value, c) ← reader (.ofString s)
  match ← peekToken? c with
  | (none, _) => .ok value
  | (some _, c) => .error ⟨.trailingCharacters, some c.ahead⟩

end Reader

end RevisionControl.Json
