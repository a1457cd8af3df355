import RevisionControl.Json.Cursor

/-!
# Reading strings

A string ends at the first quote that no escape takes. An escape by number names a UTF-16 unit;
the two halves of a surrogate pair, each escaped, name one character together, and a half alone
names none. A string that is only skipped is held to less: a number escape needs four hexadecimal
digits and nothing more.
-/

namespace RevisionControl.Json.Reader

/-- The value of a hexadecimal digit. -/
def hexValue? (c : Char) : Option Nat :=
  let n := c.toNat
  if 0x30 ≤ n ∧ n ≤ 0x39 then some (n - 0x30)
  else if 0x41 ≤ n ∧ n ≤ 0x46 then some (n - 0x41 + 10)
  else if 0x61 ≤ n ∧ n ≤ 0x66 then some (n - 0x61 + 10)
  else none

/-- The value of four hexadecimal digits. -/
def hexUnit? (a b c d : Char) : Option Nat := do
  let a ← hexValue? a
  let b ← hexValue? b
  let c ← hexValue? c
  let d ← hexValue? d
  return ((a * 16 + b) * 16 + c) * 16 + d

/-- Takes the four digits of a number escape. The fault of wrong digits stands behind the four
bytes that they should have been. -/
def unit : Reader Nat := fun c =>
  match c.rest with
  | w :: x :: y :: z :: rest =>
    match hexUnit? w x y z with
    | some n => .ok (n, c.move [w, x, y, z] rest)
    | none =>
      .error ⟨.invalidEscape, c.position.afterBytes 4 c.rest⟩
  | short =>
    match c.position.afterBytes 4 short with
    | some place => .error ⟨.invalidEscape, some place⟩
    | none => .error ⟨.endInString, some (c.move short []).position⟩

/-- The first half of a surrogate pair. -/
def isHighSurrogate (n : Nat) : Bool := 0xd800 ≤ n && n ≤ 0xdbff

/-- The second half of a surrogate pair. -/
def isLowSurrogate (n : Nat) : Bool := 0xdc00 ≤ n && n ≤ 0xdfff

/-- The character of a surrogate pair. -/
def surrogatePair (high low : Nat) : Char :=
  Char.ofNat ((high - 0xd800) * 0x400 + (low - 0xdc00) + 0x10000)

/-- Takes one character that is due inside an escape. -/
def due (expected : Char) : Reader Unit := do
  match ← peek? with
  | none => failHere .endInString
  | some c => if c = expected then skip else failAhead .unfinishedSurrogate

/-- Takes the rest of a number escape. -/
def numberEscape : Reader Char := do
  let n ← unit
  if isLowSurrogate n then failHere .loneSurrogate
  else if isHighSurrogate n then do
    due '\\'
    due 'u'
    let low ← unit
    if isLowSurrogate low then return surrogatePair n low else failHere .loneSurrogate
  else return Char.ofNat n

/-- The characters that a letter behind a backslash stands for. -/
def letterEscape? (c : Char) : Option Char :=
  if c = '"' then some '"'
  else if c = '\\' then some '\\'
  else if c = '/' then some '/'
  else if c = 'b' then some '\x08'
  else if c = 'f' then some '\x0c'
  else if c = 'n' then some '\n'
  else if c = 'r' then some '\r'
  else if c = 't' then some '\t'
  else none

/-- Takes an escape, the backslash of which has been taken. -/
def escape : Reader Char := do
  match ← peek? with
  | none => failHere .endInString
  | some c =>
    if c = 'u' then do skip; numberEscape
    else match letterEscape? c with
      | some meant => do skip; return meant
      | none => failAhead .invalidEscape

/-- Takes the rest of a string, of at most `fuel` characters and escapes. -/
def stringTail : Nat → Reader (List Char)
  | 0 => failHere .endInString
  | fuel + 1 => do
    match ← peek? with
    | none => failHere .endInString
    | some c =>
      if c = '"' then do skip; return []
      else if c = '\\' then do
        skip
        let meant ← escape
        return meant :: (← stringTail fuel)
      else if c.toNat < 0x20 then do skip; failHere .controlCharacter
      else do
        skip
        return c :: (← stringTail fuel)

/-- Takes a string, the opening quote of which is ahead. -/
def string : Reader String := do
  skip
  let fuel ← remaining
  return String.ofList (← stringTail (fuel + 1))

/-- Skips the rest of a string, of at most `fuel` characters and escapes. -/
def skipStringTail : Nat → Reader Unit
  | 0 => failHere .endInString
  | fuel + 1 => do
    match ← peek? with
    | none => failHere .endInString
    | some c =>
      if c = '"' then skip
      else if c = '\\' then do
        skip
        match ← peek? with
        | none => failHere .endInString
        | some d =>
          if d = 'u' then do
            skip
            let _ ← unit
            skipStringTail fuel
          else if (letterEscape? d).isSome then do
            skip
            skipStringTail fuel
          else failAhead .invalidEscape
      else if c.toNat < 0x20 then failHere .controlCharacter
      else do
        skip
        skipStringTail fuel

/-- Skips a string, the opening quote of which is ahead. -/
def skipString : Reader Unit := do
  skip
  let fuel ← remaining
  skipStringTail (fuel + 1)

end RevisionControl.Json.Reader
