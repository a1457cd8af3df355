import RevisionControl.Json.Cursor

/-!
# Reading numbers

The digits of a number are taken into a 64-bit significand as long as they fit; those of the
integer part that do not fit count as powers of ten, and those of the fraction are dropped. A
number without fraction and exponent is an integer if it fits 64 bits; any other number is the
double-precision number for its significand and power of ten.
-/

namespace RevisionControl.Json.Reader

open RevisionControl.Decimal

/-- The greatest significand. -/
def greatestSignificand : Nat := Nat.pow 2 64 - 1

/-- The greatest magnitude of an exponent that is read digit by digit. -/
def greatestExponent : Nat := Nat.pow 2 31 - 1

/-- A decimal digit. -/
def isDigit (c : Char) : Bool := '0' ≤ c && c ≤ '9'

/-- The value of a decimal digit. -/
def digitValue (c : Char) : Nat := c.toNat - '0'.toNat

/-- Appends digits to a number while it stays within the limit; gives the number and the digits
left over, from the first that does not fit on. -/
def appendDigits (limit : Nat) : Nat → List Char → Nat × List Char
  | n, [] => (n, [])
  | n, d :: more =>
    if limit < n * 10 + digitValue d then (n, d :: more)
    else appendDigits limit (n * 10 + digitValue d) more

/-- The number for a significand and a power of ten. -/
def real (negative : Bool) (significand : Nat) (power : Int) : Reader Number := do
  match Double.ofScaled significand power with
  | some x => return .real (x.withSign negative)
  | none => failHere .numberOutOfRange

/-- Takes the sign of an exponent; tells whether it is a minus sign. -/
def exponentSign : Reader Bool := do
  match ← peek? with
  | some '+' => do skip; return false
  | some '-' => do skip; return true
  | _ => return false

/-- Takes an exponent, the letter of which is ahead, and makes the number. Once an exponent is
too great to be read, a positive one is out of range at that digit unless the significand is
zero, and the number is zero otherwise. -/
def exponent (negative : Bool) (significand : Nat) (power : Int) : Reader Number := do
  skip
  let below ← exponentSign
  match ← peek? with
  | none => failHere .endInValue
  | some c =>
    if !isDigit c then failAhead .invalidNumber
    else do
      let before ← get
      let digits ← takeWhile isDigit
      match appendDigits greatestExponent 0 digits with
      | (n, []) => real negative significand (if below then power - n else power + n)
      | (_, _ :: more) =>
        if significand ≠ 0 ∧ !below then
          fun _ => .error ⟨.numberOutOfRange,
            some ((digits.take (digits.length - more.length)).foldl Position.after
              before.position)⟩
        else return .real (Double.zero.withSign negative)

/-- Takes a fraction, the point of which is ahead, with the exponent that may follow. -/
def fraction (negative : Bool) (significand : Nat) (power : Int) : Reader Number := do
  skip
  let digits ← takeWhile isDigit
  if digits.isEmpty then
    match ← peek? with
    | none => failHere .endInValue
    | some _ => failAhead .invalidNumber
  else do
    let (n, left) := appendDigits greatestSignificand significand digits
    let power := power - (digits.length - left.length : Nat)
    match ← peek? with
    | some 'e' | some 'E' => exponent negative n power
    | _ => real negative n power

/-- An integer, if it fits. -/
def integer (negative : Bool) (significand : Nat) : Reader Number :=
  if !negative then return .integer significand
  else if significand ≠ 0 ∧ significand ≤ Nat.pow 2 63 then return .integer (-significand)
  else real true significand 0

/-- Takes a number, the sign of which has been taken. -/
def number (negative : Bool) : Reader Number := do
  match ← peek? with
  | none => failHere .endInValue
  | some c =>
    if !isDigit c then failAhead .invalidNumber
    else if c = '0' then do
      skip
      match ← peek? with
      | some d => if isDigit d then failAhead .invalidNumber else behind 0 []
      | none => behind 0 []
    else do
      let digits ← takeWhile isDigit
      let (n, left) := appendDigits greatestSignificand 0 digits
      behind n left
where
  /-- What follows the integer part. -/
  behind (significand : Nat) (left : List Char) : Reader Number := do
    match ← peek? with
    | some '.' => fraction negative significand left.length
    | some 'e' | some 'E' => exponent negative significand left.length
    | _ =>
      if left.isEmpty then integer negative significand
      else real negative significand left.length

/-- Skips an exponent, the letter of which is ahead. -/
def skipExponent : Reader Unit := do
  skip
  let _ ← exponentSign
  match ← peek? with
  | some c =>
    if isDigit c then do
      let _ ← takeWhile isDigit
    else failAhead .invalidNumber
  | none => failHere .invalidNumber

/-- Skips a number, the sign of which has been taken; its size does not matter. -/
def skipNumber : Reader Unit := do
  match ← peek? with
  | none => failHere .invalidNumber
  | some c =>
    if !isDigit c then failAhead .invalidNumber
    else if c = '0' then do
      skip
      match ← peek? with
      | some d => if isDigit d then failAhead .invalidNumber else behind
      | none => behind
    else do
      let _ ← takeWhile isDigit
      behind
where
  /-- What follows the integer part. -/
  behind : Reader Unit := do
    match ← peek? with
    | some '.' => do
      skip
      let digits ← takeWhile isDigit
      if digits.isEmpty then failAhead .invalidNumber
      else match ← peek? with
        | some 'e' | some 'E' => skipExponent
        | _ => return ()
    | some 'e' | some 'E' => skipExponent
    | _ => return ()

end RevisionControl.Json.Reader
