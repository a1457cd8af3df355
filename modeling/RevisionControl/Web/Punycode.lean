/-!
# Punycode

A label with characters beyond ASCII is written in ASCII: first its ASCII characters, then one
number for each of the others, in ascending order of the characters and of their places. A number
says how many steps lie between two insertions, where a step is a place or, past the last place,
the next character. It is written with digits of base 36, the least significant first; a digit
below the threshold for its place ends the number, and the thresholds follow the size of the
numbers seen so far.
-/

namespace RevisionControl.Web.Punycode

/-! ## Digits -/

/-- The digit of a value below 36. -/
def digit (n : Nat) : Char :=
  if n < 26 then Char.ofNat ('a'.toNat + n) else Char.ofNat ('0'.toNat + (n - 26))

/-- The value of a digit. -/
def digitValue? (c : Char) : Option Nat :=
  if 'a' ≤ c ∧ c ≤ 'z' then some (c.toNat - 'a'.toNat)
  else if 'A' ≤ c ∧ c ≤ 'Z' then some (c.toNat - 'A'.toNat)
  else if '0' ≤ c ∧ c ≤ '9' then some (c.toNat - '0'.toNat + 26)
  else none

/-- The threshold for a place; places are counted by 36. -/
def threshold (bias place : Nat) : Nat :=
  if place ≤ bias then 1 else if bias + 26 ≤ place then 26 else place - bias

/-- How often a number is divided by 35 until it is small, times 36, and what remains. -/
def shrink (n : Nat) (steps : Nat) : Nat × Nat :=
  if 455 < n then shrink (n / 35) (steps + 36) else (n, steps)
termination_by n
decreasing_by exact Nat.div_lt_self (by omega) (by omega)

/-- The bias after a number; `count` characters are there then. -/
def adapt (delta count : Nat) (first : Bool) : Nat :=
  let delta := if first then delta / 700 else delta / 2
  let (rest, steps) := shrink (delta + delta / count) 0
  steps + 36 * rest / (rest + 38)

/-! ## Encoding -/

/-- The digits of a number, from a place on. -/
def digits (bias place n : Nat) : List Char :=
  let t := threshold bias place
  if n < t then [digit n]
  else digit (t + (n - t) % (36 - t)) :: digits bias (place + 36) ((n - t) / (36 - t))
termination_by n
decreasing_by
  have : 1 ≤ threshold bias place := by unfold threshold; split <;> (try split) <;> omega
  exact Nat.lt_of_le_of_lt (Nat.div_le_self _ _) (by omega)

/-- What encoding has come to. -/
structure State where
  /-- The steps since the last number. -/
  delta : Nat
  /-- The bias. -/
  bias : Nat
  /-- The number of characters that are there. -/
  count : Nat
  /-- Whether no number has been written yet. -/
  first : Bool
  /-- The digits written so far. -/
  written : List Char

/-- Passes a character of the label while `code` is the character to insert. -/
def pass (code : Nat) (s : State) (c : Char) : State :=
  if c.toNat < code then { s with delta := s.delta + 1 }
  else if c.toNat = code then
    { delta := 0
      bias := adapt s.delta (s.count + 1) s.first
      count := s.count + 1
      first := false
      written := s.written ++ digits s.bias 36 s.delta }
  else s

/-- Inserts each of the characters, in ascending order, into all their places; `next` is the
character after the last one inserted. -/
def insertAll (label : List Char) : (codes : List Nat) → (next : Nat) → State → State
  | [], _, s => s
  | code :: more, next, s =>
    let s := { s with delta := s.delta + (code - next) * (s.count + 1) }
    let s := label.foldl (pass code) s
    insertAll label more (code + 1) { s with delta := s.delta + 1 }

/-- Whether a character is ASCII. -/
def isBasic (c : Char) : Bool := c.toNat < 0x80

/-- Puts a number into an ascending list that does not have it. -/
def insertCode (n : Nat) : List Nat → List Nat
  | [] => [n]
  | m :: more =>
    if n < m then n :: m :: more else if n = m then m :: more else m :: insertCode n more

/-- The encoded form of a label. -/
def encode (label : List Char) : List Char :=
  let basic := label.filter isBasic
  let codes := (label.filter (!isBasic ·)).foldr (fun c codes => insertCode c.toNat codes) []
  let start : State := ⟨0, 72, basic.length, true, []⟩
  basic ++ (if basic.isEmpty then [] else ['-']) ++ (insertAll label codes 128 start).written

/-! ## Decoding -/

/-- The bound of all numbers and weights. -/
def bound : Nat := Nat.pow 2 32

/-- Takes a number off the front of a text and adds it to `n`; `weight` is the value of a digit
there. -/
def takeNumber (bias : Nat) : List Char → (place weight n : Nat) → Option (Nat × List Char)
  | [], _, _, _ => none
  | c :: rest, place, weight, n => do
    let d ← digitValue? c
    let n := n + d * weight
    let t := threshold bias place
    if bound ≤ n then none
    else if d < t then return (n, rest)
    else if bound ≤ weight * (36 - t) then none
    else takeNumber bias rest (place + 36) (weight * (36 - t)) n

/-- Inserts a character for each number, at most `fuel` of them, from a place and a character
on. -/
def insertNumbers : (fuel : Nat) → List Char → (code place bias : Nat) → Bool → List Char →
    Option (List Char)
  | _, [], _, _, _, _, label => some label
  | 0, _ :: _, _, _, _, _, _ => none
  | fuel + 1, text, code, place, bias, first, label => do
    let (steps, rest) ← takeNumber bias text 36 1 place
    let count := label.length + 1
    let code := code + steps / count
    if code.isValidChar then
      let label := label.take (steps % count) ++ Char.ofNat code :: label.drop (steps % count)
      insertNumbers fuel rest code (steps % count + 1) (adapt (steps - place) count first) false
        label
    else none

/-- The label of an encoded form. A hyphen at its start is no delimiter. -/
def decode? (text : List Char) : Option (List Char) :=
  let reversed := text.reverse
  let basic := ((reversed.dropWhile (· != '-')).drop 1).reverse
  let numbers := if basic.isEmpty then text else (reversed.takeWhile (· != '-')).reverse
  insertNumbers numbers.length numbers 128 0 72 true basic

end RevisionControl.Web.Punycode
