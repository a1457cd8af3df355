/-!
# Decoding UTF-8

A byte sequence is read one byte at a time. Between two characters any byte may start a new one;
inside a character the bytes still owed must lie in a range that the bytes before them fix, which
excludes overlong forms, surrogates and values above U+10FFFF.

`decode?` accepts exactly the well-formed sequences and otherwise tells where the first fault is:
a sequence may be broken off by its end (`Fault.incomplete`) or hold a part that no continuation
can mend (`Fault.invalid`). `decodeLossy` always succeeds and puts one replacement character in
the place of each such maximal part.
-/

namespace RevisionControl.Text.Utf8

/-- A character of which only some bytes have been read. -/
structure Partial where
  /-- The value of the bits read so far. -/
  bits : Nat
  /-- The number of bytes read so far. -/
  size : Nat
  /-- The number of bytes still owed, less one. -/
  owed : Nat
  /-- The least byte that may come next. -/
  low : Nat
  /-- The greatest byte that may come next. -/
  high : Nat
deriving DecidableEq, Repr

/-- What one more byte makes of a character. -/
inductive Step where
  /-- The byte ends the character. -/
  | complete (c : Char)
  /-- More bytes are owed. -/
  | owes (p : Partial)
  /-- No character has the bytes so far. -/
  | refused
deriving DecidableEq, Repr

/-- The first byte of a character. -/
def start (byte : UInt8) : Step :=
  let b := byte.toNat
  if b < 0x80 then .complete (Char.ofNat b)
  else if b < 0xc2 then .refused
  else if b < 0xe0 then .owes ⟨b - 0xc0, 1, 0, 0x80, 0xbf⟩
  else if b = 0xe0 then .owes ⟨0, 1, 1, 0xa0, 0xbf⟩
  else if b = 0xed then .owes ⟨0xd, 1, 1, 0x80, 0x9f⟩
  else if b < 0xf0 then .owes ⟨b - 0xe0, 1, 1, 0x80, 0xbf⟩
  else if b = 0xf0 then .owes ⟨0, 1, 2, 0x90, 0xbf⟩
  else if b < 0xf4 then .owes ⟨b - 0xf0, 1, 2, 0x80, 0xbf⟩
  else if b = 0xf4 then .owes ⟨4, 1, 2, 0x80, 0x8f⟩
  else .refused

/-- One more byte of a character that has been started. -/
def Partial.extend (p : Partial) (byte : UInt8) : Step :=
  let b := byte.toNat
  if p.low ≤ b ∧ b ≤ p.high then
    match p.owed with
    | 0 => .complete (Char.ofNat (p.bits * 64 + (b - 0x80)))
    | owed + 1 => .owes ⟨p.bits * 64 + (b - 0x80), p.size + 1, owed, 0x80, 0xbf⟩
  else .refused

/-- Why a byte sequence is not well-formed. -/
inductive Fault where
  /-- It ends inside a character that starts at the index. -/
  | incomplete (index : Nat)
  /-- `size` bytes from the index on can be no part of a character. -/
  | invalid (index size : Nat)
deriving DecidableEq, Repr

/-- The wording of a fault. -/
def Fault.message : Fault → String
  | .incomplete index => "incomplete utf-8 byte sequence from index " ++ toString index
  | .invalid index size =>
    "invalid utf-8 sequence of " ++ toString size ++ " bytes from index " ++ toString index

/-- Decodes the bytes that follow `index` bytes of whole characters and, if there is one, a
character only partly read. -/
def decodeFrom (index : Nat) : Option Partial → List UInt8 → Except Fault (List Char)
  | none, [] => .ok []
  | some _, [] => .error (.incomplete index)
  | none, byte :: rest =>
    match start byte with
    | .complete c => (decodeFrom (index + 1) none rest).map (c :: ·)
    | .owes p => decodeFrom index (some p) rest
    | .refused => .error (.invalid index 1)
  | some p, byte :: rest =>
    match p.extend byte with
    | .complete c => (decodeFrom (index + p.size + 1) none rest).map (c :: ·)
    | .owes q => decodeFrom index (some q) rest
    | .refused => .error (.invalid index p.size)

/-- The text that a byte sequence encodes, or its first fault. -/
def decode? (bytes : List UInt8) : Except Fault String :=
  (decodeFrom 0 none bytes).map String.ofList

/-- The character that stands for a part that cannot be decoded. -/
def replacement : Char := '\ufffd'

/-- Decodes, with one replacement character for each part that cannot be decoded. The byte that
shows a part to be beyond mending is not of that part: it starts a character of its own. -/
def decodeLossyFrom : Option Partial → List UInt8 → List Char
  | none, [] => []
  | some _, [] => [replacement]
  | none, byte :: rest =>
    match start byte with
    | .complete c => c :: decodeLossyFrom none rest
    | .owes p => decodeLossyFrom (some p) rest
    | .refused => replacement :: decodeLossyFrom none rest
  | some p, byte :: rest =>
    match p.extend byte with
    | .complete c => c :: decodeLossyFrom none rest
    | .owes q => decodeLossyFrom (some q) rest
    | .refused =>
      replacement ::
        match start byte with
        | .complete c => c :: decodeLossyFrom none rest
        | .owes q => decodeLossyFrom (some q) rest
        | .refused => replacement :: decodeLossyFrom none rest

/-- The text of a byte sequence, each part that cannot be decoded replaced. -/
def decodeLossy (bytes : List UInt8) : String :=
  String.ofList (decodeLossyFrom none bytes)

end RevisionControl.Text.Utf8
