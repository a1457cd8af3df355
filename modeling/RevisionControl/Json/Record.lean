import RevisionControl.Json.Skip

/-!
# Reading records

A record is a value with named fields. It is written as an object that names them, in any order
and with members of other names between them, which are skipped; or as an array of their values,
by position. What the fields have given so far is a draft; when the closing bracket is reached the
draft is finished, which fails where something that must be given is missing.

A fault of the data as such, a repeated or a missing field, is placed where the record would be
closed: behind the blanks that follow, and behind the closing bracket if it is there.
-/

namespace RevisionControl.Json

/-- A field of a record whose draft is a `σ`. -/
structure Field (σ : Type) where
  /-- The name of the field. -/
  name : String
  /-- Whether a draft has a value for the field. -/
  given : σ → Bool
  /-- Reads a value for the field into a draft. -/
  read : σ → Reader σ

/-- A record `α` that is read by way of drafts `σ`. -/
structure Shape (σ α : Type) where
  /-- The wording for the record where another value is found. -/
  title : String
  /-- The fields, in the order of the array form. -/
  fields : List (Field σ)
  /-- The draft with no field given. -/
  blank : σ
  /-- Finishes the draft of an object. -/
  ofMembers : σ → Except Cause α
  /-- Finishes the draft of an array. -/
  ofItems : σ → Except Cause α

namespace Reader

variable {σ α : Type}

/-- Takes the members of an object into a draft, at most `fuel` of them. A field that is given
twice ends the reading behind its second key. -/
def fieldsByName (fields : List (Field σ)) : Nat → Bool → σ → Reader (Except Cause σ)
  | 0, _, _ => failHere .endInObject
  | fuel + 1, first, draft => do
    if ← nextKey first then
      let key ← string
      match fields.find? (·.name == key) with
      | some field =>
        if field.given draft then return .error (.duplicateField field.name)
        else do
          colon
          let draft ← field.read draft
          fieldsByName fields fuel false draft
      | none => do
        colon
        skipValue
        fieldsByName fields fuel false draft
    else return .ok draft

/-- Takes the items of an array into a draft, a field for each, until either ends. -/
def fieldsByPosition : List (Field σ) → Bool → σ → Reader σ
  | [], _, draft => return draft
  | field :: more, first, draft => do
    if ← nextItem first then
      let draft ← field.read draft
      fieldsByPosition more false draft
    else return draft

/-- Closes a record that has been read, or fails behind where it would be closed. -/
def settle (close : Reader Unit) (bracket : Char) (result : Except Cause α) : Reader α := do
  match result with
  | .ok value => do
    close
    return value
  | .error cause => do
    if (← peekToken?) = some bracket then skip
    failHere cause

/-- Takes a record. -/
def record (shape : Shape σ α) : Reader α := do
  match ← peekToken? with
  | some '[' => do
    skip
    let draft ← fieldsByPosition shape.fields true shape.blank
    settle closeArray ']' (shape.ofItems draft)
  | some '\x7b' => do
    skip
    let fuel ← remaining
    let draft ← fieldsByName shape.fields (fuel + 1) true shape.blank
    settle closeObject '\x7d' (draft.bind shape.ofMembers)
  | _ => unexpected shape.title

/-- Takes an integer from zero to `greatest`. -/
def natural (greatest : Nat) (expected : String) : Reader Nat := do
  match ← peekToken? with
  | some '-' => do
    skip
    accept (← number true)
  | some c => if isDigit c then accept (← number false) else unexpected expected
  | none => unexpected expected
where
  /-- Checks the number that has been read. -/
  accept (n : Number) : Reader Nat :=
    match n with
    | .integer value =>
      if 0 ≤ value ∧ value ≤ greatest then return value.toNat
      else failHere (.invalidInteger value expected)
    | n => failHere (.invalidType (.number n) expected)

end Reader

end RevisionControl.Json
