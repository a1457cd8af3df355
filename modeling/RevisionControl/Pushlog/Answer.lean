import RevisionControl.Json.Record
import RevisionControl.Time.Civil

/-!
# Answers of a pushlog server

An answer names its pushes in the member `pushes`, an object from push identifiers to entries. The
entries are only read as JSON at first; one is decoded when it is the only one. Whatever else an
answer or an entry has is of no concern.
-/

namespace RevisionControl.Pushlog

open RevisionControl.Json

/-! ## The answer -/

/-- The limit on brackets inside the entries: those of the answer and of `pushes` count too. -/
def entryDepth : Nat := Reader.depthLimit - 2

/-- Takes the entries of an answer, by identifier. Of an identifier given twice the last entry
counts. -/
def readPushes : Reader Members := do
  match ← Reader.peekToken? with
  | some '\x7b' => return Members.ofList (← Reader.object (Reader.value entryDepth))
  | _ => Reader.unexpected "a map"

/-- How an answer is read: what it gives is its entries. -/
def answerShape : Shape (Option Members) Members where
  title := "struct PushlogResponse"
  fields := [⟨"pushes", (·.isSome), fun _ => return some (← readPushes)⟩]
  blank := none
  ofMembers := fun draft => draft.elim (.error (.missingField "pushes")) .ok
  ofItems := fun draft =>
    draft.elim (.error (.invalidLength 0 "struct PushlogResponse with 1 element")) .ok

/-- The entries of an answer, by identifier. -/
def parsePushes (body : String) : Except Fault Members :=
  (Reader.record answerShape).run body

/-! ## The entry -/

/-- Who pushed, and when. -/
structure Entry where
  /-- When it was pushed, in seconds since the start of 1970. -/
  date : Int
  /-- Who pushed. -/
  user : String
deriving DecidableEq, Repr

/-- Whether an integer fits 64 bits with a sign. -/
def fits64 (n : Int) : Bool := -Int.pow 2 63 ≤ n && n < Int.pow 2 63

/-- The date that a value is. -/
def decodeDate : Value → Except Cause Int
  | .number (.integer n) => if fits64 n then .ok n else .error (.invalidInteger n "i64")
  | value => .error (.invalidType value.found "i64")

/-- The user that a value is. -/
def decodeUser : Value → Except Cause String
  | .text user => .ok user
  | value => .error (.invalidType value.found "a string")

/-- Decodes the value of a member, if there is one. -/
def decodeMember {α : Type} (decode : Value → Except Cause α) (members : Members)
    (name : String) : Except Cause (Option α) :=
  match members.get? name with
  | none => .ok none
  | some value => (decode value).map some

/-- The value of a field that must be given. -/
def required {α : Type} (name : String) : Option α → Except Cause α
  | some value => .ok value
  | none => .error (.missingField name)

/-- The wording for how long the array form of an entry must be. -/
def entryLength : String := "struct PushEntry with 2 elements"

/-- The entry that a value is. The fields of an object are decoded before it is asked whether one
is missing; those of an array one after the other. -/
def Entry.ofValue : Value → Except Cause Entry
  | .object members => do
    let date ← decodeMember decodeDate members "date"
    let user ← decodeMember decodeUser members "user"
    return ⟨← required "date" date, ← required "user" user⟩
  | .array [] => .error (.invalidLength 0 entryLength)
  | .array (date :: more) => do
    let date ← decodeDate date
    match more with
    | [] => .error (.invalidLength 1 entryLength)
    | user :: more =>
      let user ← decodeUser user
      if more.isEmpty then return ⟨date, user⟩
      else .error (.invalidLength (more.length + 2) "fewer elements in array")
  | value => .error (.invalidType value.found "struct PushEntry")

/-! ## The push -/

/-- A push, and who pushed it when. -/
structure Push where
  /-- The identifier of the push. -/
  id : String
  /-- When it was pushed, in seconds since the start of 1970. -/
  date : Int
  /-- Who pushed. -/
  user : String
deriving DecidableEq, Repr

/-- The first second of the year -262143. -/
def earliestDate : Int := -8334601228800

/-- The last second of the year 262142. -/
def latestDate : Int := 8210266876799

/-- The date and time of a push date, if it lies within the years kept. -/
def timeOf? (date : Int) : Option Time.Civil :=
  if earliestDate ≤ date ∧ date ≤ latestDate then some (.ofTimestamp date) else none

/-- The date and time of a push. -/
def Push.time? (push : Push) : Option Time.Civil :=
  Pushlog.timeOf? push.date

end RevisionControl.Pushlog
