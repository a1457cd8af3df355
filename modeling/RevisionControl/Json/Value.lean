import RevisionControl.Decimal.Double

/-!
# JSON values

A number is kept exactly when it is written as an integer that fits 64 bits, signed or unsigned,
and is a double-precision number otherwise. The members of an object are kept in ascending order
of their keys, each key once, so that two objects with the same mapping are equal.
-/

namespace RevisionControl.Json

open RevisionControl.Decimal

/-- A JSON number. -/
inductive Number where
  /-- An integer from `-2 ^ 63` to `2 ^ 64 - 1`, written without fraction and exponent. -/
  | integer (value : Int)
  /-- Any other number; so is a zero with a minus sign. -/
  | real (value : Double)
deriving DecidableEq, Repr

/-- A JSON value. -/
inductive Value where
  /-- The value `null`. -/
  | null
  /-- A truth value. -/
  | boolean (value : Bool)
  /-- A number. -/
  | number (value : Number)
  /-- A string. -/
  | text (value : String)
  /-- An array. -/
  | array (items : List Value)
  /-- An object, its members in ascending order of their keys. -/
  | object (members : List (String × Value))
deriving Repr

/-! ## Equality -/

mutual

/-- Whether two values are equal. -/
def Value.same : Value → Value → Bool
  | .null, .null => true
  | .boolean b, .boolean c => b == c
  | .number n, .number m => n == m
  | .text s, .text t => s == t
  | .array items, .array others => sameItems items others
  | .object members, .object others => sameMembers members others
  | _, _ => false

/-- Whether the items of two arrays are equal. -/
def sameItems : List Value → List Value → Bool
  | [], [] => true
  | v :: items, w :: others => v.same w && sameItems items others
  | _, _ => false

/-- Whether the members of two objects are equal. -/
def sameMembers : List (String × Value) → List (String × Value) → Bool
  | [], [] => true
  | (k, v) :: members, (l, w) :: others => k == l && v.same w && sameMembers members others
  | _, _ => false

end

mutual

theorem Value.same_iff : ∀ {v w : Value}, v.same w = true ↔ v = w
  | .array items, w => by cases w <;> simp [Value.same, sameItems_iff]
  | .object members, w => by cases w <;> simp [Value.same, sameMembers_iff]
  | .null, w | .boolean b, w | .number n, w | .text s, w => by cases w <;> simp [Value.same]

theorem sameItems_iff : ∀ {items others : List Value},
    sameItems items others = true ↔ items = others
  | [], others => by cases others <;> simp [sameItems]
  | v :: items, others => by cases others <;> simp [sameItems, Value.same_iff, sameItems_iff]

theorem sameMembers_iff : ∀ {members others : List (String × Value)},
    sameMembers members others = true ↔ members = others
  | [], others => by cases others <;> simp [sameMembers]
  | (k, v) :: members, others => by
    cases others <;> simp [sameMembers, Value.same_iff, sameMembers_iff, Prod.ext_iff]

end

instance : DecidableEq Value := fun _ _ => decidable_of_iff _ Value.same_iff

/-! ## Members -/

/-- Members in ascending order of their keys. -/
abbrev Members := List (String × Value)

/-- Whether the keys ascend strictly, by code points. -/
def Members.Ascending : Members → Prop
  | [] => True
  | [_] => True
  | (k, _) :: (l, v) :: rest => k < l ∧ Members.Ascending ((l, v) :: rest)

/-- Gives a key a value, in place of the value it had. -/
def Members.insert (key : String) (value : Value) : Members → Members
  | [] => [(key, value)]
  | (k, v) :: rest =>
    if key < k then (key, value) :: (k, v) :: rest
    else if key = k then (key, value) :: rest
    else (k, v) :: Members.insert key value rest

/-- The mapping that members give in the order of a text: the last value of a key counts. -/
def Members.ofList (written : List (String × Value)) : Members :=
  written.foldl (fun members (key, value) => members.insert key value) []

/-- The value of a key. -/
def Members.get? (members : Members) (key : String) : Option Value :=
  members.lookup key

end RevisionControl.Json
