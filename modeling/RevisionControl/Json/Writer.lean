import RevisionControl.Json.Value
import RevisionControl.Decimal.Shortest

/-!
# Writing JSON

The compact text of a value: no blanks, members in the order of the value, and in strings only
the characters escaped that must be.
-/

namespace RevisionControl.Json

/-- The text of a number. -/
def Number.text : Number → String
  | .integer value => toString value
  | .real value => value.text

/-- The digits of a control character's escape. -/
def controlDigits (c : Char) : List Char :=
  let digits := Nat.toDigits 16 c.toNat
  List.replicate (4 - digits.length) '0' ++ digits

/-- A character as it stands inside a string. -/
def escapeChar (c : Char) : List Char :=
  if c = '"' then ['\\', '"']
  else if c = '\\' then ['\\', '\\']
  else if c = '\x08' then ['\\', 'b']
  else if c = '\x0c' then ['\\', 'f']
  else if c = '\n' then ['\\', 'n']
  else if c = '\r' then ['\\', 'r']
  else if c = '\t' then ['\\', 't']
  else if c.toNat < 0x20 then '\\' :: 'u' :: controlDigits c
  else [c]

/-- The characters of a string. -/
def stringChars (s : String) : List Char :=
  '"' :: (s.toList.flatMap escapeChar ++ ['"'])

mutual

/-- The characters of a value. -/
def Value.chars : Value → List Char
  | .null => ['n', 'u', 'l', 'l']
  | .boolean true => ['t', 'r', 'u', 'e']
  | .boolean false => ['f', 'a', 'l', 's', 'e']
  | .number value => value.text.toList
  | .text value => stringChars value
  | .array items => '[' :: (itemsChars items ++ [']'])
  | .object members => '\x7b' :: (membersChars members ++ ['\x7d'])

/-- The characters of the items of an array. -/
def itemsChars : List Value → List Char
  | [] => []
  | [item] => item.chars
  | item :: more => item.chars ++ ',' :: itemsChars more

/-- The characters of the members of an object. -/
def membersChars : List (String × Value) → List Char
  | [] => []
  | [(key, value)] => stringChars key ++ ':' :: value.chars
  | (key, value) :: more => stringChars key ++ ':' :: (value.chars ++ ',' :: membersChars more)

end

/-- The compact text of a value. -/
def Value.write (value : Value) : String :=
  String.ofList value.chars

end RevisionControl.Json
