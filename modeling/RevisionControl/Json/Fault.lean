import RevisionControl.Json.Value
import RevisionControl.Decimal.Shortest
import RevisionControl.Json.Writer
import RevisionControl.Text.Quoted

/-!
# What can be wrong with a JSON text

A fault has a cause and, when it was found in a text, the place there. The causes fall into three
classes: the text is no JSON (`Category.grammar`), it ends too early (`Category.ending`), or it is
JSON but not the data asked for (`Category.data`).
-/

namespace RevisionControl.Json

/-- A place in a text: the line, from 1 on, and the number of bytes of that line before it. -/
structure Position where
  /-- The line. -/
  line : Nat
  /-- The bytes of the line before the place. -/
  column : Nat
deriving DecidableEq, Repr

/-- A value met where another was asked for. -/
inductive Found where
  /-- The value `null`. -/
  | null
  /-- A truth value. -/
  | boolean (value : Bool)
  /-- A number. -/
  | number (value : Number)
  /-- A string. -/
  | text (value : String)
  /-- An array. -/
  | array
  /-- An object. -/
  | object
deriving DecidableEq, Repr

/-- What is found where a value stands. -/
def Value.found : Value → Found
  | .null => .null
  | .boolean value => .boolean value
  | .number value => .number value
  | .text value => .text value
  | .array _ => .array
  | .object _ => .object

/-- The wording for a value found. -/
def Found.wording : Found → String
  | .null => "null"
  | .boolean value => "boolean `" ++ toString value ++ "`"
  | .number (.integer value) => "integer `" ++ toString value ++ "`"
  | .number (.real value) => "floating point `" ++ value.text ++ "`"
  | .text value => "string " ++ Text.quote value
  | .array => "sequence"
  | .object => "map"

/-- Why a text, or a value, is refused. -/
inductive Cause where
  /-- No value starts here. -/
  | expectedValue
  /-- A misspelt `null`, `true` or `false`. -/
  | expectedIdent
  /-- No colon after a key. -/
  | expectedColon
  /-- Neither a comma nor the end after a member. -/
  | expectedCommaOrBrace
  /-- Neither a comma nor the end after an item. -/
  | expectedCommaOrBracket
  /-- A key that is no string. -/
  | keyNotString
  /-- A comma before the end. -/
  | trailingComma
  /-- Something after the value. -/
  | trailingCharacters
  /-- A malformed number. -/
  | invalidNumber
  /-- A number that no finite double-precision number is near. -/
  | numberOutOfRange
  /-- A malformed escape. -/
  | invalidEscape
  /-- A control character in a string. -/
  | controlCharacter
  /-- The second half of a surrogate pair without the first, or two first halves. -/
  | loneSurrogate
  /-- The first half of a surrogate pair without the second. -/
  | unfinishedSurrogate
  /-- Too many arrays and objects inside each other. -/
  | tooDeep
  /-- The text ends where a value is due. -/
  | endInValue
  /-- The text ends inside an object. -/
  | endInObject
  /-- The text ends inside an array. -/
  | endInArray
  /-- The text ends inside a string. -/
  | endInString
  /-- A value of another kind than asked for. -/
  | invalidType (found : Found) (expected : String)
  /-- An integer outside the range asked for. -/
  | invalidInteger (value : Int) (expected : String)
  /-- A field that must be given and is not. -/
  | missingField (name : String)
  /-- A field that is given twice. -/
  | duplicateField (name : String)
  /-- An array of the wrong length. -/
  | invalidLength (length : Nat) (expected : String)
deriving DecidableEq, Repr

/-- The classes of causes. -/
inductive Category where
  /-- The text is no JSON. -/
  | grammar
  /-- The text ends too early. -/
  | ending
  /-- The data is not what was asked for. -/
  | data
deriving DecidableEq, Repr

/-- The class of a cause. -/
def Cause.category : Cause → Category
  | .endInValue | .endInObject | .endInArray | .endInString => .ending
  | .invalidType .. | .invalidInteger .. | .missingField _ | .duplicateField _
  | .invalidLength .. => .data
  | _ => .grammar

/-- The wording of a cause. -/
def Cause.message : Cause → String
  | .expectedValue => "expected value"
  | .expectedIdent => "expected ident"
  | .expectedColon => "expected `:`"
  | .expectedCommaOrBrace => "expected `,` or `\x7d`"
  | .expectedCommaOrBracket => "expected `,` or `]`"
  | .keyNotString => "key must be a string"
  | .trailingComma => "trailing comma"
  | .trailingCharacters => "trailing characters"
  | .invalidNumber => "invalid number"
  | .numberOutOfRange => "number out of range"
  | .invalidEscape => "invalid escape"
  | .controlCharacter =>
    "control character (\\u0000-\\u001F) found while parsing a string"
  | .loneSurrogate => "lone leading surrogate in hex escape"
  | .unfinishedSurrogate => "unexpected end of hex escape"
  | .tooDeep => "recursion limit exceeded"
  | .endInValue => "EOF while parsing a value"
  | .endInObject => "EOF while parsing an object"
  | .endInArray => "EOF while parsing a list"
  | .endInString => "EOF while parsing a string"
  | .invalidType found expected =>
    "invalid type: " ++ found.wording ++ ", expected " ++ expected
  | .invalidInteger value expected =>
    "invalid value: integer `" ++ toString value ++ "`, expected " ++ expected
  | .missingField name => "missing field `" ++ name ++ "`"
  | .duplicateField name => "duplicate field `" ++ name ++ "`"
  | .invalidLength length expected =>
    "invalid length " ++ toString length ++ ", expected " ++ expected

/-- A cause and the place where it was found; a value that is no longer a text has no places. -/
structure Fault where
  /-- What is wrong. -/
  cause : Cause
  /-- Where it is wrong. -/
  position : Option Position
deriving DecidableEq, Repr

/-- The wording of a fault. -/
def Fault.message (fault : Fault) : String :=
  match fault.position with
  | none => fault.cause.message
  | some place =>
    fault.cause.message ++ " at line " ++ toString place.line ++ " column " ++
      toString place.column

end RevisionControl.Json
