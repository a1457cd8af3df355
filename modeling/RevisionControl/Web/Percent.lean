/-!
# Percent-encoding

Characters that may not stand in a part of an address are written as their UTF-8 bytes, each as a
percent sign and two hexadecimal digits. Control characters and those beyond ASCII may stand
nowhere; each part adds characters of its own.
-/

namespace RevisionControl.Web.Percent

/-- A hexadecimal digit, in upper case. -/
def digit (n : Nat) : Char :=
  if n < 10 then Char.ofNat ('0'.toNat + n) else Char.ofNat ('A'.toNat + (n - 10))

/-- The value of a hexadecimal digit. -/
def digitValue? (c : Char) : Option Nat :=
  if '0' ≤ c ∧ c ≤ '9' then some (c.toNat - '0'.toNat)
  else if 'a' ≤ c ∧ c ≤ 'f' then some (c.toNat - 'a'.toNat + 10)
  else if 'A' ≤ c ∧ c ≤ 'F' then some (c.toNat - 'A'.toNat + 10)
  else none

/-- The characters for a byte. -/
def byteChars (byte : UInt8) : List Char :=
  ['%', digit (byte.toNat / 16), digit (byte.toNat % 16)]

/-- Whether a character may stand in no part. -/
def isForbidden (c : Char) : Bool := c.toNat < 0x20 || 0x7f ≤ c.toNat

/-- Encodes the characters of a set, and those that may stand nowhere. -/
def encode (set : List Char) (cs : List Char) : List Char :=
  cs.flatMap fun c =>
    if isForbidden c || set.contains c then (String.utf8EncodeChar c).flatMap byteChars else [c]

/-- The bytes that an encoded text stands for. A percent sign that two digits do not follow stands
for itself. -/
def decode : List Char → List UInt8
  | [] => []
  | '%' :: a :: b :: rest =>
    match digitValue? a, digitValue? b with
    | some high, some low => UInt8.ofNat (high * 16 + low) :: decode rest
    | _, _ => '%'.toUInt8 :: decode (a :: b :: rest)
  | c :: rest => String.utf8EncodeChar c ++ decode rest

/-! ## The sets of the parts -/

/-- What may not stand in a fragment. -/
def ofFragment : List Char := [' ', '"', '<', '>', '`']

/-- What may not stand in a path. -/
def ofPath : List Char := ofFragment ++ ['#', '?', '\x7b', '\x7d']

/-- What may not stand in the user information. -/
def ofUser : List Char := ofPath ++ ['/', ':', ';', '=', '@', '[', '\\', ']', '^', '|']

/-- What may not stand in a query. -/
def ofQuery : List Char := [' ', '"', '#', '<', '>']

end RevisionControl.Web.Percent
