import RevisionControl.Text.Printable

/-!
# Quoted texts

A quoted text stands between double quotes and holds no character that could be mistaken for its
end, break a line or stay unseen. Such characters are written as escapes: a backslash with a
letter for the common ones, and the hexadecimal number of the character between braces for all
others. A list is written as its quoted members between square brackets.
-/

namespace RevisionControl.Text

/-- The escape of a character by its number, in lower-case hexadecimal digits. -/
def numberEscape (c : Char) : List Char :=
  '\\' :: 'u' :: '\x7b' :: (Nat.toDigits 16 c.toNat ++ ['\x7d'])

/-- A character as it stands inside quotes. -/
def quoteChar (c : Char) : List Char :=
  if c = '"' then ['\\', '"']
  else if c = '\\' then ['\\', '\\']
  else if c = '\t' then ['\\', 't']
  else if c = '\r' then ['\\', 'r']
  else if c = '\n' then ['\\', 'n']
  else if c = '\x00' then ['\\', '0']
  else if isPrintable c then [c]
  else numberEscape c

/-- The characters of a quoted text. -/
def quoteChars (cs : List Char) : List Char :=
  '"' :: (cs.flatMap quoteChar ++ ['"'])

/-- A quoted text. -/
def quote (s : String) : String :=
  String.ofList (quoteChars s.toList)

/-- A list of quoted texts. -/
def quoteList (items : List String) : String :=
  "[" ++ ", ".intercalate (items.map quote) ++ "]"

end RevisionControl.Text
