import RevisionControl.Text.Fields
import RevisionControl.Web.Direction
import RevisionControl.Web.Punycode
import RevisionControl.Web.Spelling

/-!
# Domains

A domain is a row of labels between dots. It is written in its normal spelling, and then in ASCII: a
label with characters beyond ASCII is encoded, and marked as such. A label may also be given in its
encoded form, if it stands for one that is in the normal spelling already.
-/

namespace RevisionControl.Web.Domain

/-- The ASCII signs that may not stand in a domain. -/
def forbiddenSigns : List Char :=
  ['%', '#', '/', ':', '<', '>', '?', '@', '[', '\\', ']', '^', '|']

/-- Whether a domain may not hold a character of ASCII. -/
def isForbidden (c : Char) : Bool :=
  c.toNat ≤ 0x20 || c.toNat = 0x7f || forbiddenSigns.contains c

/-! ## Labels -/

/-- A label. -/
structure Label where
  /-- The characters it stands for. -/
  chars : List Char
  /-- The characters it is written with, which are ASCII. -/
  text : List Char
deriving DecidableEq, Repr

/-- The greatest number of characters of a label that is beyond ASCII. -/
def greatestSize : Nat := 1000

/-- The greatest number of characters of an encoded label. -/
def greatestEncodedSize : Nat := 2000

/-- Whether the characters of a text in normal spelling may make up a label beyond ASCII. -/
def isProper (cs : List Char) : Bool :=
  !cs.head?.any Character.isMark && Joiner.allFit [] cs && cs.length ≤ greatestSize

/-- What an encoded label starts with. -/
def encodedMark : List Char := ['x', 'n', '-', '-']

/-- The characters that the encoded form of a label, behind the mark, stands for. -/
def decode? (encoded : List Char) : Option (List Char) := do
  if encoded.isEmpty || encoded.getLast? = some '-' || greatestEncodedSize < encoded.length then
    none
  else
    let cs ← Punycode.decode? encoded
    if cs.all Spelling.isNormal && composed cs = cs && isProper cs then some cs else none

/-- The label that a text in normal spelling is. -/
def Label.of? (cs : List Char) : Option Label :=
  match encodedMark.isPrefixOf? cs with
  | some encoded => (decode? encoded).map (⟨·, cs⟩)
  | none =>
    if cs.all Punycode.isBasic then some ⟨cs, cs⟩
    else if isProper cs then some ⟨cs, encodedMark ++ Punycode.encode cs⟩
    else none

/-! ## Rows of labels -/

/-- The directions of the characters of a label. -/
def Label.directions (label : Label) : List Direction := label.chars.map Direction.ofChar

/-- Whether labels may stand side by side: if a letter in them is written from right to left, each
of them has one direction. -/
def areReadable (labels : List Label) : Bool :=
  !labels.any (·.directions.any Direction.isRightward) ||
    labels.all fun label => Direction.areOneWay label.directions

/-- The domain that a text is, in ASCII. -/
def ascii? (cs : List Char) : Option (List Char) := do
  let spelled ← Spelling.normal? cs
  if spelled.any isForbidden then none
  else
    let labels ← (Text.fields '.' spelled).mapM Label.of?
    if areReadable labels then some (['.'].intercalate (labels.map Label.text)) else none

end RevisionControl.Web.Domain
