import RevisionControl.Text.Fields
import RevisionControl.Web.Percent

/-!
# Numeric hosts

An IPv4 address is up to four numbers between dots, decimal, octal or hexadecimal; the last number
fills all bytes that are left. An IPv6 address is eight pieces of 16 bits between colons, of which
one run of zeros may be left out; the last two pieces may be written as an IPv4 address.
-/

namespace RevisionControl.Web

/-! ## IPv4 -/

namespace Ipv4

/-- The number that digits of a base write; none if one of them is no digit of the base. -/
def digitsValue? (base : Nat) (cs : List Char) : Option Nat :=
  cs.foldlM (fun n c => do
    let d ← Percent.digitValue? c
    if d < base then some (n * base + d) else none) 0

/-- The number that a part of an address writes. -/
def partValue? : List Char → Option Nat
  | [] => none
  | '0' :: 'x' :: rest | '0' :: 'X' :: rest => digitsValue? 16 rest
  | '0' :: d :: rest => digitsValue? 8 (d :: rest)
  | cs => digitsValue? 10 cs

/-- The parts of a host between dots; a dot at the end does not count. -/
def parts (host : List Char) : List (List Char) :=
  let fields := Text.fields '.' host
  if fields.length > 1 ∧ fields.getLast? = some [] then fields.dropLast else fields

/-- Whether the last part of a host is a number, so that the host must be an address. -/
def endsInNumber (host : List Char) : Bool :=
  match (parts host).getLast? with
  | none | some [] => false
  | some last => last.all Char.isDigit || (partValue? last).isSome

/-- The address that numbers give: all but the last are a byte each. -/
def ofNumbers? (numbers : List Nat) : Option Nat :=
  match numbers.reverse with
  | [] => none
  | last :: before =>
    let bytes := before.reverse
    if numbers.length ≤ 4 ∧ bytes.all (· < 256) ∧ last < Nat.pow 256 (4 - bytes.length) then
      some (bytes.foldl (fun n b => n * 256 + b) 0 * Nat.pow 256 (4 - bytes.length) + last)
    else none

/-- The address that a host is. -/
def parse? (host : List Char) : Option Nat := do
  ofNumbers? (← (parts host).mapM partValue?)

/-- The text of an address: its four bytes. -/
def text (address : Nat) : String :=
  ".".intercalate ([3, 2, 1, 0].map fun i => toString (address / Nat.pow 256 i % 256))

end Ipv4

/-! ## IPv6 -/

namespace Ipv6

/-- The piece that up to four hexadecimal digits write. -/
def piece? (cs : List Char) : Option Nat :=
  if cs.isEmpty || cs.length > 4 then none else Ipv4.digitsValue? 16 cs

/-- The byte that a decimal number without leading zeros writes. -/
def byte? (cs : List Char) : Option Nat := do
  let n ← Ipv4.digitsValue? 10 cs
  if cs.isEmpty || n > 255 || (cs.length > 1 && cs.head? = some '0') then none else some n

/-- The two pieces that an IPv4 address of four bytes gives. -/
def bytesPieces? (cs : List Char) : Option (List Nat) := do
  match ← (Text.fields '.' cs).mapM byte? with
  | [a, b, c, d] => some [a * 256 + b, c * 256 + d]
  | _ => none

/-- The pieces of fields between colons, the last of which may be an IPv4 address. -/
def pieces? : List (List Char) → Option (List Nat)
  | [] => some []
  | [last] => if last.contains '.' then bytesPieces? last else (piece? last).map ([·])
  | field :: more => do return (← piece? field) :: (← pieces? more)

/-- The pieces of a text that may be empty. -/
def side? (cs : List Char) : Option (List Nat) :=
  if cs.isEmpty then some [] else pieces? (Text.fields ':' cs)

/-- Cuts a text at the first pair of colons. -/
def cutAtGap : List Char → List Char × Option (List Char)
  | [] => ([], none)
  | ':' :: ':' :: rest => ([], some rest)
  | c :: rest => let (before, behind) := cutAtGap rest; (c :: before, behind)

/-- The eight pieces of the address that a text is. -/
def parse? (cs : List Char) : Option (List Nat) := do
  match cutAtGap cs with
  | (all, none) =>
    let pieces ← side? all
    if pieces.length = 8 then some pieces else none
  | (before, some behind) =>
    if before.contains '.' then none
    else
      let left ← side? before
      let right ← side? behind
      if left.length + right.length < 8 then
        some (left ++ List.replicate (8 - left.length - right.length) 0 ++ right)
      else none

/-- The number of zeros that a list starts with. -/
def zeros (pieces : List Nat) : Nat := (pieces.takeWhile (· == 0)).length

/-- The length of the longest run of zeros. -/
def longestRun : List Nat → Nat
  | [] => 0
  | piece :: more => max (zeros (piece :: more)) (longestRun more)

/-- The start of the first run of so many zeros. -/
def runStart (run : Nat) : List Nat → Nat
  | [] => 0
  | piece :: more => if zeros (piece :: more) = run then 0 else runStart run more + 1

/-- The pieces in hexadecimal, between colons. -/
def piecesText (pieces : List Nat) : String :=
  ":".intercalate (pieces.map fun n => String.ofList (Nat.toDigits 16 n))

/-- The text of an address: the first of the longest runs of zeros is left out, if it is longer
than one. -/
def text (pieces : List Nat) : String :=
  let run := longestRun pieces
  if run < 2 then piecesText pieces
  else
    let start := runStart run pieces
    piecesText (pieces.take start) ++ "::" ++ piecesText (pieces.drop (start + run))

end Ipv6

end RevisionControl.Web
