import RevisionControl.Web.Character
import RevisionControl.Web.Composition
import RevisionControl.Web.Joiner
import RevisionControl.Web.Spelling.Arabic
import RevisionControl.Web.Spelling.Case
import RevisionControl.Web.Spelling.Ideographs
import RevisionControl.Web.Spelling.Letters

/-!
# The spelling of domains

A domain can be written in many ways. Its normal spelling has small letters and no character that is
just another form of one or more others, with each letter and its marks in one character. Characters
that cannot be seen are left out, and some may not stand in a domain at all.
-/

namespace RevisionControl.Web

open Text

namespace Spelling

/-- The characters that are left out. -/
def ignored : Ranges :=
  [(0xad, 0xad), (0x34f, 0x34f), (0x115f, 0x1160), (0x17b4, 0x17b5), (0x180b, 0x180f),
   (0x200b, 0x200b), (0x2060, 0x2064), (0x206a, 0x206f), (0x3164, 0x3164), (0xfe00, 0xfe0f),
   (0xfeff, 0xfeff), (0xffa0, 0xffa0), (0x1bca0, 0x1bca3), (0x1d173, 0x1d17a), (0xe0100, 0xe01ef)]

/-- The graphic characters that may not stand in a domain. -/
def refused : Ranges :=
  [(0xa8, 0xa8), (0xaf, 0xaf), (0xb4, 0xb4), (0xb8, 0xb8), (0x2d8, 0x2dd), (0x37a, 0x37a),
   (0x384, 0x385), (0x1fbd, 0x1fbd), (0x1fbf, 0x1fc1), (0x1fcd, 0x1fcf), (0x1fdd, 0x1fdf),
   (0x1fed, 0x1fee), (0x1ffd, 0x1ffe), (0x2017, 0x2017), (0x2024, 0x2026), (0x203e, 0x203e),
   (0x2047, 0x2049), (0x2100, 0x2101), (0x2105, 0x2106), (0x2488, 0x249b), (0x2a74, 0x2a74),
   (0x2ff0, 0x2fff), (0x309b, 0x309c), (0x31ef, 0x31ef), (0x33c2, 0x33c2), (0x33c7, 0x33c7),
   (0x33d8, 0x33d8), (0xfc5e, 0xfc63), (0xfdfa, 0xfdfb), (0xfe12, 0xfe13), (0xfe16, 0xfe16),
   (0xfe19, 0xfe19), (0xfe30, 0xfe30), (0xfe47, 0xfe4c), (0xfe52, 0xfe52), (0xfe55, 0xfe56),
   (0xfe5f, 0xfe5f), (0xfe68, 0xfe68), (0xfe6a, 0xfe6b), (0xfe70, 0xfe70),
   (0xfe72, 0xfe72), (0xfe74, 0xfe74), (0xfe76, 0xfe76), (0xfe78, 0xfe78), (0xfe7a, 0xfe7a),
   (0xfe7c, 0xfe7c), (0xfe7e, 0xfe7e), (0xffe3, 0xffe3), (0xfffc, 0xfffd), (0x1f100, 0x1f100)]

/-- The counterpart of a character that has a regular one. -/
def counterpart? (c : Char) : Option Char :=
  match shiftedRanges.find? fun (first, last, _) => first ≤ c.toNat && c.toNat ≤ last with
  | some (first, _, target) => some (Char.ofNat (target + (c.toNat - first)))
  | none =>
    (alternatingRanges.find? fun (first, last) =>
      first ≤ c.toNat && c.toNat ≤ last && (c.toNat - first) % 2 = 0).map
        fun _ => Char.ofNat (c.toNat + 1)

/-- What a character stands for by runs of characters. -/
def inRuns? (runs : List (Nat × List String)) (c : Char) : Option String :=
  runs.findSome? fun (first, texts) => if first ≤ c.toNat then texts[c.toNat - first]? else none

/-- What a character stands for, if it is another form of others. -/
def respelled? (c : Char) : Option (List Char) :=
  match counterpart? c with
  | some d => some [d]
  | none =>
    ((inRuns? letters c).or ((inRuns? ideographs c).or (inRuns? arabicLetters c))).map String.toList

/-- Whether a character may stand in the normal spelling. -/
def isNormal (c : Char) : Bool :=
  Joiner.isJoiner c ||
    (Character.isGraphic c && !refused.holds c && !ignored.holds c && (respelled? c).isNone)

/-- The normal spelling of a character, if it may stand in a domain. -/
def ofChar? (c : Char) : Option (List Char) :=
  if ignored.holds c then some []
  else
    match respelled? c with
    | some cs => some cs
    | none => if isNormal c then some [c] else none

/-- The normal spelling of a text. -/
def normal? (cs : List Char) : Option (List Char) :=
  (cs.mapM ofChar?).map fun spelled => composed spelled.flatten

end Spelling

end RevisionControl.Web
