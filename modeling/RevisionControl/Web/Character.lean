import RevisionControl.Text.Graphic
import RevisionControl.Text.Mark

/-!
# The characters of domains

A domain may hold graphic characters of version 18 of the Unicode Character Database. These are the
graphic characters of version 17 and the ones that are given here. Version 18 also has three marks
as spacing marks that were nonspacing marks before.
-/

namespace RevisionControl.Web.Character

open Text

/-! ## Marks -/

/-- The nonspacing marks that version 18 adds. -/
def addedNonspacingMarks : Ranges :=
  [(0x5c8, 0x5c9), (0xb53, 0xb54), (0x1ade, 0x1adf), (0x1aec, 0x1af0), (0x10ecb, 0x10ecf),
   (0x10ef0, 0x10ef9), (0x11df0, 0x11df0), (0x1d127, 0x1d127), (0x1d25b, 0x1d25b)]

/-- The spacing marks that version 18 adds. -/
def addedSpacingMarks : Ranges :=
  [(0x1d250, 0x1d25a), (0x1d25e, 0x1d25f), (0x1d280, 0x1d281)]

/-- The marks that version 18 turns from nonspacing into spacing marks. -/
def widenedMarks : Ranges :=
  [(0x1b3a, 0x1b3a), (0x1b3c, 0x1b3c), (0x1b42, 0x1b42)]

/-- Whether a character is a nonspacing or an enclosing mark. -/
def isNonspacing (c : Char) : Bool :=
  (Text.isNonspacing c || addedNonspacingMarks.holds c) && !widenedMarks.holds c

/-- Whether a character is a mark. -/
def isMark (c : Char) : Bool :=
  Text.isMark c || addedNonspacingMarks.holds c || addedSpacingMarks.holds c

/-! ## Graphic characters -/

/-- The letters and signs that version 18 adds. -/
def addedLetters : Ranges :=
  [(0x208f, 0x208f), (0x20c2, 0x20c4), (0x2e5e, 0x2e63), (0x10ec9, 0x10ec9), (0x10ed9, 0x10ee5),
   (0x11b0a, 0x11b0a), (0x11df1, 0x11df1), (0x1246f, 0x1246f), (0x12475, 0x1247f),
   (0x12550, 0x12686), (0x18cd6, 0x18cfe), (0x18d1f, 0x18d1f), (0x18e00, 0x19191),
   (0x191a0, 0x191d2), (0x1b127, 0x1b128), (0x1b168, 0x1b168), (0x1ced2, 0x1cedd),
   (0x1cef1, 0x1ceff), (0x1d128, 0x1d128), (0x1d1eb, 0x1d1eb), (0x1d25c, 0x1d25d),
   (0x1d260, 0x1d27f), (0x1db00, 0x1dbff), (0x1df1f, 0x1df24), (0x1df2b, 0x1df81),
   (0x1df90, 0x1df94), (0x1f1ae, 0x1f1ae), (0x1f6d9, 0x1f6d9), (0x1f7da, 0x1f7df),
   (0x1f7ec, 0x1f7ef), (0x1f7f1, 0x1f7ff), (0x1fa8b, 0x1fa8d), (0x1fac9, 0x1facc),
   (0x1fadd, 0x1fade), (0x1faeb, 0x1faeb), (0x1faf9, 0x1fafa), (0x2b81e, 0x2b81e),
   (0x3d000, 0x3fc3f)]

/-- Whether a character is graphic. -/
def isGraphic (c : Char) : Bool := Text.isGraphic c || isMark c || addedLetters.holds c

end RevisionControl.Web.Character
