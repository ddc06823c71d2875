import TextTemplate.Text.CharSet.DefaultIgnorable
import TextTemplate.Text.Columns.Joining
import TextTemplate.Text.Columns.Wide

/-!
# Columns of a terminal

The number of columns a terminal gives to a character: none for signs that join
the text beside them, two for wide characters, three for one Khmer sign, and one
otherwise.

Main definition:

- `Columns.ofChar` is that number; control characters take one column.
-/

namespace TextTemplate.Columns

/-- Vowels and final consonants that are drawn into the syllable before them. -/
def syllableParts : CharSet :=
  [(0x1160, 0x11FF), (0xD7B0, 0xD7C6), (0xD7CB, 0xD7FB)]

/-- Vowel signs and long marks whose decomposition consists of joining marks,
although they are not listed among these themselves. -/
def decomposedMarks : CharSet :=
  [(0xCC0, 0xCC0), (0xCC7, 0xCC8), (0xCCA, 0xCCB), (0x1B3B, 0x1B3B), (0x1B3D, 0x1B3D),
   (0x1B43, 0x1B43)]

/-- Signs that are drawn above, below or around the text after them. -/
def enclosingNext : CharSet :=
  [(0x605, 0x605), (0x70F, 0x70F), (0x890, 0x891), (0x8E2, 0x8E2), (0xA8FA, 0xA8FA)]

/-- Consonants and other signs that begin the cluster of the letter after them
and are drawn as part of it. -/
def joiningNext : CharSet :=
  [(0xD4E, 0xD4E), (0x111C2, 0x111C3), (0x1193F, 0x1193F), (0x11941, 0x11941),
   (0x11A3A, 0x11A3A), (0x11A84, 0x11A89), (0x11D46, 0x11D46), (0x11F02, 0x11F02)]

/-- A character that takes no column of its own.  The consonant joiner U+2D7F is
seen where no font joins the letters around it. -/
def isZeroWidth (c : Char) : Bool :=
  c != '\u2d7f' &&
    [CharSet.defaultIgnorable, joining, syllableParts, decomposedMarks, enclosingNext,
      joiningNext].any (·.contains c)

/-- The columns a character takes.  The filler U+115F is as wide as the
consonants it stands for, and the two Khmer signs have broad forms. -/
def ofChar (c : Char) : Nat :=
  if c == '\u115f' || c == '\u17a4' then 2
  else if c == '\u17d8' then 3
  else if isZeroWidth c then 0
  else if wide.contains c then 2
  else 1

end TextTemplate.Columns
