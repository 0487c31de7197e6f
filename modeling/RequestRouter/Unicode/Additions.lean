import RequestRouter.Unicode.BinaryProperty
import RequestRouter.Unicode.GeneralCategory

/-!
# Additions of the next version

The tables are those of version 16 of the standard, which classes in patterns follow. Texts that are
quoted or converted between cases, and the names of groups, follow version 17. Here is what that
version assigns, and what is asked of a character of it.

* `isAlphabetic`, `isNumeric`, `isCased`, `isCaseIgnorable`: properties as of version 17.
* `isHidden`: whether a character does not show on its own, as of version 17.
-/

namespace RequestRouter.Unicode

namespace Additions

/-- The code points that the version assigns. -/
def characters : RangeTable := .decode
    "88f 0 3cc 0 7f 0 df2 e 2 b 5d5 0 ad4 0 7c37 1 2 0 1 0 1c 0 53d1 f 1bd 1 36 6 b71 19 56b 2 8 8
     21 1 c64 7 248 2b 4 9 50b6 18 2 18 11e 4 1801 7 509 15 61 72 3f07 2 1bd 16 f 10 17cf 1e 1 15
     8 1 fd8 0 9e 3 155 8 17b 3 32 0 3 0 39 0 4 0 1c 0 4 0 10a 0 bb3f 5 1762 b 5502 10c9"

/-- Of these, the alphabetic ones. -/
def alphabetic : RangeTable := .decode
    "88f 0 3cc 0 7f 0 9af1 1 2 0 1 0 1c 0 614e 19 56b 2 32 1 c64 7 248 2b 50c4 18 2 18 11e 4 1801
     7 509 15 61 72 58cd 1e 1 15 8 1 d03a 5 1762 b 5502 10c9"

/-- The numbers among them. -/
def numeric : RangeTable := .decode
    "11de0 9 520a 2"

/-- Those with case. -/
def cased : RangeTable := .decode
    "a7ce 1 2 0 1 0 1c 0 c6ae 18 2 18"

/-- Those that case mapping passes over. -/
def caseIgnorable : RangeTable := .decode
    "1acf e 2 b 8d05 0 66d3 0 34 1 c64 0 1 2 1 0 272 0 5218 1 76ef 0 2 0 7 1 5 0 9 0"

/-- Those that extend the character before them. -/
def combining : RangeTable := .decode
    "1acf e 2 b f40e 1 c64 0 1 2 1 0 cb7c 0 2 0 7 1 5 0"

end Additions

/-- Alphabetic characters. -/
def isAlphabetic (c : Char) : Bool :=
  BinaryProperty.alphabetic.contains c || Additions.alphabetic.contains c

/-- Digits and other numbers. -/
def isNumeric (c : Char) : Bool :=
  GeneralCategory.decimalNumber.contains c || GeneralCategory.letterNumber.contains c ||
    GeneralCategory.otherNumber.contains c || Additions.numeric.contains c

/-- Characters with case. One letter of the former version has lost it. -/
def isCased (c : Char) : Bool :=
  c != '\u0295' && (BinaryProperty.cased.contains c || Additions.cased.contains c)

/-- Characters that case mapping passes over when it looks for the end of a word. -/
def isCaseIgnorable (c : Char) : Bool :=
  BinaryProperty.caseIgnorable.contains c || Additions.caseIgnorable.contains c

/-- The categories of characters that do not show: controls, separators and code points without a
character of their own. -/
def hiddenCategories : List GeneralCategory :=
  [.control, .format, .privateUse, .unassigned, .lineSeparator, .paragraphSeparator,
    .spaceSeparator]

/-- Whether a character does not show on its own: it is of a hidden category, or is drawn on the
character before it, or need not be drawn at all. The two half-width sound marks of kana extend the
character before them and show all the same. -/
def isHidden (c : Char) : Bool :=
  if Additions.characters.contains c then Additions.combining.contains c
  else hiddenCategories.any (·.contains c) ||
    BinaryProperty.defaultIgnorableCodePoint.contains c ||
    (BinaryProperty.graphemeExtend.contains c && c != '\uff9e' && c != '\uff9f')

end RequestRouter.Unicode
