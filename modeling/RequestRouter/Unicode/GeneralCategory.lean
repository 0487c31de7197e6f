import RequestRouter.Unicode.RangeTable

/-!
# General categories

Every code point has exactly one general category; the categories fall into seven classes by
their first letter. The tables are those of version 16 of the standard.

* `GeneralCategory.table`: the code points of a category.
* `GeneralCategory.ofName?`: the categories that a short or long name stands for.
-/

namespace RequestRouter.Unicode

/-- The general categories. -/
inductive GeneralCategory where
  | uppercaseLetter
  | lowercaseLetter
  | titlecaseLetter
  | modifierLetter
  | otherLetter
  | nonspacingMark
  | spacingMark
  | enclosingMark
  | decimalNumber
  | letterNumber
  | otherNumber
  | connectorPunctuation
  | dashPunctuation
  | openPunctuation
  | closePunctuation
  | initialPunctuation
  | finalPunctuation
  | otherPunctuation
  | mathSymbol
  | currencySymbol
  | modifierSymbol
  | otherSymbol
  | spaceSeparator
  | lineSeparator
  | paragraphSeparator
  | control
  | format
  | surrogate
  | privateUse
  | unassigned
deriving DecidableEq, Repr

namespace GeneralCategory

/-- The code points of a category. -/
def table : GeneralCategory → RangeTable
  | .uppercaseLetter => .decode
    "41 19 65 16 1 6 21 0 1 0 1 0 1 0 1 0 1 0 1 0 1 0 1 0 1 0 1 0 1 0 1 0 1 0 1 0 1 0 1 0 1 0 1 0
     1 0 1 0 1 0 1 0 1 0 1 0 1 0 1 0 1 0 2 0 1 0 1 0 1 0 1 0 1 0 1 0 1 0 2 0 1 0 1 0 1 0 1 0 1 0 1
     0 1 0 1 0 1 0 1 0 1 0 1 0 1 0 1 0 1 0 1 0 1 0 1 0 1 0 1 0 1 0 1 0 1 1 1 0 1 0 3 1 1 0 1 1 1 2
     2 3 1 1 1 2 3 1 1 1 1 0 1 0 1 1 1 0 2 0 1 1 1 2 1 0 1 1 3 0 7 0 2 0 2 0 2 0 1 0 1 0 1 0 1 0 1
     0 1 0 1 0 2 0 1 0 1 0 1 0 1 0 1 0 1 0 1 0 1 0 2 0 2 0 1 2 1 0 1 0 1 0 1 0 1 0 1 0 1 0 1 0 1 0
     1 0 1 0 1 0 1 0 1 0 1 0 1 0 1 0 1 0 1 0 1 0 1 0 1 0 1 0 1 0 1 0 1 0 1 0 1 0 1 0 7 1 1 1 2 0 1
     3 1 0 1 0 1 0 1 0 121 0 1 0 3 0 8 0 6 0 1 2 1 0 1 1 1 10 1 8 23 0 2 2 3 0 1 0 1 0 1 0 1 0 1 0
     1 0 1 0 1 0 1 0 1 0 1 0 5 0 2 0 1 1 2 32 30 0 1 0 1 0 1 0 1 0 1 0 1 0 1 0 1 0 1 0 1 0 1 0 1 0
     1 0 1 0 1 0 1 0 9 0 1 0 1 0 1 0 1 0 1 0 1 0 1 0 1 0 1 0 1 0 1 0 1 0 1 0 1 0 1 0 1 0 1 0 1 0 1
     0 1 0 1 0 1 0 1 0 1 0 1 0 1 0 1 1 1 0 1 0 1 0 1 0 1 0 1 0 2 0 1 0 1 0 1 0 1 0 1 0 1 0 1 0 1 0
     1 0 1 0 1 0 1 0 1 0 1 0 1 0 1 0 1 0 1 0 1 0 1 0 1 0 1 0 1 0 1 0 1 0 1 0 1 0 1 0 1 0 1 0 1 0 1
     0 1 0 1 0 1 0 1 0 1 0 1 0 1 0 1 0 1 0 1 0 1 0 1 0 1 0 1 0 1 0 2 25 b49 25 1 0 5 0 2d2 55 893
     0 6 2a 2 2 140 0 1 0 1 0 1 0 1 0 1 0 1 0 1 0 1 0 1 0 1 0 1 0 1 0 1 0 1 0 1 0 1 0 1 0 1 0 1 0
     1 0 1 0 1 0 1 0 1 0 1 0 1 0 1 0 1 0 1 0 1 0 1 0 1 0 1 0 1 0 1 0 1 0 1 0 1 0 1 0 1 0 1 0 1 0 1
     0 1 0 1 0 1 0 1 0 1 0 1 0 1 0 1 0 1 0 1 0 1 0 1 0 1 0 1 0 1 0 1 0 1 0 1 0 1 0 1 0 1 0 1 0 1 0
     1 0 1 0 1 0 1 0 1 0 1 0 1 0 1 0 9 0 1 0 1 0 1 0 1 0 1 0 1 0 1 0 1 0 1 0 1 0 1 0 1 0 1 0 1 0 1
     0 1 0 1 0 1 0 1 0 1 0 1 0 1 0 1 0 1 0 1 0 1 0 1 0 1 0 1 0 1 0 1 0 1 0 1 0 1 0 1 0 1 0 1 0 1 0
     1 0 1 0 1 0 1 0 1 0 1 0 1 0 1 0 1 0 1 0 9 7 8 5 a 7 8 7 8 5 b 0 1 0 1 0 1 0 8 7 48 3 c 3 c 3
     c 4 b 3 106 0 4 0 3 2 2 2 2 0 3 4 6 0 1 0 1 0 1 3 2 3 a 1 5 0 3d 0 a7c 2f 30 0 1 2 2 0 1 0 1
     0 1 3 1 0 2 0 8 2 1 0 1 0 1 0 1 0 1 0 1 0 1 0 1 0 1 0 1 0 1 0 1 0 1 0 1 0 1 0 1 0 1 0 1 0 1 0
     1 0 1 0 1 0 1 0 1 0 1 0 1 0 1 0 1 0 1 0 1 0 1 0 1 0 1 0 1 0 1 0 1 0 1 0 1 0 1 0 1 0 1 0 1 0 1
     0 1 0 1 0 1 0 1 0 1 0 1 0 8 0 1 0 4 0 794d 0 1 0 1 0 1 0 1 0 1 0 1 0 1 0 1 0 1 0 1 0 1 0 1 0
     1 0 1 0 1 0 1 0 1 0 1 0 1 0 1 0 1 0 1 0 13 0 1 0 1 0 1 0 1 0 1 0 1 0 1 0 1 0 1 0 1 0 1 0 1 0
     1 0 87 0 1 0 1 0 1 0 1 0 1 0 1 0 3 0 1 0 1 0 1 0 1 0 1 0 1 0 1 0 1 0 1 0 1 0 1 0 1 0 1 0 1 0
     1 0 1 0 1 0 1 0 1 0 1 0 1 0 1 0 1 0 1 0 1 0 1 0 1 0 1 0 1 0 1 0 a 0 1 0 1 1 1 0 1 0 1 0 1 0 4
     0 1 0 2 0 1 0 3 0 1 0 1 0 1 0 1 0 1 0 1 0 1 0 1 0 1 0 1 4 1 4 1 0 1 0 1 0 1 0 1 0 1 0 1 0 1 3
     1 0 1 1 3 0 5 0 1 0 1 0 1 0 18 0 572b 19 4c5 27 88 23 9c a 1 e 1 6 1 1 6ea 32 9d 15 b3a 1f
     5580 1f 65a0 19 1a 19 1a 19 1a 0 1 1 2 0 2 1 2 3 1 7 1a 19 1a 1 1 3 2 7 1 6 1b 1 1 3 1 4 1 0
     3 6 1b 19 1a 19 1a 19 1a 19 1a 19 1a 19 1e 18 21 18 21 18 21 18 21 18 21 0 1135 21"
  | .lowercaseLetter => .decode
    "61 19 3a 0 29 17 1 7 1 0 1 0 1 0 1 0 1 0 1 0 1 0 1 0 1 0 1 0 1 0 1 0 1 0 1 0 1 0 1 0 1 0 1 0
     1 0 1 0 1 0 1 0 1 0 1 0 1 0 1 0 1 0 1 1 1 0 1 0 1 0 1 0 1 0 1 0 1 0 1 1 1 0 1 0 1 0 1 0 1 0 1
     0 1 0 1 0 1 0 1 0 1 0 1 0 1 0 1 0 1 0 1 0 1 0 1 0 1 0 1 0 1 0 1 0 1 0 2 0 1 0 1 2 2 0 1 0 2 0
     3 1 4 0 2 0 3 2 2 0 2 0 1 0 1 0 2 0 1 1 1 0 2 0 3 0 1 0 2 1 2 2 6 0 2 0 2 0 1 0 1 0 1 0 1 0 1
     0 1 0 1 0 1 1 1 0 1 0 1 0 1 0 1 0 1 0 1 0 1 0 1 1 2 0 1 0 3 0 1 0 1 0 1 0 1 0 1 0 1 0 1 0 1 0
     1 0 1 0 1 0 1 0 1 0 1 0 1 0 1 0 1 0 1 0 1 0 1 0 1 0 1 0 1 0 1 0 1 0 1 0 1 0 1 0 1 6 2 0 2 1 1
     0 4 0 1 0 1 0 1 0 1 44 1 1a c1 0 1 0 3 0 3 2 12 0 1b 22 1 1 3 2 1 0 1 0 1 0 1 0 1 0 1 0 1 0 1
     0 1 0 1 0 1 0 1 4 1 0 2 0 2 1 33 2f 1 0 1 0 1 0 1 0 1 0 1 0 1 0 1 0 1 0 1 0 1 0 1 0 1 0 1 0 1
     0 1 0 1 0 9 0 1 0 1 0 1 0 1 0 1 0 1 0 1 0 1 0 1 0 1 0 1 0 1 0 1 0 1 0 1 0 1 0 1 0 1 0 1 0 1 0
     1 0 1 0 1 0 1 0 1 0 1 0 2 0 1 0 1 0 1 0 1 0 1 0 1 1 1 0 1 0 1 0 1 0 1 0 1 0 1 0 1 0 1 0 1 0 1
     0 1 0 1 0 1 0 1 0 1 0 1 0 1 0 1 0 1 0 1 0 1 0 1 0 1 0 1 0 1 0 1 0 1 0 1 0 1 0 1 0 1 0 1 0 1 0
     1 0 1 0 1 0 1 0 1 0 1 0 1 0 1 0 1 0 1 0 1 0 1 0 1 0 1 0 30 28 b47 2a 2 2 2f8 5 882 8 1 0 75
     2b 3f c 1 21 66 0 1 0 1 0 1 0 1 0 1 0 1 0 1 0 1 0 1 0 1 0 1 0 1 0 1 0 1 0 1 0 1 0 1 0 1 0 1 0
     1 0 1 0 1 0 1 0 1 0 1 0 1 0 1 0 1 0 1 0 1 0 1 0 1 0 1 0 1 0 1 0 1 0 1 0 1 0 1 0 1 0 1 0 1 0 1
     0 1 0 1 0 1 0 1 0 1 0 1 0 1 0 1 0 1 0 1 0 1 0 1 0 1 0 1 0 1 0 1 0 1 0 1 0 1 0 1 0 1 0 1 0 1 0
     1 0 1 0 1 0 1 0 1 0 1 0 1 0 1 8 1 0 1 0 1 0 1 0 1 0 1 0 1 0 1 0 1 0 1 0 1 0 1 0 1 0 1 0 1 0 1
     0 1 0 1 0 1 0 1 0 1 0 1 0 1 0 1 0 1 0 1 0 1 0 1 0 1 0 1 0 1 0 1 0 1 0 1 0 1 0 1 0 1 0 1 0 1 0
     1 0 1 0 1 0 1 0 1 0 1 0 1 0 1 0 1 0 1 8 8 5 a 7 8 7 8 5 a 7 8 7 8 d 2 7 8 7 8 7 8 4 1 1 6 0 3
     2 1 1 8 3 2 1 8 7 a 2 1 1 112 0 3 1 3 0 1b 0 4 0 4 0 2 1 8 3 4 0 35 0 aab 2f 1 0 3 1 1 0 1 0
     1 0 4 0 1 1 1 5 5 0 1 0 1 0 1 0 1 0 1 0 1 0 1 0 1 0 1 0 1 0 1 0 1 0 1 0 1 0 1 0 1 0 1 0 1 0 1
     0 1 0 1 0 1 0 1 0 1 0 1 0 1 0 1 0 1 0 1 0 1 0 1 0 1 0 1 0 1 0 1 0 1 0 1 0 1 0 1 0 1 0 1 0 1 0
     1 0 1 0 1 0 1 0 1 0 1 0 1 1 7 0 1 0 4 0 c 25 1 0 5 0 7913 0 1 0 1 0 1 0 1 0 1 0 1 0 1 0 1 0 1
     0 1 0 1 0 1 0 1 0 1 0 1 0 1 0 1 0 1 0 1 0 1 0 1 0 1 0 13 0 1 0 1 0 1 0 1 0 1 0 1 0 1 0 1 0 1
     0 1 0 1 0 1 0 1 0 87 0 1 0 1 0 1 0 1 0 1 0 1 2 1 0 1 0 1 0 1 0 1 0 1 0 1 0 1 0 1 0 1 0 1 0 1
     0 1 0 1 0 1 0 1 0 1 0 1 0 1 0 1 0 1 0 1 0 1 0 1 0 1 0 1 0 1 0 1 0 1 0 1 0 1 0 1 7 1 0 1 0 2 0
     1 0 1 0 1 0 1 0 4 0 1 0 2 0 1 2 1 0 1 0 1 0 1 0 1 0 1 0 1 0 1 0 1 0 1 0 5 0 5 0 1 0 1 0 1 0 1
     0 1 0 1 0 1 0 4 0 1 0 2 0 3 0 1 0 1 0 1 0 1 0 1 0 1a 0 3 0 335 2a 5 8 7 4f 4f40 6 c 4 429 19
     4cd 27 88 23 9b a 1 e 1 6 1 1 703 32 7d 15 b3a 1f 5580 1f 659a 19 1a 6 1 11 1a 19 1a 3 1 0 1
     6 1 a 1a 19 1a 19 1a 19 1a 19 1a 19 1a 19 1a 19 1a 19 1a 1b 1c 18 1 5 1a 18 1 5 1a 18 1 5 1a
     18 1 5 1a 18 1 5 1 0 734 9 1 13 6 5 9f7 21"
  | .titlecaseLetter => .decode
    "1c5 0 2 0 2 0 26 0 1d95 7 8 7 8 7 c 0 f 0 2f 0"
  | .modifierLetter => .decode
    "2b0 11 4 b e 4 7 0 1 0 85 0 5 0 1de 0 e6 0 a4 1 10d 1 4 0 1f 0 9 0 3 0 a0 0 a7 0 4d4 0 7f 0
     235 0 6da 0 6b 0 263 0 1d0 5 ae 3e d 0 22 24 2b1 0 d 0 10 c bdf 1 f1 0 bf 0 1d5 0 2b 4 5 0 61
     1 5d 2 6f16 0 4e2 5 10e 0 72 0 1c 1 79 8 50 0 17 0 69 2 3 1 1d5 0 16 0 89 0 6c 0 15 1 67 3 9
     0 5406 0 2d 1 7e0 5 1 29 1 8 593 0 20 0 5dd0 3 1fc 2 28 1 226 c 40 1 1 0 400c 3 1 6 1 1 3031
     3d c9 6 3ad 0 45f 0"
  | .otherLetter => .decode
    "aa 0 f 0 100 0 4 3 d0 0 33b 1a 4 3 2d 1f 1 9 23 1 1 62 1 0 18 1 a 2 2 0 10 0 1 1d 1d 58 b 0
     18 20 15 15 2a 18 7 a 5 17 1 5 11 28 3b 35 3 0 12 0 7 9 10 e 4 7 2 1 2 15 1 6 1 0 3 3 3 0 10
     0 d 1 1 2 e 1 a 0 8 5 4 1 2 15 1 6 1 1 1 1 1 1 1f 3 1 0 13 2 10 8 1 2 1 15 1 6 1 1 1 4 3 0 12
     0 f 1 17 0 b 7 2 1 2 15 1 6 1 1 1 4 3 0 1e 1 1 2 f 0 11 0 1 5 3 2 1 3 3 1 1 0 1 1 3 1 3 2 3 b
     16 0 34 7 1 2 1 16 1 f 3 0 1a 2 2 0 2 1 1e 0 4 7 1 2 1 16 1 9 1 4 3 0 1f 1 1 1 f 1 11 8 1 2 1
     28 2 0 10 0 5 2 8 2 18 5 5 11 3 17 1 8 1 0 2 6 3a 2f 1 1 c 5 3b 1 1 0 1 4 1 17 1 0 1 9 1 1 9
     0 2 4 17 3 20 0 3f 7 1 23 1b 4 73 2a 14 0 10 5 4 3 3 0 3 1 7 2 4 c c 0 71 148 1 3 2 6 1 0 1 3
     2 28 1 3 2 20 1 3 2 6 1 0 1 3 2 e 1 38 1 3 2 42 25 f 71 26b 2 10 1 19 5 4a 6 7 7 11 d 12 e 11
     e c 1 2 f 33 28 0 43 22 1 34 7 4 2 21 1 0 5 45 a 1e 31 1d 2 4 b 2b 4 19 36 16 9 34 b0 2e 11 7
     36 1d d 1 a 2b 1a 23 29 2 a 1d 71 3 1 5 1 1 3 0 43a 3 bf7 37 18 16 9 6 1 6 1 6 1 6 1 6 1 6 1
     6 1 6 227 0 35 0 4 55 8 0 1 59 4 0 5 2a 1 5d 11 1f 30 f 200 19bf 40 5214 1 476 43 27 8 10b 4
     f a 1 42 0 31 45 a9 0 67 0 3 6 1 2 1 3 1 16 1d 33 e 31 3e 5 3 0 1 1 b 1b a 16 19 1c 7 2e 2d 4
     2 8 a 4 1 28 17 2 1 7 14 f 1 5 3 0 3 31 1 0 3 1 2 4 2 0 1 0 18 1 3 a 7 0 e 5 2 5 2 5 9 6 1 6
     91 22 1d 2ba3 c 16 4 30 2104 16d 2 69 43 0 1 9 1 c 1 4 1 0 1 1 1 1 1 6b 21 16a 12 3f 2 35 28
     b 74 4 1 86 69 9 1 2c 2 1e 3 5 2 5 2 5 2 2 23 b 1 19 1 12 1 1 1 e 2 d 22 7a 185 1c 3 30 2f 1f
     d 13 1 7 6 25 a 1d 2 23 4 7 80 4d 62 27 8 33 5c 33 c 136 9 15 a 7 98 5 2 0 1 2b 1 1 3 0 2 16
     a 16 9 1e 41 12 1 1 a 15 a 19 46 37 6 1 40 0 f 3 1 2 1 1c 2a 1c 3 1c 23 7 1 1b 1b 35 a 15 a
     12 d 11 6e 48 b7 23 26 3 1 0 130 29 6 1 10 2 3b 1c a 0 8 15 2a 11 2e 14 1b 16 c 34 39 1 2 0 d
     2c 20 18 1a 23 1d 0 2 0 8 22 3 0 c 2f e 3 15 0 1 0 23 11 1 18 13 1 3f 6 1 0 1 3 1 e 1 9 7 2e
     26 7 2 1 2 15 1 6 1 1 1 4 3 0 12 0 c 4 1e 9 1 0 2 0 1 25 1 0 19 0 1 0 2c 34 12 3 14 2 1e 2f
     14 1 1 0 b8 2e 29 3 24 2f 14 0 3b 2a d 0 47 1a 25 6 b9 2b d3 7 2 0 2 7 1 1 1 17 f 0 1 0 5e 7
     2 26 10 0 1 0 1c 0 a 27 7 0 15 0 b 2d 13 0 12 48 c7 20 1f 8 1 24 11 0 31 1d 70 6 1 1 1 25 15
     0 19 5 1 1 1 1f e 0 147 12 f 0 1 c 1 21 7c 0 4f 399 e6 c3 a4c 60 f 42f 11 5 19 f9a 5 246 1ab9
     1d 6e2 238 7 1e 11 4e 11 1d 12 2f 33 14 5 12 1b3 27 195 4a 5 0 af 17f7 8 4d5 29 9 22f7 122 f
     0 1d 2 2 0 e 3 8 18b 904 6a 5 c 3 8 7 9 2270 0 1f5 2c 21 0 141 1d 12 2b 1e4 1a e5 1d 2 0 1ef
     6 1 3 1 1 1 e 1 c4 53b 3 1 1a 1 1 1 0 2 0 1 9 1 3 1 0 1 0 6 0 4 0 1 0 1 0 1 2 1 1 1 0 2 0 1 0
     1 0 1 0 1 0 1 1 1 0 2 3 1 6 1 3 1 3 1 0 1 9 1 10 5 2 1 4 1 10 1144 a6df 20 1039 6 dd 2 1681 e
     1d30 f 26d 9a2 21d 5e2 134a 5 105f"
  | .nonspacingMark => .decode
    "300 6f 113 4 109 2c 1 0 1 1 1 1 1 0 48 a 30 14 10 0 65 6 2 5 2 1 1 3 23 0 1e 1a 5b a 3a 8 9 0
     18 3 1 8 1 2 1 4 2b 2 3b 8 2a 17 1 1f 37 0 1 0 4 7 4 0 3 6 a 1 1d 0 3a 0 4 3 8 0 14 1 1a 0 2
     1 39 0 4 1 4 1 2 2 3 0 1e 1 3 0 b 1 39 0 4 4 1 1 4 0 14 1 16 5 1 0 3a 0 2 0 1 3 8 0 7 1 b 1
     1e 0 3d 0 c 0 32 0 3 0 37 0 1 2 5 2 1 3 7 1 b 1 1d 0 3a 0 2 0 6 0 5 1 14 1 1c 1 39 1 4 3 8 0
     14 1 1d 0 48 0 7 2 1 0 5a 0 2 6 c 7 62 0 2 8 b 6 49 1 1b 0 1 0 1 0 37 d 1 4 1 1 5 a 1 23 9 0
     66 3 1 5 1 1 2 1 19 1 4 2 10 3 d 0 2 1 6 0 f 0 2bf 2 3b2 2 1d 1 1e 1 1e 1 40 1 1 6 8 0 2 a 9
     0 2d 2 1 0 75 1 22 0 76 2 4 1 9 0 6 2 db 1 2 0 3a 0 1 6 1 0 1 0 2 7 6 9 2 0 30 d 1 f 31 3 30
     0 1 4 1 0 5 0 28 8 c 1 20 3 2 1 1 2 38 0 1 1 3 0 1 2 3a 7 2 1 98 2 1 c 1 6 4 0 6 0 3 1 c6 3f
     2d0 c 4 0 3 b bfe 2 8d 0 60 1f 22a 3 6b 1 75d4 0 4 9 20 1 50 1 110 0 3 0 4 0 19 1 5 0 97 1 1a
     11 d 0 26 7 19 a 2e 2 30 0 2 3 2 1 27 0 43 5 2 1 2 1 c 0 8 0 2f 0 33 0 1 2 2 1 5 1 1 0 2a 1 8
     0 ee 0 2 0 4 0 4f30 0 2e1 f 10 f 3cd 0 e2 0 95 4 686 2 1 1 5 3 28 2 4 0 a5 1 23d 3 41 4 13d 1
     4f 3 46 a 31 3 7b 0 36 e 29 0 2 1 a 2 31 3 2 1 7 0 3d 2 24 4 1 7 3e 0 c 1 34 8 a 3 2 0 5f 2 2
     0 1 1 6 0 2 0 9d 0 3 7 15 1 39 1 3 0 25 6 3 4 46 5 d 0 1 0 1 0 e 1 55 7 2 2 1 0 17 0 54 5 1 0
     4 1 1 1 ee 3 6 1 1 1 1b 1 55 7 2 0 1 1 6a 0 1 0 2 5 1 0 65 0 1 0 2 3 1 4 103 8 1 1 100 1 1 0
     4 0 90 3 2 1 4 0 20 9 28 5 2 3 8 0 9 5 2 2 2e c 1 1 196 6 1 5 1 0 52 15 2 6 1 1 1 1 7a 5 3 0
     1 1 1 6 1 0 48 1 3 0 1 0 15b 1 b 1 34 4 5 0 1 0 17 0 14e5 0 6 e 2cc8 b 3 2 9c0 4 3b 6 418 0
     3f 3 51 0 4cb8 1 1261 2d 2 16 220 2 11 7 2 6 1e 3 94 2 7bb 36 4 31 8 0 e 0 16 4 1 e 550 6 1
     10 2 6 1 1 1 4 64 0 a0 6 177 0 3d 3 1fc 3 fe 1 2e0 6 6d 6 c17b5 ef"
  | .spacingMark => .decode
    "903 0 37 0 2 2 8 3 1 1 32 1 3a 2 6 1 2 1 a 0 2b 0 3a 2 42 0 3a 2 8 0 1 1 35 1 3a 0 1 0 6 1 2
     1 a 0 66 1 1 1 3 2 1 2 a 0 29 2 3d 3 3d 1 3a 0 1 4 2 1 1 1 9 1 1c 0 e 1 3a 2 5 2 1 2 a 0 2a 1
     4b 2 6 7 12 1 14a 1 3f 0 ab 1 4 0 6 0 2 1 19 1 a 2 2 6 15 1 2 5 2 0 a 2 678 0 1e 0 81 0 7 7 1
     1 15a 3 2 2 4 1 1 5 e0 1 3a 0 1 0 9 0 1 1 8 5 91 0 30 0 5 0 1 4 1 1 3d 0 1e 0 4 1 2 0 3c 0 2
     2 1 0 3 1 30 7 8 1 ab 0 15 0 1336 1 77f3 1 2 0 58 1 32 f 8e 1 2f 0 30 1 4 1 2 2 6e 1 2 1 18 0
     2d 0 1 0 6d 0 2 1 5 0 ed 1 1 1 1 1 1 0 6413 0 1 0 7f 0 2d 2 4 1 73 0 18 1 3b 0 30 2 9 1 d 0
     5d 2 3 1 1 0 aa 2 1f 1 3a 1 1 3 2 1 2 2 9 0 a 1 54 2 7 0 2 0 1 3 1 1 1 0 65 2 8 1 3 0 6a 2 6
     0 1 3 2 0 ed 2 6 3 2 0 71 2 8 1 1 0 6d 0 1 1 6 0 67 0 1 1 4 0 105 2 9 0 f7 5 1 1 4 0 2 0 1 0
     8e 2 8 3 4 0 54 0 1d 1 3e 0 197 0 e 0 6a 0 7 0 2 0 d5 4 4 1 1 0 15e 1 c 0 30 1 8 1 1 0 41e8 2
     e24 36 68 1 6173 1 6 5"
  | .enclosingMark => .decode
    "488 1 1634 0 61e 3 1 2 858b 2"
  | .decimalNumber => .decode
    "30 9 626 9 86 9 c6 9 19c 9 76 9 76 9 76 9 76 9 76 9 76 9 76 9 76 9 76 9 60 9 76 9 46 9 116 9
     46 9 746 9 26 9 12c 9 80 9 a6 9 6 9 b6 9 56 9 86 9 6 9 89c6 9 2a6 9 26 9 c6 9 16 9 56 9 196 9
     5316 9 586 9 886 9 6 9 31c 9 80 9 3c 9 90 9 116 9 156 9 76 9 176 9 66 9 6 13 4c 9 1a6 9 66 9
     296 9 56 9 f6 9 46 9 1a6 9 41d6 9 926 9 56 9 86 9 216 9 5f76 9 ad4 31 940 9 1a6 9 1f6 9 f7 9
     355 9 1296 9"
  | .letterNumber => .decode
    "16ee 2 a6f 22 2 3 e7e 0 19 8 e 2 76ab 9 5a50 34 1cc 0 8 0 86 4 202a 6e"
  | .otherNumber => .decode
    "b2 1 5 0 2 2 935 5 178 5 78 2 85 6 d9 6 11 8 1b1 9 435 13 473 9 1e0 0 695 0 3 5 6 9 c6 f 29 0
     2d6 3b 4e 15 276 1d 569 0 494 3 8a 9 1e 7 1 e 20 9 27 e 7570 5 58d1 2c 41 3 11 1 155 1a 24 3
     534 7 19 6 27 8 4b 4 16 5 a0 1 2 f 2 2d 40 8 34 1 1e 2 4b 4 68 7 18 7 29 6 14a 5 160 1e 9e 9
     2a 3 70 6 86 13 17b 13 545 1 1ae 8 367 12 353 14 4b86 6 31e 16 6429 13 c 13 6c 18 154e 8 3a1
     3a 1 2 1 3 4c 2c 1 e 3c2 c"
  | .connectorPunctuation => .decode
    "5f 0 1fdf 1 13 0 ddde 1 18 2 ef 0"
  | .dashPunctuation => .decode
    "2d 0 55c 0 33 0 e41 0 405 0 809 5 e01 0 2 0 1f 1 4 0 1c 0 1be 0 13 0 6f 0 cd90 1 25 0 a 0 a9
     0 e60 0 13e 0"
  | .openPunctuation => .decode
    "28 0 32 0 1f 0 ebe 0 1 0 75e 0 97e 0 3 0 26 0 37 0 f 0 27a 0 1 0 1e 0 43e 0 1 0 1 0 1 0 1 0 1
     0 1 0 50 0 20 0 1 0 1 0 1 0 1 0 194 0 1 0 1 0 1 0 1 0 1 0 1 0 1 0 1 0 1 0 1 0 40 0 1 0 21 0
     425 0 1 0 1 0 1 0 19 0 12 0 1 0 1 0 1 0 1ac 0 1 0 1 0 1 0 1 0 3 0 1 0 1 0 1 0 2 0 cd21 0 d7 0
     1d 0 1 0 1 0 1 0 1 0 1 0 1 0 1 0 3 0 11 0 1 0 1 0 aa 0 32 0 1f 0 3 0 2 0"
  | .closePunctuation => .decode
    "29 0 33 0 1f 0 ebd 0 1 0 75e 0 9a9 0 37 0 f 0 27a 0 1 0 1e 0 43e 0 1 0 1 0 1 0 1 0 1 0 1 0 50
     0 20 0 1 0 1 0 1 0 1 0 194 0 1 0 1 0 1 0 1 0 1 0 1 0 1 0 1 0 1 0 1 0 40 0 1 0 21 0 425 0 1 0
     1 0 1 0 2c 0 1 0 1 0 1 0 1ac 0 1 0 1 0 1 0 1 0 3 0 1 0 1 0 1 0 2 1 cd1e 0 d9 0 1d 0 1 0 1 0 1
     0 1 0 1 0 1 0 1 0 3 0 11 0 1 0 1 0 aa 0 33 0 1f 0 2 0 2 0"
  | .initialPunctuation => .decode
    "ab 0 1f6c 0 2 1 2 0 19 0 dc8 0 1 0 4 0 2 0 f 0 3 0"
  | .finalPunctuation => .decode
    "bb 0 1f5d 0 3 0 1c 0 dc8 0 1 0 4 0 2 0 f 0 3 0"
  | .otherPunctuation => .decode
    "21 2 1 2 2 0 1 0 1 1 a 1 3 1 1b 0 44 0 5 0 e 1 7 0 2be 0 8 0 1d2 5 29 0 36 0 2 0 2 0 2c 1 14
     1 1 1 d 0 1 2 4a 3 66 0 2b d e9 2 36 e 1f 0 105 1 a 0 8c 0 78 0 79 0 186 0 c 0 16f 0 5a 0 a 1
     a8 e 1 0 70 0 4a 4 4 1 6f 5 ab 0 264 8 305 0 7c 2 47 1 9d 2 1 2 25 5 1 3 139 1 d8 1 80 6 1 5
     a0 1 a 6 1c 2 7c 3 3b 4 3e 1 40 7 b 0 342 1 8 7 8 8 2 3 2 2 3 a 1 0 1 9 c9a 3 1 1 70 0 8f 1 4
     2 2 0 2 8 1 1 1 0 2 1 a 4 1 9 2 3 1 0 1 c 2 2 1ac 2 39 0 bd 0 7402 1 10d 2 63 0 a 0 73 5 17c
     3 56 1 28 2 1 0 31 1 2f 0 61 c 10 1 7c 3 7e 1 10 1 f9 0 5224 6 2 0 16 0 14 1 2 3 3 2 1 3 7 2
     6 0 1 1 95 2 1 2 2 0 1 0 1 1 a 1 3 1 1b 0 24 0 2 1 19a 2 29c 0 30 0 19e 0 2e7 0 c7 0 1f 0 110
     8 26 0 70 6 42 6 59 3 3b8 4 2c 3 bd 6 6d 1 1 3 7e 3 30 1 4f 3 4 0 d 0 1 2 58 5 6b 0 12a 1 1 1
     72 4 a 1 1 0 68 0 fa 16 69 2 1c c 4c 0 82 2 fc 0 108 2 9b 0 5c 7 53 2 1 4 5d 9 d7 0 5f 4 2a 1
     285 1 4a c af 0 470 4 b7c 1 3a7b 1 85 0 41 4 8 0 228 2 127 3 147 0 4cbc 0 1de7 4 b73 0 35e 1"
  | .mathSymbol => .decode
    "2b 0 10 2 3d 0 1 0 2d 0 4 0 25 0 1f 0 2fe 0 20f 2 1a3b 0 d 0 27 2 d 2 8b 0 27 4 6 0 44 4 5 1
     4 0 2 0 2 0 7 0 1f 1 2 0 1 0 1f 10b 20 1 5a 0 1e 18 28 5 1d5 0 9 0 36 7 6f 0 150 4 2 1e a f
     100 82 16 3e 4 1f 2 101 30 14 2 5 cfdc 0 338 0 1 2 a4 0 10 2 3d 0 1 0 83 0 6 3 da1 1 c931 0
     19 0 1f 0 19 0 1f 0 19 0 1f 0 19 0 1f 0 19 0 172c 1"
  | .currencySymbol => .decode
    "24 0 7d 3 4e9 0 7b 0 1f2 1 1f2 1 7 0 f5 0 107 0 245 0 99b 0 8c4 20 8777 0 55c3 0 6c 0 9a 0 db
     1 3 1 1ff6 3 c31e 0 9b0 0"
  | .modifierSymbol => .decode
    "5e 0 1 0 47 0 6 0 4 0 3 0 209 3 c d 5 6 1 0 1 10 75 0 e 1 502 0 1734 0 1 2 b 2 d 2 d 2 d 1
     109c 1 7663 16 9 1 67 1 3d0 0 e 1 5046 10 37b 0 1 0 a2 0 f417 4"
  | .otherSymbol => .decode
    "a6 0 2 0 4 0 1 0 3d1 0 10a 1 7f 1 ce 0 a 0 13 1 f7 0 203 0 175 0 82 5 1 0 84 0 cf 0 29 0 187
     2 f 0 1 2 2 5 14 0 1 0 1 0 85 7 1 5 1 1 5 3 c5 1 2f0 9 2d3 0 2d2 0 9d 21 161 9 9 8 583 1 1 3
     1 1 a 0 1 1 6 5 1 0 1 0 1 0 4 0 b 1 e 0 1 1 1 0 3a 1 9 4 2 3 1 1 1 1 1 6 1 1e 2 1 1 0 1 1e
     10c 7 4 13 2 6 2 50 1 1d 19 27 6 47 16 a 51 4d 16 b6 1 8 1 35 8 6e 1 f7 2c 2b 40 ff 200 2f 15
     1 6 26 2 1f 1 68 e5 5 165 1 2e 19 1 58 c d5 1a f 4 0 d 1 c 0 15 1 6 1 150 1 4 9 20 25 9 0 10
     1e b 1d 8 0 f 1f a 26 f 13f 19c0 3f 5690 36 361 3 a 1 1 0 23d 2 52c6 f 7f 0 2d 2 1e4 0 3 0 4
     1 d 1 139 8 39 10 2 2 1 c 3 0 2f 2c 67a 1 24f 0 c76 0 895 7 4 10 4b4a 3 5 0 5156 0 f63 ef 10
     1b3 9c 73 3c f5 a 26 2 3b 5 2 16 1 7 1d 4 3c 15 41 3 0 ba 56 4a9 1ff 37 3 32 7 1 d 1 1 6c8 0
     b5c 0 81 0 2d1 2b 4 63 c e 2 e 1 e 1 24 17 a0 38 1c d 2b 4 8 7 1 e 5 9a fa 5 2d7 4 10 3 c 3
     76 4 5e 6 b 4 0 f b 4 37 8 9 6 27 8 1d 2 b 4 1 3e 153 c d 2 c 3 9 5 37 7 e 2 a 6 8 7 92 1 5b"
  | .spaceSeparator => .decode
    "20 0 7f 0 15df 0 97f a 24 0 2f 0 fa0 0"
  | .lineSeparator => .decode
    "2028 0"
  | .paragraphSeparator => .decode
    "2029 0"
  | .control => .decode
    "0 1f 5f 20"
  | .format => .decode
    "ad 0 552 5 16 0 c0 0 31 0 180 1 50 0 f2b 0 7fc 4 1a 4 31 4 1 9 de8f 0 f9 2 10c1 0 f 0 2362 f
     8860 3 14cf 7 c2e86 0 1e 5f"
  | .surrogate => .decode
    "d800 7ff"
  | .privateUse => .decode
    "e000 18ff e0700 fffd 2 fffd"
  | .unassigned => .decode
    "378 1 6 3 7 0 1 0 14 0 18d 0 26 1 32 1 3 0 37 7 1b 3 6 a 10e 0 3c 1 65 d 3b 1 31 1 f 0 1c 1 1
     0 b 4 1f 0 2 4 ed 0 8 1 2 1 16 0 7 0 1 2 4 1 9 1 2 1 4 7 1 3 2 0 5 1 19 1 3 0 6 3 2 1 16 0 7
     0 2 0 2 0 2 1 1 0 5 3 2 1 3 2 1 6 4 0 1 6 11 9 3 0 9 0 3 0 16 0 7 0 2 0 5 1 a 0 3 0 3 1 1 e 4
     1 c 6 7 0 3 0 8 1 2 1 16 0 7 0 2 0 5 1 9 1 2 1 3 6 3 3 2 0 5 1 12 9 2 0 6 2 3 0 4 2 2 0 1 0 2
     2 2 2 3 2 c 3 5 2 3 0 4 1 1 5 1 d 15 4 d 0 3 0 17 0 10 1 9 0 3 0 4 6 2 0 3 1 1 1 4 1 a 6 16 0
     3 0 17 0 a 0 5 1 9 0 3 0 4 6 2 5 2 0 4 1 a 0 3 b d 0 3 0 33 0 3 0 6 3 10 1 1a 0 3 0 12 2 18 0
     9 0 1 1 7 2 1 3 6 0 1 0 8 5 a 1 3 b 3a 3 1d 24 2 0 1 0 5 0 18 0 1 0 17 1 5 0 1 0 7 0 a 1 4 1f
     48 0 24 3 27 0 24 0 f 0 d 24 c6 0 1 4 1 1 179 0 4 1 7 0 1 0 4 1 29 0 4 1 21 0 4 1 7 0 1 0 4 1
     f 0 39 0 4 1 43 1 20 2 1a 5 56 1 6 1 29d 2 59 6 16 8 18 8 14 b d 0 3 0 2 b 5e 1 a 5 a 5 1a 5
     59 6 2b 4 46 9 1f 0 c 3 c 3 1 2 2a 1 5 a 2c 3 1a 5 b 2 3e 1 41 0 1d 1 b 5 a 5 e 1 1f 30 4d 0
     a6 7 3c 2 f 2 3e 4 2b 1 b 7 2b 4 216 1 6 1 26 1 6 1 8 0 1 0 1 0 1 0 1f 1 35 0 f 0 e 1 6 0 13
     1 3 0 9 0 65 0 c 1 1b 0 d 2 21 e 21 e 8c 3 29a 15 b 14 714 1 20 0 15d 4 2d 0 1 4 1 1 38 6 2 d
     18 8 7 0 7 0 7 0 7 0 7 0 7 0 7 0 7 0 7e 21 1a 0 59 b d6 19 50 0 56 1 67 4 2b 0 5e 0 56 8 30 0
     726d 2 37 8 15c 13 b8 7 ce 1 2 0 1 0 8 14 3b 2 a 5 38 7 46 7 c 5 74 a 1e 2 4e 0 b 3 21 0 37 8
     e 1 a 1 67 17 1c 9 6 1 6 1 6 8 7 0 7 0 3c 3 7e 1 a 5 2ba4 b 17 3 31 3 226e 1 6a 25 7 b 5 4 1a
     0 5 0 1 0 2 0 2 0 7d f 1bd 1 36 6 1 1f 2a 5 33 0 13 0 4 3 5 0 87 1 1 0 be 2 6 1 6 1 6 1 3 2 7
     0 7 9 5 1 c 0 1a 0 13 0 2 0 f 1 e 21 7b 4 3 3 2d 2 58 0 d 2 1 2e 2e 81 1d 2 31 e 1c 3 24 8 1e
     4 2b 4 1e 0 25 3 e 29 9e 1 a 5 24 3 24 3 28 7 34 a c 0 f 0 7 0 2 0 b 0 f 0 7 0 2 2 34 b 137 8
     16 9 8 17 6 0 2a 0 9 44 6 1 1 0 2c 0 2 2 1 1 17 0 48 7 9 2f 13 0 2 4 21 2 1b 4 1 3f 38 3 14 1
     32 0 2 4 8 0 3 0 1d 1 3 3 a 6 9 6 40 1f 27 3 c 8 36 2 1d 1 1b 4 1a 6 4 b 7 4f 49 36 33 c 33 6
     2e 7 a 5 26 2 1d 7 2 cf 1f 0 2a 0 3 1 2 f 3 36 2c 7 2a 15 1a 25 1c 13 17 8 4e 3 24 8 44 9 1 1
     19 6 a 5 35 0 12 7 27 8 60 0 14 a 12 0 2f 3d 7 0 1 0 4 0 f 0 b 5 3b 4 a 5 4 0 8 1 2 1 16 0 7
     0 2 0 5 0 a 1 2 1 3 1 1 5 1 4 7 1 7 2 5 a a 0 1 1 1 0 26 0 a 0 1 1 1 0 4 0 a 0 2 7 2 1c 5c 0
     5 1d 48 7 a a5 36 1 26 21 45 a a 5 d 12 3a 5 a 5 14 1b 1b 1 f 3 17 b8 3c 63 53 b 8 1 1 1 8 0
     2 0 1e 0 2 1 c 8 a 45 8 1 2e 1 b 1a 48 7 53 c 49 6 a b5 22 d a 5 9 0 2d 0 e 9 1d 2 20 1 16 0
     e 48 7 0 2 0 2c 2 1 0 2 0 9 7 a 5 6 0 2 0 25 0 2 0 6 6 a 135 19 6 11 0 29 2 1d 54 1 e 32 c
     39b 65 6f 0 5 a c4 a4b 63 c 456 9 f9b 4 247 1ab8 3a 6c5 239 6 1f 0 a 3 51 0 a 5 1e 1 6 9 46 9
     a 0 7 0 15 4 13 1af 3a c5 5b 64 4b 3 39 6 11 3f 5 a 2 d 17f8 7 4d6 28 a 22e6 4 0 7 0 2 0 123
     e 1 1c 3 1 1 d 4 7 18c 903 6b 4 d 2 9 6 a 1 8 f5b fa 5 1b4 4b 2e 1 17 8 74 3b f6 9 27 1 c2 14
     46 79 14 b 14 b 57 8 19 86 55 0 47 0 2 1 1 1 2 1 4 0 c 0 1 0 7 0 41 0 4 1 8 0 7 0 1c 0 4 0 5
     0 1 2 7 0 154 1 124 1 2be e 5 0 f 44f 1f 5 6 d4 7 0 11 1 7 0 2 0 5 4 3e 20 1 6f 2d 2 e 1 a 3
     2 13f 1f 10 3a 4 1 1cf 2a d5 2b 3 1 1df 7 0 4 0 2 0 f 0 c5 1 10 28 4c 3 a 3 2 310 44 4b 3d c1
     4 0 1b 0 2 0 1 1 1 0 a 0 4 0 1 0 1 5 1 3 1 0 1 0 1 0 3 0 2 0 1 1 1 0 1 0 1 0 1 0 1 0 2 0 1 1
     4 0 7 0 4 0 4 0 1 0 a 0 11 4 3 0 5 0 11 33 2 10d 2c 3 64 b f 1 f 0 f 0 25 9 ae 37 1d c 2c 3 9
     6 2 d 6 99 3d8 3 11 2 d 2 77 3 5f 5 c 3 1 e c 3 38 7 a 5 28 7 1e 1 c 3 2 3d 154 b e 1 d 2 a 4
     38 6 f 1 b 5 9 6 93 0 66 405 a6e0 1f 103a 5 de 1 1682 d 1d31 e 26e 9a1 21e 5e1 134b 4 1060
     adc50 1 1d 60 7f f0 fe0f fffe 1 fffe 1"

/-- Membership of a character in a category. -/
def contains (category : GeneralCategory) (c : Char) : Bool :=
  category.table.contains c

/-- The names of categories and of groups of them, with the categories meant. Names are in lower
case, without the separators that a lookup ignores. Surrogates are no characters, so their category
has no name of its own. -/
def named : List (List String × List GeneralCategory) :=
  [
   (["lu", "uppercaseletter"], [.uppercaseLetter]),
   (["ll", "lowercaseletter"], [.lowercaseLetter]),
   (["lt", "titlecaseletter"], [.titlecaseLetter]),
   (["lm", "modifierletter"], [.modifierLetter]),
   (["lo", "otherletter"], [.otherLetter]),
   (["mn", "nonspacingmark"], [.nonspacingMark]),
   (["mc", "spacingmark"], [.spacingMark]),
   (["me", "enclosingmark"], [.enclosingMark]),
   (["nd", "digit", "decimalnumber"], [.decimalNumber]),
   (["nl", "letternumber"], [.letterNumber]),
   (["no", "othernumber"], [.otherNumber]),
   (["pc", "connectorpunctuation"], [.connectorPunctuation]),
   (["pd", "dashpunctuation"], [.dashPunctuation]),
   (["ps", "openpunctuation"], [.openPunctuation]),
   (["pe", "closepunctuation"], [.closePunctuation]),
   (["pi", "initialpunctuation"], [.initialPunctuation]),
   (["pf", "finalpunctuation"], [.finalPunctuation]),
   (["po", "otherpunctuation"], [.otherPunctuation]),
   (["sm", "mathsymbol"], [.mathSymbol]),
   (["sc", "currencysymbol"], [.currencySymbol]),
   (["sk", "modifiersymbol"], [.modifierSymbol]),
   (["so", "othersymbol"], [.otherSymbol]),
   (["zs", "spaceseparator"], [.spaceSeparator]),
   (["zl", "lineseparator"], [.lineSeparator]),
   (["zp", "paragraphseparator"], [.paragraphSeparator]),
   (["cc", "cntrl", "control"], [.control]),
   (["cf", "format"], [.format]),
   (["co", "privateuse"], [.privateUse]),
   (["cn", "unassigned"], [.unassigned]),
   (["lc", "casedletter"],
    [.uppercaseLetter, .lowercaseLetter, .titlecaseLetter]),
   (["l", "letter"],
    [.uppercaseLetter, .lowercaseLetter, .titlecaseLetter,
     .modifierLetter, .otherLetter]),
   (["m", "mark", "combiningmark"],
    [.nonspacingMark, .spacingMark, .enclosingMark]),
   (["n", "number"],
    [.decimalNumber, .letterNumber, .otherNumber]),
   (["p", "punct", "punctuation"],
    [.connectorPunctuation, .dashPunctuation, .openPunctuation,
     .closePunctuation, .initialPunctuation, .finalPunctuation,
     .otherPunctuation]),
   (["s", "symbol"],
    [.mathSymbol, .currencySymbol, .modifierSymbol,
     .otherSymbol]),
   (["z", "separator"],
    [.spaceSeparator, .lineSeparator, .paragraphSeparator]),
   (["c", "other"],
    [.control, .format, .surrogate, .privateUse,
     .unassigned])]

/-- The categories that a normalised name stands for. -/
def ofName? (name : String) : Option (List GeneralCategory) :=
  (named.find? fun entry => entry.1.contains name).map (·.2)

end GeneralCategory

end RequestRouter.Unicode
