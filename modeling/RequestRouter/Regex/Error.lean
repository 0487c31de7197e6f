/-!
# Why a text is no pattern

One constructor per cause.
-/

namespace RequestRouter.Regex

/-- Why a text is not a regular expression. -/
inductive PatternError where
  | groupUnclosed
  | groupUnopened
  | lookAround
  | backReference
  | groupNameEmpty
  | groupNameInvalid
  | groupNameUnclosed
  | groupNameDuplicate (name : String)
  | flagUnknown (c : Char)
  | flagDuplicate
  | flagNegationRepeated
  | flagNegationDangling
  | flagsUnclosed
  | repetitionMissing
  | repetitionUnclosed
  | repetitionNoCount
  | repetitionTooLarge
  | repetitionReversed
  | escapeUnclosed
  | escapeUnknown (c : Char)
  | hexDigitInvalid
  | hexEmpty
  | hexNoCharacter
  | classUnclosed
  | classRangeReversed
  | classRangeEnd
  | classEscape
  | propertyInvalid
  | propertyUnknown
  | wordBoundaryUnknown
  /-- A class of other than ASCII characters where only ASCII is in force. -/
  | beyondAscii
  | nestedTooDeep
  | tooLarge
  /-- More tokens than characters, which no text has. -/
  | unfinished
deriving DecidableEq, Repr

end RequestRouter.Regex
