import RequestRouter.Regex.CharSet

/-!
# Assertions

An assertion holds or fails at a position between two characters of a text and consumes nothing.

* `Assertion.holds`: whether it holds at a position.
-/

namespace RequestRouter.Regex

/-- Conditions on what stands before and after a position of a text. Those on words come in two
kinds: with all word characters, and with the ASCII ones alone. -/
inductive Assertion where
  | textStart
  | textEnd
  /-- The start of the text or after a line feed. -/
  | lineStart
  /-- The end of the text or before a line feed. -/
  | lineEnd
  /-- The start of a line where a carriage return, a line feed or the pair of them ends a line. -/
  | lineStartCrlf
  | lineEndCrlf
  | wordBoundary (ascii : Bool)
  | notWordBoundary (ascii : Bool)
  | wordStart (ascii : Bool)
  | wordEnd (ascii : Bool)
  /-- No word character before. -/
  | wordStartHalf (ascii : Bool)
  /-- No word character after. -/
  | wordEndHalf (ascii : Bool)
deriving DecidableEq, Repr

namespace Assertion

/-- Whether the neighbour of a position is a word character. -/
def isWord (ascii : Bool) : Option Char → Bool
  | none => false
  | some c => (if ascii then CharSet.asciiWord else CharSet.word).contains c

/-- Whether an assertion holds between the neighbours `before` and `after`, which are absent at the
ends of the text. -/
def holdsBetween (before after : Option Char) : Assertion → Bool
  | textStart => before.isNone
  | textEnd => after.isNone
  | lineStart => before.isNone || before == some '\n'
  | lineEnd => after.isNone || after == some '\n'
  | lineStartCrlf =>
    before.isNone || before == some '\n' || (before == some '\r' && after != some '\n')
  | lineEndCrlf =>
    after.isNone || after == some '\r' || (after == some '\n' && before != some '\r')
  | wordBoundary ascii => isWord ascii before != isWord ascii after
  | notWordBoundary ascii => isWord ascii before == isWord ascii after
  | wordStart ascii => !isWord ascii before && isWord ascii after
  | wordEnd ascii => isWord ascii before && !isWord ascii after
  | wordStartHalf ascii => !isWord ascii before
  | wordEndHalf ascii => !isWord ascii after

/-- Whether an assertion holds at a position of a text. -/
def holds (assertion : Assertion) (text : Array Char) (position : Nat) : Bool :=
  assertion.holdsBetween (if position = 0 then none else text[position - 1]?) text[position]?

end Assertion

end RequestRouter.Regex
