import RequestRouter.Regex.Parser
import RequestRouter.Regex.Room
import RequestRouter.Regex.Search

/-!
# Regular expressions

* `Regex.compile`: the expression that a text spells, or why it spells none.
* `Regex.captures?`: the preferred match in a text, with its groups.
* `Regex.escape`: the expression that matches a text literally.
-/

namespace RequestRouter

open Regex (Pattern Program PatternError Parsed)

/-- A compiled regular expression. -/
structure Regex where
  /-- The text that it was compiled from. -/
  source : String
  pattern : Pattern
  /-- The names of its capture groups by index; the whole match has none. -/
  groupNames : List (Option String)
  program : Program
  program_eq : program = .ofPattern pattern

namespace Regex

/-- The room that a compiled expression may take. -/
def roomLimit : Nat := 10 * 1024 * 1024

/-- The name of the group of an index. -/
def nameOf (names : List (String × Nat)) (index : Nat) : Option String :=
  (names.find? (·.2 = index)).map (·.1)

/-- The names of the groups that a pattern has, by index. A group that repetition has removed has
no name. -/
def groupNamesOf (pattern : Pattern) (names : List (String × Nat)) : List (Option String) :=
  let groups := pattern.groups
  (List.range pattern.groupCount).map fun i =>
    if groups.contains i then nameOf names i else none

/-- The expression that a text spells. -/
def compile (source : String) : Except PatternError Regex := do
  let parsed ← Parsed.ofText source.toList
  let pattern := parsed.node.pattern
  if pattern.fits roomLimit then
    return {
      source
      pattern
      groupNames := groupNamesOf pattern parsed.names
      program := .ofPattern pattern
      program_eq := rfl }
  else .error .tooLarge

/-- A match in a text: where each of its groups starts and ends. -/
structure Captures where
  text : List Char
  spans : List (Option (Nat × Nat))
deriving DecidableEq, Repr

/-- The text that a group has captured, if it took part in the match. -/
def Captures.get? (captures : Captures) (index : Nat) : Option String :=
  match captures.spans[index]? with
  | some (some (start, stop)) => some (.ofList ((captures.text.drop start).take (stop - start)))
  | _ => none

/-- The texts of all groups. -/
def Captures.groups (captures : Captures) : List (Option String) :=
  (List.range captures.spans.length).map captures.get?

/-- Where a group starts and ends, if both were noted. -/
def spanOf (slots : Slots) (index : Nat) : Option (Nat × Nat) :=
  match slots.lookup (2 * index), slots.lookup (2 * index + 1) with
  | some start, some stop => some (start, stop)
  | _, _ => none

/-- The preferred match in a text. -/
def captures? (regex : Regex) (text : String) : Option Captures :=
  let cs := text.toList
  (regex.program.search cs.toArray).map fun slots =>
    ⟨cs, (List.range regex.groupNames.length).map (spanOf slots)⟩

/-- Whether an expression matches somewhere in a text. -/
def isMatch (regex : Regex) (text : String) : Bool :=
  (regex.program.search text.toList.toArray).isSome

/-- The characters that mean something in an expression. -/
def isMeta (c : Char) : Bool :=
  c ∈ ['\\', '.', '+', '*', '?', '(', ')', '|', '[', ']', '{', '}', '^', '$', '#', '&', '-', '~']

/-- The characters of a text with a backslash before each that means something. -/
def escapeChars (cs : List Char) : List Char :=
  cs.flatMap fun c => if isMeta c then ['\\', c] else [c]

/-- The expression that matches a text literally. -/
def escape (text : String) : String :=
  .ofList (escapeChars text.toList)

end Regex

end RequestRouter
