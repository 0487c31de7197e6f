import RequestRouter.Regex.Lexer
import RequestRouter.Regex.Pattern

/-!
# From text to pattern

A text is read token by token into a stack of open groups. Flags are resolved on the way: they hold
from where they are switched to the end of the group around them.

* `Parser.step`: what one token does.
* `Parsed.ofText`: the pattern that a text spells.
-/

namespace RequestRouter.Regex

open Unicode (CaseMap)

/-- A part of a pattern with the depth of its nesting. -/
structure Node where
  pattern : Pattern
  depth : Nat
deriving DecidableEq, Repr

namespace Node

/-- One part after the other. A single part is no deeper for standing alone. -/
def sequence : List Node → Node
  | [] => ⟨.empty, 0⟩
  | [node] => node
  | nodes => ⟨.concat (nodes.map (·.pattern)), (nodes.map (·.depth)).foldl Nat.max 0 + 1⟩

/-- The first of several parts that matches. -/
def choice : List Node → Node
  | [] => ⟨.empty, 0⟩
  | [node] => node
  | nodes => ⟨.choice (nodes.map (·.pattern)), (nodes.map (·.depth)).foldl Nat.max 0 + 1⟩

end Node

/-- What a sequence is made of: parts that can be repeated, and flags, which cannot. -/
inductive Item where
  | part (node : Node)
  | flags
deriving DecidableEq, Repr

/-- The part that an item stands for. Flags match nothing themselves. -/
def Item.node : Item → Node
  | part node => node
  | flags => ⟨.empty, 0⟩

/-- A group that is still open, and the place where it opened. -/
structure OpenGroup where
  /-- The index of the group, if it captures. -/
  index : Option Nat
  /-- The flags in force before it. -/
  flags : Flags
  /-- The finished alternatives before it, latest first. -/
  branches : List Node
  /-- The items before it, latest first. -/
  items : List Item
deriving DecidableEq, Repr

/-- How far a pattern has been read. -/
structure Parser where
  /-- The flags in force. -/
  flags : Flags
  /-- The finished alternatives of the innermost group, latest first. -/
  branches : List Node
  /-- The items of the alternative that is being read, latest first. -/
  items : List Item
  /-- The open groups, innermost first. -/
  openGroups : List OpenGroup
  /-- The number of capture groups so far, the whole match included. -/
  groups : Nat
  /-- The names of capture groups, latest first. -/
  names : List (String × Nat)
deriving DecidableEq, Repr

/-- A pattern as read: with its nesting depth and the names of its groups. -/
structure Parsed where
  node : Node
  names : List (String × Nat)
deriving DecidableEq, Repr

namespace Parser

/-- Where a pattern starts. -/
def start : Parser := ⟨.initial, [], [], [], 1, []⟩

/-- The alternatives of the innermost group as one part. -/
def finish (branches : List Node) (items : List Item) : Node :=
  .choice ((.sequence (items.reverse.map Item.node) :: branches).reverse)

/-- The parser after one more part. -/
def push (parser : Parser) (node : Node) : Parser :=
  { parser with items := .part node :: parser.items }

/-- The parser after a part without nesting. -/
def pushLeaf (parser : Parser) (pattern : Pattern) : Parser :=
  parser.push ⟨pattern, 0⟩

/-- The pattern of a literal. A byte beyond ASCII is a character only where all are in force. -/
def literal (flags : Flags) (l : Literal) : Except PatternError Pattern :=
  if !flags.unicode && l.twoDigits && 128 ≤ l.char.toNat then .error .beyondAscii
  else if !flags.ignoreCase then .ok (.char l.char)
  else if flags.unicode then .ok (.ofSet false (.ofList (CaseMap.variants l.char)))
  else .ok (.ofSet true (CharSet.single l.char).asciiCaseless)

/-- The pattern of a dot. -/
def dot (flags : Flags) : Except PatternError Pattern :=
  if !flags.unicode then .error .beyondAscii
  else if flags.dotAll then .ok (.ofSet false .all)
  else if flags.crlf then .ok (.ofSet false (CharSet.ofList ['\r', '\n']).compl)
  else .ok (.ofSet false (CharSet.single '\n').compl)

/-- The pattern of a bracket expression or of a class outside brackets. -/
def classPattern (flags : Flags) (e : ClassExpr) : Except PatternError Pattern := do
  return .ofSet (!flags.unicode) (← e.toSet flags)

/-- The assertion that an anchor stands for. -/
def anchor (flags : Flags) : AnchorMark → Assertion
  | .caret =>
    if flags.multiLine then (if flags.crlf then .lineStartCrlf else .lineStart) else .textStart
  | .dollar =>
    if flags.multiLine then (if flags.crlf then .lineEndCrlf else .lineEnd) else .textEnd
  | .textStart => .textStart
  | .textEnd => .textEnd
  | .wordBoundary => .wordBoundary !flags.unicode
  | .notWordBoundary => .notWordBoundary !flags.unicode
  | .wordStart => .wordStart !flags.unicode
  | .wordEnd => .wordEnd !flags.unicode
  | .wordStartHalf => .wordStartHalf !flags.unicode
  | .wordEndHalf => .wordEndHalf !flags.unicode

/-- Opens a group. -/
def openGroup (parser : Parser) (index : Option Nat) (flags : Flags) : Parser :=
  { parser with
    flags := flags
    branches := []
    items := []
    openGroups := ⟨index, parser.flags, parser.branches, parser.items⟩ :: parser.openGroups }

/-- The pattern of a group. -/
def grouped (index : Option Nat) (pattern : Pattern) : Pattern :=
  match index with
  | some i => .capture i pattern
  | none => pattern

/-- What one token does. -/
def step (parser : Parser) : Token → Except PatternError Parser
  | .literal l => do return parser.pushLeaf (← literal parser.flags l)
  | .dot => do return parser.pushLeaf (← dot parser.flags)
  | .anchor mark => .ok (parser.pushLeaf (.assert (anchor parser.flags mark)))
  | .shorthand negated kind => do
    return parser.pushLeaf (← classPattern parser.flags (.shorthand negated kind))
  | .property negated query => do
    return parser.pushLeaf (← classPattern parser.flags (.property negated query))
  | .bracket e => do return parser.push ⟨← classPattern parser.flags e, e.depth⟩
  | .openCapture name =>
    let opened := { parser.openGroup (some parser.groups) parser.flags with
      groups := parser.groups + 1 }
    match name with
    | none => .ok opened
    | some name =>
      if (parser.names.lookup name).isSome then .error (.groupNameDuplicate name)
      else .ok { opened with names := (name, parser.groups) :: parser.names }
  | .openPlain switches => .ok (parser.openGroup none (parser.flags.change switches))
  | .switch switches =>
    .ok { parser with
      flags := parser.flags.change switches
      items := .flags :: parser.items }
  | .close =>
    match parser.openGroups with
    | [] => .error .groupUnopened
    | group :: rest =>
      let body := finish parser.branches parser.items
      .ok { parser with
        flags := group.flags
        branches := group.branches
        items := .part ⟨grouped group.index body.pattern, body.depth + 1⟩ :: group.items
        openGroups := rest }
  | .bar =>
    .ok { parser with
      branches := .sequence (parser.items.reverse.map Item.node) :: parser.branches
      items := [] }
  | .repetition min max lazy =>
    match parser.items with
    | .part node :: items =>
      let greedy := lazy == parser.flags.swapGreed
      .ok { parser with
        items := .part ⟨.counted min max greedy node.pattern, node.depth + 1⟩ :: items }
    | _ => .error .repetitionMissing

/-- Reads a text to its end. Every round consumes a character, so `fuel` need be no more than the
length of the text. -/
def run : Nat → Parser → List Char → Except PatternError Parser
  | fuel, parser, cs =>
    match Layout.skip parser.flags.verbose cs, fuel with
    | [], _ => .ok parser
    | _ :: _, 0 => .error .unfinished
    | c :: rest, fuel + 1 => do
      let (token, after) ← Token.next parser.flags.verbose c rest
      run fuel (← parser.step token) after

end Parser

/-- How deep a pattern may be nested. -/
def depthLimit : Nat := 250

/-- The pattern that a text spells. -/
def Parsed.ofText (cs : List Char) : Except PatternError Parsed := do
  let parser ← Parser.start.run cs.length cs
  let node := Parser.finish parser.branches parser.items
  if !parser.openGroups.isEmpty then .error .groupUnclosed
  else if depthLimit < node.depth then .error .nestedTooDeep
  else return ⟨node, parser.names⟩

end RequestRouter.Regex
