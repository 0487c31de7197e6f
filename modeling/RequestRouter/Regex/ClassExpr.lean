import RequestRouter.Regex.Flags
import RequestRouter.Regex.Property

/-!
# Bracket expressions

What is written between brackets, as a tree. Which characters it contains depends on the flags in
force where it stands.

* `ClassExpr.toSet`: the characters that a bracket expression contains.
* `ClassExpr.depth`: how deep it is nested.
-/

namespace RequestRouter.Regex

/-- A single character as written. -/
structure Literal where
  char : Char
  /-- Whether it was written as an escape of exactly two hexadecimal digits, which means a byte
  where only ASCII is in force. -/
  twoDigits : Bool
deriving DecidableEq, Repr

/-- The operations on sets inside brackets. -/
inductive SetOperation where
  | intersection
  | difference
  | symmetricDifference
deriving DecidableEq, Repr

/-- Bracket expressions and their parts. -/
inductive ClassExpr where
  | nothing
  | literal (l : Literal)
  | range (lo hi : Literal)
  | shorthand (negated : Bool) (kind : Shorthand)
  | property (negated : Bool) (query : PropertyQuery)
  | posix (negated : Bool) (kind : PosixClass)
  | bracket (negated : Bool) (body : ClassExpr)
  /-- Items side by side; `items` may itself be such a union. -/
  | union (items item : ClassExpr)
  | operation (kind : SetOperation) (left right : ClassExpr)
deriving DecidableEq, Repr

namespace ClassExpr

/-- The union of items side by side. -/
def ofItems : List ClassExpr → ClassExpr
  | [] => nothing
  | item :: rest => rest.foldl union item

/-- How deep an expression is nested on its own, and as an item of a union. -/
def depths : ClassExpr → Nat × Nat
  | bracket _ body => (body.depths.1 + 1, body.depths.1 + 1)
  | union items item =>
    let inner := Nat.max items.depths.2 item.depths.2
    (inner + 1, inner)
  | operation _ left right =>
    let inner := Nat.max left.depths.1 right.depths.1
    (inner + 1, inner + 1)
  | _ => (0, 0)

/-- How deep an expression is nested. Items side by side count as one level. -/
def depth (e : ClassExpr) : Nat := e.depths.1

/-- A set closed under case, where the flags ask for it. -/
def closed (flags : Flags) (set : CharSet) : CharSet :=
  if flags.ignoreCase then (if flags.unicode then set.caseless else set.asciiCaseless) else set

/-- A set or its complement. A complement reaches beyond ASCII, so it needs all characters to be in
force. -/
def signed (flags : Flags) (negated : Bool) (set : CharSet) : Except PatternError CharSet :=
  if negated then (if flags.unicode then .ok set.compl else .error .beyondAscii) else .ok set

/-- A literal that the characters in force include. -/
def allowed (flags : Flags) (l : Literal) : Except PatternError Char :=
  if flags.unicode || l.char.toNat < 128 then .ok l.char else .error .beyondAscii

/-- The result of an operation on two sets. -/
def combine : SetOperation → CharSet → CharSet → CharSet
  | .intersection, a, b => a.inter b
  | .difference, a, b => a.diff b
  | .symmetricDifference, a, b => a.symmDiff b

/-- The characters that an expression contains under the flags in force. What stands inside brackets
or beside an operator is joined before anything is done to it; a complement on its own is not. -/
def toSet (flags : Flags) : ClassExpr → Except PatternError CharSet
  | nothing => .ok .empty
  | literal l => do return .single (← allowed flags l)
  | range lo hi => do return .range (← allowed flags lo) (← allowed flags hi)
  | shorthand negated kind => signed flags negated (kind.toSet flags.unicode)
  | property negated query => do
    if flags.unicode then
      signed flags negated (closed flags (← query.resolve))
    else .error .beyondAscii
  | posix negated kind => signed flags negated (closed flags kind.toSet)
  | bracket negated body => do
    signed flags negated (closed flags (← body.toSet flags).joined)
  | union items item => do return (← item.toSet flags).union (← items.toSet flags)
  | operation kind left right => do
    let left := (← left.toSet flags).joined
    let right := (← right.toSet flags).joined
    return combine kind (closed flags left) (closed flags right)

end ClassExpr

end RequestRouter.Regex
