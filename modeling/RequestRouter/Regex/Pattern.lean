import RequestRouter.Regex.Assertion

/-!
# Patterns

A pattern is a regular expression as a tree: flags are resolved, so every node means the same
wherever it stands. Trees are built by functions that bring them into one form, in which neighbours
that can be one node are one: which of several matches is preferred depends on that form.

* `Pattern.ofSet`, `Pattern.concat`, `Pattern.choice`, `Pattern.counted`: the four ways to build.
* `Pattern.minLength`: the least number of characters that a match has.
* `Pattern.groups`: the capture groups that a pattern has.
-/

namespace RequestRouter.Regex

/-- Regular expressions with captures. Of an alternative the left side is preferred, and a greedy
repetition prefers to go on. Sequences and alternatives of more than two parts lean to the right. -/
inductive Pattern where
  | empty
  /-- The characters of a text, which has at least one. -/
  | text (first : Char) (rest : List Char)
  /-- One character of a set, which was written where all characters are in force or, if `ascii`
  holds, ASCII alone. -/
  | one (ascii : Bool) (set : CharSet)
  | assert (assertion : Assertion)
  | seq (first second : Pattern)
  | alt (left right : Pattern)
  /-- From `min` to `max` times, without bound if there is no `max`. -/
  | times (min : Nat) (max : Option Nat) (greedy : Bool) (body : Pattern)
  | capture (index : Nat) (body : Pattern)
deriving DecidableEq, Repr

namespace Pattern

/-- One character. -/
def char (c : Char) : Pattern := text c []

/-- What matches nowhere. -/
def never : Pattern := one true .empty

/-- One character of a set. A set of one character is a text. -/
def ofSet (ascii : Bool) (set : CharSet) : Pattern :=
  match set.only? with
  | some c => char c
  | none => if set.ranges.isEmpty then never else one ascii set

/-- Whether a pattern never consumes a character. -/
def zeroWidth : Pattern → Bool
  | empty => true
  | text _ _ => false
  | one _ _ => false
  | assert _ => true
  | seq p q => p.zeroWidth && q.zeroWidth
  | alt p q => p.zeroWidth && q.zeroWidth
  | times _ _ _ p => p.zeroWidth
  | capture _ p => p.zeroWidth

/-- The least number of characters that a match has. There is none where a part without which there
is no match, or one of several alternatives, matches nowhere. -/
def minLength : Pattern → Option Nat
  | empty => some 0
  | text _ rest => some (rest.length + 1)
  | one _ set => if set.ranges.isEmpty then none else some 1
  | assert _ => some 0
  | seq p q => p.minLength.bind fun m => q.minLength.map fun n => m + n
  | alt p q => p.minLength.bind fun m => q.minLength.map fun n => Nat.min m n
  | times min _ _ p => p.minLength.map fun n => n * min
  | capture _ p => p.minLength

/-- Whether every match is known to consume a character. -/
def consumes (p : Pattern) : Bool :=
  p.minLength.any (0 < ·)

/-- Repetition. What consumes nothing is worth repeating once at most, no repetition at all is the
empty pattern, and exactly one is the body. -/
def counted (min : Nat) (max : Option Nat) (greedy : Bool) (body : Pattern) : Pattern :=
  let min := if body.zeroWidth then Nat.min min 1 else min
  let max := if body.zeroWidth then some (Nat.min (max.getD 1) 1) else max
  if min = 0 ∧ max = some 0 then empty
  else if min = 1 ∧ max = some 1 then body
  else times min max greedy body

/-- One pattern after the other. -/
def seqAll : List Pattern → Pattern
  | [] => empty
  | [p] => p
  | p :: rest => seq p (seqAll rest)

/-- The first of several patterns that matches. -/
def altAll : List Pattern → Pattern
  | [] => never
  | [p] => p
  | p :: rest => alt p (altAll rest)

/-- The parts of a sequence. -/
def parts : Pattern → List Pattern
  | empty => []
  | seq p q => p.parts ++ q.parts
  | p => [p]

/-- The alternatives that a pattern offers. -/
def branches : Pattern → List Pattern
  | alt p q => p.branches ++ q.branches
  | p => [p]

/-- A part before others. Two texts side by side are one. -/
def prepend : Pattern → List Pattern → List Pattern
  | text c cs, text d ds :: rest => text c (cs ++ d :: ds) :: rest
  | p, rest => p :: rest

/-- A sequence of patterns. -/
def concat (ps : List Pattern) : Pattern :=
  seqAll ((ps.flatMap parts).foldr prepend [])

/-- The characters of patterns each of which is a text of one. -/
def chars? : List Pattern → Option (List Char)
  | [] => some []
  | text c [] :: rest => (chars? rest).map (c :: ·)
  | _ => none

/-- The union of the sets of patterns each of which is a set. -/
def sets? : List Pattern → Option CharSet
  | [] => some .empty
  | one _ set :: rest => (sets? rest).map set.union
  | _ => none

/-- Alternatives of one character each, or of one set each, as one set. -/
def merged? (ps : List Pattern) : Option Pattern :=
  ((chars? ps).map CharSet.ofList <|> sets? ps).map (ofSet false)

/-- The alternatives of a list. -/
def plainChoice (ps : List Pattern) : Pattern :=
  match ps.flatMap branches with
  | [p] => p
  | ps => (merged? ps).getD (altAll ps)

/-- What two lists start with in common. -/
def common : List Pattern → List Pattern → List Pattern
  | p :: ps, q :: qs => if p = q then p :: common ps qs else []
  | _, _ => []

/-- The parts that several sequences start with in common. -/
def shared : List (List Pattern) → List Pattern
  | [] => []
  | row :: rows => rows.foldl common row

/-- Alternatives that are sequences and start with the same parts, with these parts before the
alternatives of the rest. -/
def factored? (ps : List Pattern) : Option Pattern :=
  let rows := ps.map parts
  let first := shared rows
  if rows.all (2 ≤ ·.length) && !first.isEmpty then
    some (concat (first ++ [plainChoice (rows.map fun row => concat (row.drop first.length))]))
  else none

/-- The alternatives of a list. What they have in common comes first, so it is tried once for all of
them. -/
def choice (ps : List Pattern) : Pattern :=
  match ps.flatMap branches with
  | [p] => p
  | ps => (merged? ps <|> factored? ps).getD (altAll ps)

/-- The indices of the capture groups that a pattern has, in the order in which they open. -/
def groups : Pattern → List Nat
  | empty => []
  | text _ _ => []
  | one _ _ => []
  | assert _ => []
  | seq p q => p.groups ++ q.groups
  | alt p q => p.groups ++ q.groups
  | times _ _ _ p => p.groups
  | capture i p => i :: p.groups

/-- The number of capture groups to report: all up to the last one that the pattern has, the whole
match included. -/
def groupCount (p : Pattern) : Nat :=
  p.groups.foldl Nat.max 0 + 1

end Pattern

end RequestRouter.Regex
