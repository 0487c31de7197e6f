import RequestRouter.Unicode.Additions
import RequestRouter.Regex.Token

/-!
# Reading tokens

* `ClassExpr.read`: the bracket expression at the start of a text.
* `Token.next`: the first token of a text and what follows it.
-/

namespace RequestRouter.Regex

/-- What encloses the place that is being read inside brackets. -/
inductive ClassFrame where
  /-- An open bracket, with the items before it, latest first. -/
  | opened (negated : Bool) (before : List ClassExpr)
  /-- An operation with its left side. -/
  | operand (kind : SetOperation) (left : ClassExpr)

namespace ClassExpr

/-- The union of items, given latest first. -/
def ofReversed (items : List ClassExpr) : ClassExpr :=
  ofItems items.reverse

/-- Applies the operation that waits for its right side, if one does. -/
def applyPending (right : ClassExpr) : List ClassFrame → ClassExpr × List ClassFrame
  | .operand kind left :: frames => (operation kind left right, frames)
  | frames => (right, frames)

/-- The start of a bracket expression, after its bracket: whether it is negated and its first items.
Hyphens at the start are literal, and so is a closing bracket that would be the first item. -/
def readOpening (verbose : Bool) (cs : List Char) :
    Except PatternError (Bool × List ClassExpr × List Char) :=
  let (negated, cs) := match Layout.skip verbose cs with
    | '^' :: rest => (true, Layout.skip verbose rest)
    | cs => (false, cs)
  let (hyphens, cs) := Layout.takeWhile verbose (· == '-') false cs
  let items := hyphens.map fun c => literal ⟨c, false⟩
  match items, cs with
  | _, [] => .error .classUnclosed
  | [], ']' :: rest =>
    match Layout.skip verbose rest with
    | [] => .error .classUnclosed
    | rest => .ok (negated, [literal ⟨']', false⟩], rest)
  | items, cs => .ok (negated, items, cs)

/-- A class by its name between colons, if the text after a bracket spells one. -/
def readPosix? (cs : List Char) : Option (ClassExpr × List Char) :=
  match cs with
  | ':' :: rest =>
    let (negated, rest) := match rest with
      | '^' :: rest => (true, rest)
      | rest => (false, rest)
    match rest.span (· != ':') with
    | (name, ':' :: ']' :: after) =>
      (PosixClass.ofName? (.ofList name)).map fun kind => (posix negated kind, after)
    | _ => none
  | _ => none

/-- One character or class inside brackets. -/
def readItem (verbose : Bool) : List Char → Except PatternError (ClassExpr × List Char)
  | [] => .error .classUnclosed
  | '\\' :: rest => do
    match ← Token.ofEscape verbose rest with
    | (.literal l, after) => return (literal l, after)
    | (.shorthand negated kind, after) => return (shorthand negated kind, after)
    | (.property negated query, after) => return (property negated query, after)
    | _ => .error .classEscape
  | c :: rest => .ok (literal ⟨c, false⟩, rest)

/-- The character that follows a hyphen, as far as it decides what the hyphen means. Under the
verbose flag blanks are passed over, and a number sign with the blanks after it. -/
def peek? (verbose : Bool) (cs : List Char) : Option Char :=
  if verbose then
    match cs.dropWhile Layout.isBlank with
    | '#' :: rest => (rest.dropWhile Layout.isBlank).head?
    | rest => rest.head?
  else cs.head?

/-- An item inside brackets, or a range of characters. A hyphen before the closing bracket or before
another hyphen makes no range. -/
def readRange (verbose : Bool) (cs : List Char) :
    Except PatternError (ClassExpr × List Char) := do
  let (first, cs) ← readItem verbose cs
  match Layout.skip verbose cs with
  | [] => .error .classUnclosed
  | '-' :: rest =>
    if peek? verbose rest = some ']' ∨ peek? verbose rest = some '-' then
      return (first, '-' :: rest)
    match Layout.skip verbose rest with
    | [] => .error .classUnclosed
    | rest =>
      let (second, after) ← readItem verbose rest
      match first, second with
      | literal lo, literal hi =>
        if lo.char ≤ hi.char then return (range lo hi, after) else .error .classRangeReversed
      | _, _ => .error .classRangeEnd
  | rest => return (first, rest)

/-- Reads to the end of the outermost bracket. Every round consumes a character, so `fuel` need be
no more than the length of the text. -/
def readBody (verbose : Bool) :
    Nat → List ClassFrame → List ClassExpr → List Char →
    Except PatternError (ClassExpr × List Char)
  | 0, _, _, _ => .error .classUnclosed
  | fuel + 1, frames, items, cs =>
    let operate (kind : SetOperation) (rest : List Char) :=
      let (left, frames) := applyPending (ofReversed items) frames
      readBody verbose fuel (.operand kind left :: frames) [] rest
    match Layout.skip verbose cs with
    | [] => .error .classUnclosed
    | '[' :: rest =>
      match readPosix? rest with
      | some (item, after) => readBody verbose fuel frames (item :: items) after
      | none => do
        let (negated, first, after) ← readOpening verbose rest
        readBody verbose fuel (.opened negated items :: frames) first after
    | ']' :: rest =>
      match applyPending (ofReversed items) frames with
      | (body, [.opened negated _]) => .ok (bracket negated body, rest)
      | (body, .opened negated before :: frames) =>
        readBody verbose fuel frames (bracket negated body :: before) rest
      | _ => .error .classUnclosed
    | '&' :: '&' :: rest => operate .intersection rest
    | '-' :: '-' :: rest => operate .difference rest
    | '~' :: '~' :: rest => operate .symmetricDifference rest
    | cs => do
      let (item, after) ← readRange verbose cs
      readBody verbose fuel frames (item :: items) after

/-- The bracket expression at the start of a text, which starts after its bracket. -/
def read (verbose : Bool) (cs : List Char) : Except PatternError (ClassExpr × List Char) := do
  let (negated, first, rest) ← readOpening verbose cs
  readBody verbose cs.length [.opened negated []] first rest

end ClassExpr

namespace Token

/-- Characters that a group's name may start with. ASCII needs no table. -/
def isNameStart (c : Char) : Bool :=
  c = '_' || c.isAlpha || (128 ≤ c.toNat && Unicode.isAlphabetic c)

/-- Characters that may follow in a group's name. -/
def isNameChar (c : Char) : Bool :=
  isNameStart c || c.isDigit || c ∈ ['.', '[', ']'] ||
    (128 ≤ c.toNat && Unicode.isNumeric c)

/-- The name of a group, up to the angle bracket that closes it. -/
def readName (cs : List Char) : Except PatternError (Token × List Char) :=
  match cs.span (· != '>') with
  | ([], _ :: _) => .error .groupNameEmpty
  | (c :: name, _ :: after) =>
    if isNameStart c && name.all isNameChar then
      .ok (.openCapture (some (.ofList (c :: name))), after)
    else .error .groupNameInvalid
  | (_, []) => .error .groupNameUnclosed

/-- Flags up to a colon or a closing parenthesis, in order, with the character that ends them. `on`
is false after a hyphen, and `dangling` right after one. -/
def readFlags : List Char → Bool → Bool → List (Flag × Bool) →
    Except PatternError (List (Flag × Bool) × Char × List Char)
  | [], _, _, _ => .error .flagsUnclosed
  | c :: rest, on, dangling, switches =>
    if c = ':' ∨ c = ')' then
      if dangling then .error .flagNegationDangling else .ok (switches.reverse, c, rest)
    else if c = '-' then
      if on then readFlags rest false true switches else .error .flagNegationRepeated
    else match Flag.ofChar? c with
      | none => .error (.flagUnknown c)
      | some flag =>
        if switches.any (·.1 = flag) then .error .flagDuplicate
        else readFlags rest on false ((flag, on) :: switches)

/-- The opening of a group, or flags for the rest of the enclosing one. The text starts after the
parenthesis. -/
def readGroup (verbose : Bool) (cs : List Char) : Except PatternError (Token × List Char) :=
  match Layout.skip verbose cs with
  | '?' :: '=' :: _ => .error .lookAround
  | '?' :: '!' :: _ => .error .lookAround
  | '?' :: '<' :: '=' :: _ => .error .lookAround
  | '?' :: '<' :: '!' :: _ => .error .lookAround
  | '?' :: 'P' :: '<' :: rest => readName rest
  | '?' :: '<' :: rest => readName rest
  | '?' :: rest => do
    match ← readFlags rest true false [] with
    | (switches, ':', after) => return (.openPlain switches, after)
    | ([], _, _) => .error .repetitionMissing
    | (switches, _, after) => return (.switch switches, after)
  | rest => .ok (.openCapture none, rest)

/-- A count, with white space around it. Under the verbose flag, blanks and comments may also stand
between and after its digits. -/
def readCount (verbose : Bool) (cs : List Char) : Except PatternError (Nat × List Char) :=
  let (digits, after) :=
    Layout.takeWhile verbose Char.isDigit false (cs.dropWhile Layout.isBlank)
  let after := if verbose then after else after.dropWhile Layout.isBlank
  let count := digits.foldl (fun acc d => 10 * acc + (d.toNat - '0'.toNat)) 0
  if digits.isEmpty then .error .repetitionNoCount
  else if 4294967296 ≤ count then .error .repetitionTooLarge
  else .ok (count, after)

/-- Whether a question mark that makes a repetition lazy comes next, and the text after it. -/
def readLazy : List Char → Bool × List Char
  | '?' :: rest => (true, rest)
  | rest => (false, rest)

/-- The end of a counted repetition, from its closing brace on. -/
def closeRepetition (verbose : Bool) (min : Nat) (max : Option Nat) :
    List Char → Except PatternError (Token × List Char)
  | '}' :: rest =>
    let (lazy, after) := readLazy (Layout.skip verbose rest)
    if max.any (· < min) then .error .repetitionReversed
    else .ok (.repetition min max lazy, after)
  | _ => .error .repetitionUnclosed

/-- A counted repetition: an exact count, a least count, or two bounds. The text starts after the
brace. -/
def readRepetition (verbose : Bool) (cs : List Char) :
    Except PatternError (Token × List Char) := do
  let (min, rest) ← readCount verbose (Layout.skip verbose cs)
  match rest with
  | ',' :: rest =>
    match Layout.skip verbose rest with
    | [] => .error .repetitionUnclosed
    | '}' :: rest => closeRepetition verbose min none ('}' :: rest)
    | rest =>
      let (max, rest) ← readCount verbose rest
      closeRepetition verbose min (some max) rest
  | rest => closeRepetition verbose min (some min) rest

/-- A repetition without counts, lazy or not. -/
def simpleRepetition (min : Nat) (max : Option Nat) (rest : List Char) : Token × List Char :=
  let (lazy, after) := readLazy rest
  (.repetition min max lazy, after)

/-- The first token of a text that does not start with a blank or a comment, and what follows it. -/
def next (verbose : Bool) (c : Char) (rest : List Char) :
    Except PatternError (Token × List Char) :=
  match c with
  | '(' => readGroup verbose rest
  | ')' => .ok (.close, rest)
  | '|' => .ok (.bar, rest)
  | '[' => do
    let (e, after) ← ClassExpr.read verbose rest
    return (.bracket e, after)
  | '?' => .ok (simpleRepetition 0 (some 1) rest)
  | '*' => .ok (simpleRepetition 0 none rest)
  | '+' => .ok (simpleRepetition 1 none rest)
  | '{' => readRepetition verbose rest
  | '\\' => ofEscape verbose rest
  | '.' => .ok (.dot, rest)
  | '^' => .ok (.anchor .caret, rest)
  | '$' => .ok (.anchor .dollar, rest)
  | c => .ok (.literal ⟨c, false⟩, rest)

end Token

end RequestRouter.Regex
