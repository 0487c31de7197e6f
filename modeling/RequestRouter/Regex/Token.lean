import RequestRouter.Regex.ClassExpr

/-!
# Tokens of a pattern

The smallest parts of a pattern's text. What a token means depends on the flags in force; how it is
read depends on one of them alone, the verbose flag, under which blanks and comments may stand
between tokens and inside some of them.

* `Layout.skip`: the text after blanks and comments.
* `Token.ofEscape`: the token that an escape spells.
-/

namespace RequestRouter.Regex

/-- The assertions as written. -/
inductive AnchorMark where
  /-- A caret: the start of the text, or of a line. -/
  | caret
  /-- A dollar sign: the end of the text, or of a line. -/
  | dollar
  | textStart
  | textEnd
  | wordBoundary
  | notWordBoundary
  | wordStart
  | wordEnd
  | wordStartHalf
  | wordEndHalf
deriving DecidableEq, Repr

/-- The parts of a pattern's text. -/
inductive Token where
  | literal (l : Literal)
  | dot
  | anchor (mark : AnchorMark)
  | shorthand (negated : Bool) (kind : Shorthand)
  | property (negated : Bool) (query : PropertyQuery)
  | bracket (e : ClassExpr)
  /-- The opening of a capture group. -/
  | openCapture (name : Option String)
  /-- The opening of a group that captures nothing, with the flags it switches. -/
  | openPlain (switches : List (Flag × Bool))
  /-- Flags switched for the rest of the enclosing group. -/
  | switch (switches : List (Flag × Bool))
  | close
  | bar
  | repetition (min : Nat) (max : Option Nat) (lazy : Bool)
deriving DecidableEq, Repr

namespace Layout

/-- White space between tokens. -/
def isBlank (c : Char) : Bool :=
  Unicode.BinaryProperty.whiteSpace.contains c

/-- The text after blanks and comments. A comment runs from a number sign to the end of its line;
`inComment` says whether one is open. -/
def drop : Bool → List Char → List Char
  | _, [] => []
  | true, c :: rest => drop (c != '\n') rest
  | false, c :: rest =>
    if isBlank c then drop false rest
    else if c = '#' then drop true rest
    else c :: rest

/-- The text after blanks and comments, which are skipped under the verbose flag only. -/
def skip (verbose : Bool) (cs : List Char) : List Char :=
  if verbose then drop false cs else cs

/-- The longest run of characters that pass a test, and what follows it. Under the verbose flag,
blanks and comments between and after them are skipped. -/
def takeWhile (verbose : Bool) (test : Char → Bool) : Bool → List Char → List Char × List Char
  | _, [] => ([], [])
  | true, c :: rest => takeWhile verbose test (c != '\n') rest
  | false, c :: rest =>
    if verbose && isBlank c then takeWhile verbose test false rest
    else if verbose && c = '#' then takeWhile verbose test true rest
    else if test c then
      let (run, after) := takeWhile verbose test false rest
      (c :: run, after)
    else ([], c :: rest)

/-- A given number of characters, each followed by blanks and comments under the verbose flag. -/
def takeCount (verbose : Bool) : Nat → List Char → Option (List Char × List Char)
  | 0, cs => some ([], cs)
  | _ + 1, [] => none
  | n + 1, c :: rest =>
    (takeCount verbose n (skip verbose rest)).map fun (run, after) => (c :: run, after)

end Layout

namespace Token

/-- The characters that an escape stands for as they are: all of ASCII but letters, digits and the
angle brackets. -/
def isEscapable (c : Char) : Bool :=
  c.toNat < 128 && !c.isAlphanum && c != '<' && c != '>'

/-- The number that hexadecimal digits spell. -/
def hexNumber? : List Char → Nat → Option Nat
  | [], acc => some acc
  | c :: rest, acc =>
    match Unicode.RangeTable.hexValue? c with
    | some d => hexNumber? rest (16 * acc + d)
    | none => none

/-- The character that hexadecimal digits spell. -/
def hexCharacter (digits : List Char) : Except PatternError Char :=
  match digits, hexNumber? digits 0 with
  | [], _ => .error .hexEmpty
  | _, none => .error .hexDigitInvalid
  | _, some n => if n.isValidChar then .ok (.ofNat n) else .error .hexNoCharacter

/-- A character by its number: a fixed count of digits, or any number of them in braces. The text
starts after the letter of the escape. -/
def ofHex (verbose : Bool) (count : Nat) (cs : List Char) :
    Except PatternError (Token × List Char) :=
  match Layout.skip verbose cs with
  | [] => .error .escapeUnclosed
  | '{' :: rest =>
    match Layout.takeWhile verbose (· != '}') false rest with
    | (digits, _ :: after) => do
      return (.literal ⟨← hexCharacter digits, false⟩, Layout.skip verbose after)
    | (_, []) => .error .escapeUnclosed
  | cs =>
    match Layout.takeCount verbose count cs with
    | none => .error .escapeUnclosed
    | some (digits, after) => do
      return (.literal ⟨← hexCharacter digits, count == 2⟩, after)

/-- The text before the first place where `mark` stands, and the text after it. -/
def splitAt? (mark : List Char) : List Char → Option (List Char × List Char)
  | [] => none
  | c :: rest =>
    if mark.isPrefixOf (c :: rest) then some ([], (c :: rest).drop mark.length)
    else (splitAt? mark rest).map fun (before, after) => (c :: before, after)

/-- The query that stands between the braces of a property class, and whether it is negated. -/
def queryOf (cs : List Char) : Bool × PropertyQuery :=
  match splitAt? ['!', '='] cs with
  | some (name, value) => (true, .valued (.ofList name) (.ofList value))
  | none =>
    match (splitAt? [':'] cs).orElse fun _ => splitAt? ['='] cs with
    | some (name, value) => (false, .valued (.ofList name) (.ofList value))
    | none => (false, .named (.ofList cs))

/-- A property class: a name of one letter, or a query in braces. The text starts after the letter
of the escape. -/
def ofProperty (verbose negated : Bool) (cs : List Char) :
    Except PatternError (Token × List Char) :=
  match Layout.skip verbose cs with
  | [] => .error .escapeUnclosed
  | '{' :: rest =>
    match Layout.takeWhile verbose (· != '}') false rest with
    | (query, _ :: after) =>
      let (unequal, query) := queryOf query
      .ok (.property (negated != unequal) query, after)
    | (_, []) => .error .escapeUnclosed
  | '\\' :: _ => .error .propertyInvalid
  | c :: rest => .ok (.property negated (.named (.ofList [c])), Layout.skip verbose rest)

/-- The kind of word boundary that a name in braces asks for. -/
def boundaryOfName? (name : List Char) : Option AnchorMark :=
  match String.ofList name with
  | "start" => some .wordStart
  | "end" => some .wordEnd
  | "start-half" => some .wordStartHalf
  | "end-half" => some .wordEndHalf
  | _ => none

/-- The characters of the name of a word boundary. -/
def isBoundaryChar (c : Char) : Bool :=
  c.isAlpha || c = '-'

/-- A word boundary, whose kind may follow in braces. A brace that no name follows belongs to a
repetition. The text starts after the letter of the escape. -/
def ofBoundary (verbose : Bool) (cs : List Char) : Except PatternError (Token × List Char) :=
  match cs with
  | '{' :: rest =>
    match Layout.skip verbose rest with
    | [] => .error .wordBoundaryUnknown
    | c :: rest =>
      if isBoundaryChar c then
        match Layout.takeWhile verbose isBoundaryChar false (c :: rest) with
        | (name, '}' :: after) =>
          match boundaryOfName? name with
          | some mark => .ok (.anchor mark, after)
          | none => .error .wordBoundaryUnknown
        | _ => .error .wordBoundaryUnknown
      else .ok (.anchor .wordBoundary, cs)
  | _ => .ok (.anchor .wordBoundary, cs)

/-- The token that an escape spells. The text starts after the backslash. -/
def ofEscape (verbose : Bool) : List Char → Except PatternError (Token × List Char)
  | [] => .error .escapeUnclosed
  | c :: rest =>
    if c.isDigit then .error .backReference
    else if isEscapable c then .ok (.literal ⟨c, false⟩, rest)
    else match c with
      | 'x' => ofHex verbose 2 rest
      | 'u' => ofHex verbose 4 rest
      | 'U' => ofHex verbose 8 rest
      | 'p' => ofProperty verbose false rest
      | 'P' => ofProperty verbose true rest
      | 'd' => .ok (.shorthand false .digit, rest)
      | 'D' => .ok (.shorthand true .digit, rest)
      | 's' => .ok (.shorthand false .space, rest)
      | 'S' => .ok (.shorthand true .space, rest)
      | 'w' => .ok (.shorthand false .word, rest)
      | 'W' => .ok (.shorthand true .word, rest)
      | 'a' => .ok (.literal ⟨'\x07', false⟩, rest)
      | 'f' => .ok (.literal ⟨'\x0c', false⟩, rest)
      | 't' => .ok (.literal ⟨'\t', false⟩, rest)
      | 'n' => .ok (.literal ⟨'\n', false⟩, rest)
      | 'r' => .ok (.literal ⟨'\r', false⟩, rest)
      | 'v' => .ok (.literal ⟨'\x0b', false⟩, rest)
      | 'A' => .ok (.anchor .textStart, rest)
      | 'z' => .ok (.anchor .textEnd, rest)
      | 'b' => ofBoundary verbose rest
      | 'B' => .ok (.anchor .notWordBoundary, rest)
      | '<' => .ok (.anchor .wordStart, rest)
      | '>' => .ok (.anchor .wordEnd, rest)
      | c => .error (.escapeUnknown c)

end Token

end RequestRouter.Regex
