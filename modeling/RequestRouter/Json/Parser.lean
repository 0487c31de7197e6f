import RequestRouter.Json.Basic

/-!
# Reading JSON

A text is read strictly: no comments, no trailing commas, no numbers with leading zeros, no bare
controls in strings, and nothing after the value but blanks.

* `Json.parse?`: the value that a text spells.
-/

namespace RequestRouter.Json

/-- Blanks between tokens. -/
def isBlank (c : Char) : Bool :=
  c = ' ' || c = '\n' || c = '\t' || c = '\r'

/-- The text after blanks. -/
def skip (cs : List Char) : List Char :=
  cs.dropWhile isBlank

/-- The value of four hexadecimal digits, and what follows them. -/
def readHex4? : List Char → Option (Nat × List Char)
  | a :: b :: c :: d :: rest =>
    let value (x : Char) : Option Nat :=
      if x.isDigit then some (x.toNat - 48)
      else if 'a' ≤ x ∧ x ≤ 'f' then some (x.toNat - 87)
      else if 'A' ≤ x ∧ x ≤ 'F' then some (x.toNat - 55)
      else none
    match value a, value b, value c, value d with
    | some a, some b, some c, some d => some (((a * 16 + b) * 16 + c) * 16 + d, rest)
    | _, _, _, _ => none
  | _ => none

/-- The character that an escape spells, and what follows it. The two halves of a pair have to stand
together. -/
def readEscape? : List Char → Option (Char × List Char)
  | '"' :: rest => some ('"', rest)
  | '\\' :: rest => some ('\\', rest)
  | '/' :: rest => some ('/', rest)
  | 'b' :: rest => some ('\x08', rest)
  | 'f' :: rest => some ('\x0c', rest)
  | 'n' :: rest => some ('\n', rest)
  | 'r' :: rest => some ('\r', rest)
  | 't' :: rest => some ('\t', rest)
  | 'u' :: rest => do
    let (unit, rest) ← readHex4? rest
    if 0xD800 ≤ unit ∧ unit < 0xDC00 then
      match rest with
      | '\\' :: 'u' :: rest =>
        let (low, rest) ← readHex4? rest
        if 0xDC00 ≤ low ∧ low < 0xE000 then
          some (.ofNat (0x10000 + (unit - 0xD800) * 1024 + (low - 0xDC00)), rest)
        else none
      | _ => none
    else if 0xDC00 ≤ unit ∧ unit < 0xE000 then none
    else some (.ofNat unit, rest)
  | _ => none

/-- The rest of a string, up to its closing quote. Every round consumes a character, so `fuel` need
be no more than the length of the text. -/
def readString? : Nat → List Char → List Char → Option (String × List Char)
  | 0, _, _ => none
  | fuel + 1, acc, cs =>
    match cs with
    | [] => none
    | '"' :: rest => some (.ofList acc.reverse, rest)
    | '\\' :: rest =>
      match readEscape? rest with
      | some (c, rest) => readString? fuel (c :: acc) rest
      | none => none
    | c :: rest => if c.toNat < 32 then none else readString? fuel (c :: acc) rest

/-- The number that decimal digits spell. -/
def digitsValue (cs : List Char) : Nat :=
  cs.foldl (fun acc c => 10 * acc + (c.toNat - 48)) 0

/-- The first number that a word of 64 bits does not hold. -/
def wordLimit : Nat := 18446744073709551616

/-- Digits behind those of a word of 64 bits, as long as it has room for them, and those that it has
no room for. -/
def fillWord (word : Nat) : List Char → Nat × List Char
  | [] => (word, [])
  | c :: rest =>
    let filled := 10 * word + (c.toNat - 48)
    if filled < wordLimit then fillWord filled rest else (word, c :: rest)

/-- The double for a number with these digits before and behind the point. Digits that a word has no
room for are not read; those before the point count for the power of ten. -/
def double? (negative : Bool) (whole fraction : List Char) (exponent : Int) : Option JsonNumber := do
  let (word, dropped) := fillWord 0 whole
  let (word, ignored) := fillWord word fraction
  let size ← Double.ofDecimal? word (exponent + dropped.length + ignored.length - fraction.length)
  return .double negative size

/-- The number without fraction and exponent. One that no word of 64 bits holds is a double, and so
is a negative zero. -/
def integer? (negative : Bool) (whole : List Char) : Option JsonNumber :=
  let value := digitsValue whole
  if negative then
    if value = 0 ∨ wordLimit < 2 * value then double? true whole [] 0 else some (.integer (-value))
  else if wordLimit ≤ value then double? false whole [] 0
  else some (.integer value)

/-- An exponent, if one follows, and the text after it. -/
def readExponent? (cs : List Char) : Option (Option Int × List Char) :=
  match cs with
  | c :: rest =>
    if c = 'e' ∨ c = 'E' then
      let (negative, rest) := match rest with
        | '-' :: rest => (true, rest)
        | '+' :: rest => (false, rest)
        | rest => (false, rest)
      match rest.span Char.isDigit with
      | ([], _) => none
      | (digits, rest) =>
        let value : Int := digitsValue digits
        some (some (if negative then -value else value), rest)
    else some (none, cs)
  | [] => some (none, cs)

/-- A number, without its sign. -/
def readNumber? (negative : Bool) (cs : List Char) : Option (JsonNumber × List Char) := do
  let (whole, rest) := cs.span Char.isDigit
  if whole.isEmpty || (whole.head? == some '0' && 1 < whole.length) then none
  let (fraction, rest) ← match rest with
    | '.' :: rest =>
      match rest.span Char.isDigit with
      | ([], _) => none
      | (digits, rest) => some (some digits, rest)
    | rest => some (none, rest)
  let (exponent, rest) ← readExponent? rest
  match fraction, exponent with
  | none, none => return (← integer? negative whole, rest)
  | _, _ => return (← double? negative whole (fraction.getD []) (exponent.getD 0), rest)

/-- The text after a word, if it starts with it. -/
def word? (word : String) (value : Json) (cs : List Char) : Option (Json × List Char) :=
  if word.toList.isPrefixOf cs then some (value, cs.drop word.length) else none

mutual

/-- The value at the start of a text, blanks before it skipped. `depth` is how much deeper values
may be nested; every round consumes a character, so `fuel` need be no more than twice the length of
the text. -/
def readValue? : Nat → Nat → List Char → Option (Json × List Char)
  | 0, _, _ => none
  | fuel + 1, depth, cs =>
    match skip cs with
    | 'n' :: rest => word? "null" null ('n' :: rest)
    | 't' :: rest => word? "true" (bool true) ('t' :: rest)
    | 'f' :: rest => word? "false" (bool false) ('f' :: rest)
    | '"' :: rest => (readString? rest.length [] rest).map fun (s, rest) => (string s, rest)
    | '-' :: rest => (readNumber? true rest).map fun (n, rest) => (number n, rest)
    | '[' :: rest =>
      if depth ≤ 1 then none
      else match skip rest with
        | ']' :: rest => some (array [], rest)
        | rest => readElements? fuel (depth - 1) [] rest
    | '{' :: rest =>
      if depth ≤ 1 then none
      else match skip rest with
        | '}' :: rest => some (object [], rest)
        | rest => readMembers? fuel (depth - 1) [] rest
    | rest => (readNumber? false rest).map fun (n, rest) => (number n, rest)

/-- The rest of an array after the elements read so far, latest first. -/
def readElements? : Nat → Nat → List Json → List Char → Option (Json × List Char)
  | 0, _, _, _ => none
  | fuel + 1, depth, acc, cs =>
    match readValue? fuel depth cs with
    | none => none
    | some (value, rest) =>
      match skip rest with
      | ',' :: rest => readElements? fuel depth (value :: acc) rest
      | ']' :: rest => some (array (value :: acc).reverse, rest)
      | _ => none

/-- The rest of an object after the members read so far, latest first. -/
def readMembers? : Nat → Nat → List (String × Json) → List Char → Option (Json × List Char)
  | 0, _, _, _ => none
  | fuel + 1, depth, acc, cs =>
    match skip cs with
    | '"' :: rest =>
      match readString? rest.length [] rest with
      | none => none
      | some (key, rest) =>
        match skip rest with
        | ':' :: rest =>
          match readValue? fuel depth rest with
          | none => none
          | some (value, rest) =>
            match skip rest with
            | ',' :: rest => readMembers? fuel depth ((key, value) :: acc) rest
            | '}' :: rest => some (ofMembers ((key, value) :: acc).reverse, rest)
            | _ => none
        | _ => none
    | _ => none

end

/-- One more than how deep values may be nested. -/
def depthLimit : Nat := 128

/-- The value that a text spells. -/
def parse? (text : String) : Option Json :=
  let cs := text.toList
  match readValue? (2 * cs.length + 2) depthLimit cs with
  | some (value, rest) => if skip rest = [] then some value else none
  | none => none

end RequestRouter.Json
