import RequestRouter.Unicode.Age
import RequestRouter.Unicode.Script
import RequestRouter.Unicode.Segmentation
import RequestRouter.Regex.CharSet
import RequestRouter.Regex.Error

/-!
# Classes by property

A class may be named by a property of its characters: a general category, a script, a binary
property, or a property and one of its values. The properties with values are the general category,
the script, the scripts that a character is used with, the age, and the three segmentations.

* `PropertyQuery.resolve`: the set that a query names.
* `PosixClass.toSet`: the ASCII classes that have a name between colons.
* `Shorthand.toSet`: the classes that have an escape of one letter.
-/

namespace RequestRouter.Regex

open Unicode (BinaryProperty GeneralCategory Segmentation)

/-- What a property class asks for. -/
inductive PropertyQuery where
  | named (name : String)
  | valued (property value : String)
deriving DecidableEq, Repr

namespace PropertyQuery

/-- A property name as a lookup compares it: in lower case, ASCII only, without spaces, underscores
and hyphens, and without a leading "is". -/
def normalise (name : String) : String :=
  let cs := name.toList
  let (isNamed, body) := match cs with
    | a :: b :: rest =>
      if a.toLower = 'i' ∧ b.toLower = 's' then (true, rest) else (false, cs)
    | _ => (false, cs)
  let kept := (body.filter fun c => c ≠ ' ' ∧ c ≠ '_' ∧ c ≠ '-' ∧ c.toNat < 128).map Char.toLower
  if isNamed ∧ kept = ['c'] then "isc" else .ofList kept

/-- The set of a general category, by its normalised name. -/
def category? (name : String) : Option CharSet :=
  if name = "any" then some .all
  else if name = "assigned" then some (CharSet.ofCategories [.unassigned]).compl
  else if name = "ascii" then some (.ofRanges [(0, 127)])
  else (GeneralCategory.ofName? name).map .ofCategories

/-- The set of a script, by its normalised name. -/
def script? (name : String) : Option CharSet :=
  (Unicode.Script.ofName? name).map .ofRanges

/-- The set of a binary property, by its normalised name. -/
def binary? (name : String) : Option CharSet :=
  (BinaryProperty.ofName? name).map .ofProperty

/-- The set of a class of a segmentation, by its normalised name. -/
def segment? (segmentation : Segmentation) (name : String) : Option CharSet :=
  (segmentation.ofName? name).map .ofRanges

/-- The characters that a version of the standard has assigned, by its normalised name. -/
def age? (name : String) : Option CharSet :=
  (Unicode.Age.upTo? name).map fun tables => .ofRanges tables.flatten

/-- The set of a property and one of its values, by their normalised names. -/
def valued? (property value : String) : Option CharSet :=
  if property = "gc" ∨ property = "generalcategory" then category? value
  else if property = "sc" ∨ property = "script" then script? value
  else if property = "scx" ∨ property = "scriptextensions" then
    (Unicode.Script.extendedOfName? value).map .ofRanges
  else if property = "age" then age? value
  else if property = "gcb" ∨ property = "graphemeclusterbreak" then segment? .grapheme value
  else if property = "wb" ∨ property = "wordbreak" then segment? .word value
  else if property = "sb" ∨ property = "sentencebreak" then segment? .sentence value
  else none

/-- The set that a query names. -/
def resolve (query : PropertyQuery) : Except PatternError CharSet :=
  let found := match query with
    | named name =>
      let name := normalise name
      binary? name <|> category? name <|> script? name
    | valued property value => valued? (normalise property) (normalise value)
  match found with
  | some set => .ok set
  | none => .error .propertyUnknown

end PropertyQuery

/-- The ASCII classes with a name. -/
inductive PosixClass where
  | alnum | alpha | ascii | blank | cntrl | digit | graph | lower | print | punct | space | upper
  | word | xdigit
deriving DecidableEq, Repr

namespace PosixClass

/-- The class of a name. -/
def ofName? : String → Option PosixClass
  | "alnum" => some .alnum
  | "alpha" => some .alpha
  | "ascii" => some .ascii
  | "blank" => some .blank
  | "cntrl" => some .cntrl
  | "digit" => some .digit
  | "graph" => some .graph
  | "lower" => some .lower
  | "print" => some .print
  | "punct" => some .punct
  | "space" => some .space
  | "upper" => some .upper
  | "word" => some .word
  | "xdigit" => some .xdigit
  | _ => none

/-- The characters of the class. -/
def toSet : PosixClass → CharSet
  | alnum => .ofRanges [(48, 57), (65, 90), (97, 122)]
  | alpha => .ofRanges [(65, 90), (97, 122)]
  | ascii => .ofRanges [(0, 127)]
  | blank => .ofRanges [(9, 9), (32, 32)]
  | cntrl => .ofRanges [(0, 31), (127, 127)]
  | digit => .asciiDigit
  | graph => .ofRanges [(33, 126)]
  | lower => .ofRanges [(97, 122)]
  | print => .ofRanges [(32, 126)]
  | punct => .ofRanges [(33, 47), (58, 64), (91, 96), (123, 126)]
  | space => .asciiSpace
  | upper => .ofRanges [(65, 90)]
  | word => .asciiWord
  | xdigit => .ofRanges [(48, 57), (65, 70), (97, 102)]

end PosixClass

/-- The classes with an escape of one letter. -/
inductive Shorthand where
  | digit
  | space
  | word
deriving DecidableEq, Repr

/-- The characters of the class, of every script or ASCII alone. -/
def Shorthand.toSet (unicode : Bool) : Shorthand → CharSet
  | digit => if unicode then .digit else .asciiDigit
  | space => if unicode then .space else .asciiSpace
  | word => if unicode then .word else .asciiWord

end RequestRouter.Regex
