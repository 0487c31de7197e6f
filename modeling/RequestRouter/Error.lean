import RequestRouter.Regex.Error
import RequestRouter.Text.Quoted

/-!
# Routing errors

One constructor per cause. Most arise while routes are configured, so that a faulty configuration
fails before it serves a request; the others arise when a URL is built.

* `RouterError.message`: what is said of an error.
* `RouterError.isConfiguration`: whether it arises while routes are configured.
-/

namespace RequestRouter

namespace Regex

/-- What is said of a text that is no pattern. -/
def PatternError.message : PatternError → String
  | groupUnclosed => "a group is not closed"
  | groupUnopened => "a group is closed that was not opened"
  | lookAround => "look-around is not supported"
  | backReference => "back references are not supported"
  | groupNameEmpty => "a group name is empty"
  | groupNameInvalid => "a group name has an invalid character"
  | groupNameUnclosed => "a group name is not closed"
  | groupNameDuplicate name => "two groups have the name " ++ Text.quote name
  | flagUnknown c => "there is no flag " ++ Text.quote (.ofList [c])
  | flagDuplicate => "a flag is repeated"
  | flagNegationRepeated => "flags are negated twice"
  | flagNegationDangling => "no flag follows the negation"
  | flagsUnclosed => "flags are not closed"
  | repetitionMissing => "there is nothing to repeat"
  | repetitionUnclosed => "a repetition is not closed"
  | repetitionNoCount => "a repetition has no count"
  | repetitionTooLarge => "a repetition count is too large"
  | repetitionReversed => "a repetition has its bounds reversed"
  | escapeUnclosed => "an escape is cut off"
  | escapeUnknown c => "there is no escape " ++ Text.quote (.ofList [c])
  | hexDigitInvalid => "an escape has an invalid hexadecimal digit"
  | hexEmpty => "an escape has no hexadecimal digits"
  | hexNoCharacter => "an escape is the number of no character"
  | classUnclosed => "a class is not closed"
  | classRangeReversed => "a class has a range with its ends reversed"
  | classRangeEnd => "a range does not end at a character"
  | classEscape => "an escape cannot stand in a class"
  | propertyInvalid => "a property has an invalid name"
  | propertyUnknown => "there is no such property"
  | wordBoundaryUnknown => "there is no such word boundary"
  | beyondAscii => "a class reaches beyond ASCII where only ASCII is in force"
  | nestedTooDeep => "the pattern is nested too deeply"
  | tooLarge => "the pattern takes too much room"
  | unfinished => "the pattern was not read to its end"

end Regex

/-- What is wrong with a variable pattern or with the expression of a whole template. -/
inductive PatternFault where
  /-- The text is no regular expression. -/
  | rejected (error : Regex.PatternError)
  /-- The expression does not have the group that a variable was given. -/
  | groupMissing (index : Nat)
  /-- A fault described in words. -/
  | described (message : String)
deriving DecidableEq, Repr

/-- What is said of a faulty pattern. -/
def PatternFault.message : PatternFault → String
  | rejected error => error.message
  | groupMissing n => "capture group for variable " ++ toString n ++ " is missing"
  | described message => message

/-- Why routes could not be configured, or a URL could not be built. -/
inductive RouterError where
  | unbalancedBraces (template : String)
  /-- A part of a template in braces has an empty name or an empty pattern. -/
  | badTemplatePart (part : String)
  | invalidPattern (template : String) (fault : PatternFault)
  /-- A route name is taken, anywhere in the tree. -/
  | duplicateRouteName (name : String)
  /-- A variable name is taken in the host or the path of the same route. -/
  | duplicateVariable (name : String)
  | emptyHost (template : String)
  | invalidPath (template : String)
  | invalidPathPrefix (template : String)
  | emptyHeaders
  | oddHeaders (count : Nat)
  | emptyQueries
  | oddQueries (count : Nat)
  | emptyMethods
  | emptySchemes
  | missingRouteVariable (name : String)
  | invalidRouteVariable (name value pattern : String)
  | missingHost
  | missingPath
  | routeNotFound (name : String)
deriving DecidableEq, Repr

namespace RouterError

open Text (quote)

/-- What is said of an error. -/
def message : RouterError → String
  | unbalancedBraces template => "unbalanced curly braces in route template: " ++ quote template
  | badTemplatePart part => "missing name or pattern in route template: " ++ quote part
  | invalidPattern template fault =>
    "invalid pattern in route template " ++ quote template ++ ": " ++ fault.message
  | duplicateRouteName name => "duplicated route name: " ++ quote name
  | duplicateVariable name => "duplicated route variable name: " ++ quote name
  | emptyHost template => "host() requires a non-empty string, got " ++ quote template
  | invalidPath template =>
    "path() requires a non-empty string that starts with a slash, got " ++ quote template
  | invalidPathPrefix template =>
    "path_prefix() requires a non-empty string that starts with a slash, got " ++ quote template
  | emptyHeaders => "headers() requires at least a pair of parameters"
  | oddHeaders count =>
    "headers() requires an even number of parameters, got " ++ toString count
  | emptyQueries => "queries() requires at least a pair of parameters"
  | oddQueries count =>
    "queries() requires an even number of parameters, got " ++ toString count
  | emptyMethods => "methods() requires at least one parameter"
  | emptySchemes => "schemes() requires at least one parameter"
  | missingRouteVariable name => "missing route variable: " ++ quote name
  | invalidRouteVariable name value pattern =>
    "route variable " ++ quote name ++ " doesn't match: got " ++ quote value ++
      ", expected " ++ quote pattern
  | missingHost => "route doesn't have a host"
  | missingPath => "route doesn't have a path"
  | routeNotFound name => "route not found: " ++ name

/-- Whether an error arises while routes are configured. The others come from building URLs and can
be mended by asking with other variables. -/
def isConfiguration : RouterError → Bool
  | missingRouteVariable _ => false
  | invalidRouteVariable _ _ _ => false
  | missingHost => false
  | missingPath => false
  | routeNotFound _ => false
  | _ => true

end RouterError

end RequestRouter
