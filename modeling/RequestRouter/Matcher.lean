import RequestRouter.Error
import RequestRouter.Request

/-!
# Matchers

Everything that a route checks besides its host and path templates.

* `Matcher.accepts`: whether a request passes a check.
* `Matcher.ofMethods`, `Matcher.ofSchemes`, `Matcher.ofHeaders`, `Matcher.ofQueries`: the checks
  that can be configured by texts, or why they cannot.
-/

namespace RequestRouter

/-- Checks on a request. -/
inductive Matcher where
  /-- The method is one of these. -/
  | methods (accepted : List Method)
  /-- The scheme is one of these, which are in lower case. -/
  | schemes (accepted : List String)
  /-- Every header is present, by its canonical name, and has the value, unless that is empty. -/
  | headers (expected : Bindings)
  /-- The same of query parameters, by their keys as they are. -/
  | queries (expected : Bindings)
  /-- Any other check. Its label, if it has one, is what a record of checks shows. -/
  | custom (label : Option String) (test : Request → Bool)

namespace Matcher

/-- Whether every expected key is present and, where a value is expected, one of its values is that
one. -/
def carries (actual : MultiMap) (expected : Bindings) : Bool :=
  expected.entries.all fun (key, value) =>
    actual.contains key && (value.isEmpty || (actual.values key).contains value)

/-- Whether a request passes a check. -/
def accepts (request : Request) : Matcher → Bool
  | methods accepted => accepted.contains request.method
  | schemes accepted => accepted.contains request.scheme
  | headers expected => carries request.headers expected
  | queries expected => carries request.query expected
  | custom _ test => test request

/-- The label of a check that has one. -/
def label? : Matcher → Option String
  | custom label _ => label
  | _ => none

/-- The methods of a check on methods. -/
def acceptedMethods : Matcher → List Method
  | methods accepted => accepted
  | _ => []

/-- The schemes of a check on schemes. -/
def acceptedSchemes : Matcher → List String
  | schemes accepted => accepted
  | _ => []

/-- A check for one of several methods, whatever their case. -/
def ofMethods (names : List String) : Except RouterError Matcher :=
  if names.isEmpty then .error .emptyMethods else .ok (methods (names.map Method.parse))

/-- A check for one of several schemes, whatever their case. -/
def ofSchemes (names : List String) : Except RouterError Matcher :=
  if names.isEmpty then .error .emptySchemes else .ok (schemes (names.map Unicode.lowerCase))

/-- The pairs of a flat list of keys and values. -/
def pairUp : List String → List (String × String)
  | key :: value :: rest => (key, value) :: pairUp rest
  | _ => []

/-- The bindings of a flat list of keys and values, or the error for one that cannot be paired or is
empty. -/
def expectations (args : List String) (odd : Nat → RouterError) (empty : RouterError) :
    Except RouterError Bindings :=
  if args.length % 2 ≠ 0 then .error (odd args.length)
  else if args.isEmpty then .error empty
  else .ok (.ofPairs (pairUp args))

/-- A check of headers, given as a flat list of names and values. -/
def ofHeaders (args : List String) : Except RouterError Matcher := do
  let expected ← expectations args .oddHeaders .emptyHeaders
  return headers (.ofPairs (expected.entries.map fun e => (Header.canonical e.1, e.2)))

/-- A check of query parameters, given as a flat list of keys and values. -/
def ofQueries (args : List String) : Except RouterError Matcher := do
  return queries (← expectations args .oddQueries .emptyQueries)

end Matcher

end RequestRouter
