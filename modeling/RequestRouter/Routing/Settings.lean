import RequestRouter.Matcher
import RequestRouter.Response
import RequestRouter.Routing.Registry
import RequestRouter.Template.Basic

/-!
# The settings of a route

What a route checks, how it is called and how it answers. A directive changes one of these; the
templates replace earlier ones of the same kind, and matchers add up.

* `Directive.apply`: what a directive does.
* `Settings.extract?`: the variables that the templates of a route extract from a request.
-/

namespace RequestRouter

/-- What answers a request. -/
abbrev Handler := Request → Response

/-- The settings of a route. -/
structure Settings where
  name : Option String
  handler : Option Handler
  /-- In the order in which they were added. -/
  matchers : List Matcher
  host : Option Template
  path : Option Template

/-- A setting to change. -/
inductive Directive where
  | name (name : String)
  | host (template : String)
  | path (template : String)
  | pathPrefix (template : String)
  | methods (names : List String)
  | schemes (names : List String)
  /-- Names and values, alternating. -/
  | headers (args : List String)
  /-- Keys and values, alternating. -/
  | queries (args : List String)
  | matcher (matcher : Matcher)
  | handler (handler : Handler)

namespace Settings

/-- A route that checks nothing. -/
def empty : Settings := ⟨none, none, [], none, none⟩

/-- The variable names of a template that may be absent. -/
def varNames (template : Option Template) : List String :=
  (template.map Template.varNames).getD []

/-- Sets the host template. Its variables may not have names of the path template. -/
def withHost (settings : Settings) (template : String) : Except RouterError Settings := do
  if template.isEmpty then throw (.emptyHost template)
  let host ← Template.compile template Template.defaultHostPattern false (varNames settings.path)
  return { settings with host := some host }

/-- Sets the path template. Its variables may not have names of the host template. -/
def withPath (settings : Settings) (template : String) (isPrefix : Bool) :
    Except RouterError Settings := do
  let path ←
    Template.compile template Template.defaultPathPattern isPrefix (varNames settings.host)
  return { settings with path := some path }

/-- Adds a matcher. -/
def withMatcher (settings : Settings) (matcher : Matcher) : Settings :=
  { settings with matchers := settings.matchers ++ [matcher] }

/-- The variables that the templates extract from a request, if both match. The path template sees
the whole path. -/
def extract? (settings : Settings) (request : Request) : Option Vars := do
  let host ← match settings.host with
    | some template => (template.captures? request.host).map template.extract
    | none => some []
  let path ← match settings.path with
    | some template => (template.captures? request.path).map template.extract
    | none => some []
  return .ofPairs (host ++ path)

end Settings

/-- Whether a text starts with a slash. -/
def startsWithSlash (text : String) : Bool :=
  text.toList.head? == some '/'

/-- What a directive does to the settings of the route at a position. -/
def Directive.apply (position : Position) (settings : Settings) : Directive → Setup Settings
  | name n => do
    Setup.register n position
    return { settings with name := some n }
  | host template => Setup.ofExcept (settings.withHost template)
  | path template =>
    if startsWithSlash template then Setup.ofExcept (settings.withPath template false)
    else throw (.invalidPath template)
  | pathPrefix template =>
    if startsWithSlash template then Setup.ofExcept (settings.withPath template true)
    else throw (.invalidPathPrefix template)
  | methods names => do return settings.withMatcher (← Setup.ofExcept (Matcher.ofMethods names))
  | schemes names => do return settings.withMatcher (← Setup.ofExcept (Matcher.ofSchemes names))
  | headers args => do return settings.withMatcher (← Setup.ofExcept (Matcher.ofHeaders args))
  | queries args => do return settings.withMatcher (← Setup.ofExcept (Matcher.ofQueries args))
  | matcher m => return settings.withMatcher m
  | handler h => return { settings with handler := some h }

end RequestRouter
