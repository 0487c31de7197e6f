import RequestRouter.Method
import RequestRouter.Text.Outline
import RequestRouter.Text.Quoted

/-!
# Events

What a router reports of its work: names and nested routers while it is configured, and requests
that reach no handler.

* `Event.message`, `Event.level`, `Event.fields`: how an event is written down.
-/

namespace RequestRouter

/-- The indices that lead from the root of a tree to a route. -/
abbrev Position := List Nat

/-- A position as it is shown. -/
def Position.outline (position : Position) : Text.Outline :=
  .list (position.map fun i => .leaf (toString i))

/-- What happened. -/
inductive Event where
  | nameRegistered (name : String) (position : Position)
  | nestedAttached (position : Position)
  | redirected (path location : String)
  | unmatched (method : Method) (host path : String)
  | unhandled (route : Option String) (path : String)
deriving DecidableEq, Repr

namespace Event

/-- How important an event is. -/
inductive Level where
  | trace
  | debug
deriving DecidableEq, Repr

/-- Configuration is of less interest than requests that go wrong. -/
def level : Event → Level
  | nameRegistered _ _ => .trace
  | nestedAttached _ => .trace
  | redirected _ _ => .debug
  | unmatched _ _ _ => .debug
  | unhandled _ _ => .debug

/-- The name of a level. -/
def Level.name : Level → String
  | trace => "TRACE"
  | debug => "DEBUG"

/-- What is said of an event. -/
def message : Event → String
  | nameRegistered _ _ => "registered route name"
  | nestedAttached _ => "attached sub-router"
  | redirected _ _ => "redirecting to clean path"
  | unmatched _ _ _ => "no route matched"
  | unhandled _ _ => "matched route has no handler"

/-- The particulars of an event, by field name. -/
def fields : Event → List (String × String)
  | nameRegistered name position => [("name", name), ("position", position.outline.inline)]
  | nestedAttached position => [("position", position.outline.inline)]
  | redirected path location => [("path", path), ("location", location)]
  | unmatched method host path => [("method", method.name), ("host", host), ("path", path)]
  | unhandled route path =>
    [("route", (Text.Outline.ofOption (route.map fun n => .leaf (Text.quote n))).inline),
      ("path", path)]

end Event

end RequestRouter
