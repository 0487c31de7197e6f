import RequestRouter.Routing.Basic

/-!
# Resolving requests

A request is resolved to the first route, in depth-first order, that has no nested router and whose
checks all pass, as do those of the routes around it.

* `Route.resolve`, `Router.resolve`: the match of a request, and the checks made to find it.
-/

namespace RequestRouter

/-- A matcher that was asked: that of an index among the matchers of the route at a position. -/
structure Check where
  position : Position
  index : Nat
  /-- The label of the matcher, if it has one. -/
  label : Option String
deriving DecidableEq, Repr

/-- The route that a request is resolved to, and the variables extracted on the way. -/
structure Match where
  route : Route
  vars : Vars

/-- What resolving a request comes to: the match, if there is one, and the checks that were made, in
order. -/
structure Resolution where
  found : Option Match
  checks : List Check

/-- Asks matchers in order until one fails. `index` is that of the first. -/
def checkAll (position : Position) (request : Request) : Nat → List Matcher → Bool × List Check
  | _, [] => (true, [])
  | index, m :: rest =>
    let check : Check := ⟨position, index, m.label?⟩
    if m.accepts request then
      let (passed, checks) := checkAll position request (index + 1) rest
      (passed, check :: checks)
    else (false, [check])

mutual

/-- Resolves a request against one route. Templates come first, then the matchers, then the nested
router, whose variables replace those from outside. -/
def Route.resolve (request : Request) : Route → Resolution
  | .mk position settings nested =>
    match settings.extract? request with
    | none => ⟨none, []⟩
    | some vars =>
      let (passed, checks) := checkAll position request 0 settings.matchers
      if passed then
        match nested with
        | none => ⟨some ⟨.mk position settings none, vars⟩, checks⟩
        | some routes =>
          let inner := Route.resolveFirst request routes
          ⟨inner.found.map fun m => ⟨m.route, vars.extend m.vars⟩, checks ++ inner.checks⟩
      else ⟨none, checks⟩

/-- Resolves a request against several routes, of which the first that matches wins. -/
def Route.resolveFirst (request : Request) : List Route → Resolution
  | [] => ⟨none, []⟩
  | route :: rest =>
    let first := route.resolve request
    match first.found with
    | some m => ⟨some m, first.checks⟩
    | none =>
      let later := Route.resolveFirst request rest
      ⟨later.found, first.checks ++ later.checks⟩

end

/-- Resolves a request against the routes of a router. -/
def Router.resolve (router : Router) (request : Request) : Resolution :=
  Route.resolveFirst request router.routes

end RequestRouter
