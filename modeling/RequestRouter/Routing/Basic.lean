import RequestRouter.Routing.Settings

/-!
# Routes and routers

A router is a list of routes, tried in order. A route may hold a nested router, whose routes are
tried once everything else about the route matches.

* `Router.routeAt?`: the route that a list of indices leads to.
* `Router.editRoute`, `Router.editRouter`: changes to one route or router of a tree.
-/

namespace RequestRouter

/-- A route: its place in the tree, its settings, and the routes of its nested router, if it has
one. -/
inductive Route where
  | mk (position : Position) (settings : Settings) (nested : Option (List Route))

namespace Route

/-- The indices that lead to the route from the root of its tree. -/
def position : Route → Position
  | mk position _ _ => position

/-- The settings of the route. -/
def settings : Route → Settings
  | mk _ settings _ => settings

/-- The routes of the nested router, if there is one. -/
def nested : Route → Option (List Route)
  | mk _ _ nested => nested

/-- The route with other settings. -/
def withSettings (settings : Settings) : Route → Route
  | mk position _ nested => mk position settings nested

/-- The route with a nested router of these routes. -/
def withNested (routes : List Route) : Route → Route
  | mk position settings _ => mk position settings (some routes)

/-- The name of the route, if it has one. -/
def name? (route : Route) : Option String :=
  route.settings.name

/-- Changes one setting of the route. -/
def configure (directive : Directive) (route : Route) : Setup Route := do
  return route.withSettings (← directive.apply route.position route.settings)

/-- Gives the route a nested router, unless it has one. -/
def openNested (route : Route) : Setup Route := do
  match route.nested with
  | some _ => return route
  | none =>
    Setup.report (.nestedAttached route.position)
    return route.withNested []

/-- The route that indices lead to from a list of routes. -/
def atIn? : List Nat → List Route → Option Route
  | [], _ => none
  | i :: path, routes => do
    let route ← routes[i]?
    match path with
    | [] => return route
    | next :: path => atIn? (next :: path) (← route.nested)

/-- Changes the route that indices lead to from a list of routes. Where they lead to none, nothing
changes. -/
def editIn (edit : Route → Setup Route) : List Nat → List Route → Setup (List Route)
  | [], routes => return routes
  | i :: path, routes =>
    match routes[i]? with
    | none => return routes
    | some route => do
      let changed ← match path with
        | [] => edit route
        | next :: path =>
          match route.nested with
          | none => pure route
          | some inner => (route.withNested ·) <$> editIn edit (next :: path) inner
      return routes.set i changed

end Route

/-- A router: the position of the route that holds it, and its routes in the order in which they are
tried. -/
structure Router where
  position : Position
  routes : List Route

/-- The router that a route holds. -/
def Route.router? (route : Route) : Option Router :=
  route.nested.map fun routes => ⟨route.position, routes⟩

namespace Router

/-- A root router without routes. -/
def empty : Router := ⟨[], []⟩

instance : Inhabited Router := ⟨empty⟩

/-- The route that indices lead to from a router. -/
def routeAt? (router : Router) (path : List Nat) : Option Route :=
  Route.atIn? path router.routes

/-- The router that the route at a list of indices holds, or the router itself for no indices. -/
def routerAt? (router : Router) (path : List Nat) : Option Router :=
  match path with
  | [] => some router
  | path => (router.routeAt? path).bind Route.router?

/-- Adds a route after all others, once every directive has been carried out on it. If one fails,
no route is added. -/
def addRoute (directives : List Directive) (router : Router) : Setup Router := do
  let position := router.position ++ [router.routes.length]
  let settings ← directives.foldlM (fun settings d => d.apply position settings) .empty
  return { router with routes := router.routes ++ [.mk position settings none] }

/-- Changes the route that indices lead to. -/
def editRoute (path : List Nat) (edit : Route → Setup Route) (router : Router) :
    Setup Router := do
  return { router with routes := ← Route.editIn edit path router.routes }

/-- Changes the router that the route at a list of indices holds, or the router itself for no
indices. -/
def editRouter (path : List Nat) (edit : Router → Setup Router) (router : Router) :
    Setup Router :=
  match path with
  | [] => edit router
  | path => router.editRoute path fun route =>
    match route.router? with
    | none => return route
    | some inner => do return route.withNested (← edit inner).routes

end Router

end RequestRouter
