import RequestRouter.Routing.Basic

/-!
# Building URLs

* `Router.named?`: the route that was given a name, in a router or below it.
* `Route.url`: the URL of a route, from the values of its variables.
* `Router.urlFor`: the URL of a named route.
-/

namespace RequestRouter

namespace Route

/-- The scheme and the host of the route's URL, as its template gives them. -/
def hostUrl (template : Template) (values : Bindings) : Except RouterError String := do
  return "http://" ++ (← template.build values)

/-- The URL of the route. It starts with the path if the route has no host. -/
def url (route : Route) (values : Bindings) : Except RouterError String := do
  let host ← match route.settings.host with
    | some template => hostUrl template values
    | none => pure ""
  let path ← match route.settings.path with
    | some template => template.build values
    | none => pure ""
  return host ++ path

/-- The scheme and the host of the route's URL. -/
def urlHost (route : Route) (values : Bindings) : Except RouterError String :=
  match route.settings.host with
  | some template => hostUrl template values
  | none => .error .missingHost

/-- The path of the route's URL. -/
def urlPath (route : Route) (values : Bindings) : Except RouterError String :=
  match route.settings.path with
  | some template => template.build values
  | none => .error .missingPath

end Route

namespace Router

/-- What is left of a position below a router, if it is below it. -/
def relative? (router : Router) (position : Position) : Option (List Nat) :=
  if router.position.isPrefixOf position then some (position.drop router.position.length)
  else none

/-- The route that was given a name, if it is in the router or below it. -/
def named? (router : Router) (names : NameTable) (name : String) : Option Route := do
  let position ← names.find? name
  router.routeAt? (← router.relative? position)

/-- The URL of a named route. -/
def urlFor (router : Router) (names : NameTable) (name : String) (values : Bindings) :
    Except RouterError String :=
  match router.named? names name with
  | some route => route.url values
  | none => .error (.routeNotFound name)

end Router

end RequestRouter
