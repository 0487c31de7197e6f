import RequestRouter.Routing.Basic

/-!
# Configuring a tree of routers

A site is a root router with everything nested in it, and the registry they share. It is configured
by calls, each of which works on one router or one route and may fail.

* `Site.call`: what a call does, and whether it fails.
* `Site.afterCalls`: a site after any number of calls.
-/

namespace RequestRouter

/-- A tree of routers with its registry. -/
structure Site where
  root : Router
  registry : Registry

/-- The ways to add a route to a router with some settings at once. -/
inductive Factory where
  | empty
  | name (name : String)
  | host (template : String)
  | path (template : String)
  | pathPrefix (template : String)
  | methods (names : List String)
  | schemes (names : List String)
  | headers (args : List String)
  | queries (args : List String)
  | matcher (matcher : Matcher)
  /-- A path with its handler. -/
  | route (template : String) (handler : Handler)
  /-- The same for requests of one method. -/
  | methodRoute (method : Method) (template : String) (handler : Handler)

namespace Factory

/-- A path with its handler, for requests of the method GET. -/
def get (template : String) (handler : Handler) : Factory :=
  methodRoute .get template handler

/-- A path with its handler, for requests of the method POST. -/
def post (template : String) (handler : Handler) : Factory :=
  methodRoute .post template handler

/-- A path with its handler, for requests of the method PUT. -/
def put (template : String) (handler : Handler) : Factory :=
  methodRoute .put template handler

/-- A path with its handler, for requests of the method PATCH. -/
def patch (template : String) (handler : Handler) : Factory :=
  methodRoute .patch template handler

/-- A path with its handler, for requests of the method DELETE. -/
def delete (template : String) (handler : Handler) : Factory :=
  methodRoute .delete template handler

end Factory

/-- The directives that a factory carries out, in order. -/
def Factory.directives : Factory → List Directive
  | empty => []
  | name n => [.name n]
  | host template => [.host template]
  | path template => [.path template]
  | pathPrefix template => [.pathPrefix template]
  | methods names => [.methods names]
  | schemes names => [.schemes names]
  | headers args => [.headers args]
  | queries args => [.queries args]
  | matcher m => [.matcher m]
  | route template handler => [.path template, .handler handler]
  | methodRoute method template handler =>
    [.path template, .methods [method.name], .handler handler]

/-- Configuration calls. Routers and routes are given by the indices that lead to them from the
root. -/
inductive Call where
  | add (router : List Nat) (factory : Factory)
  | configure (route : List Nat) (directive : Directive)
  | openNested (route : List Nat)

/-- What a call does to the root router. -/
def Call.edit : Call → Router → Setup Router
  | add router factory => Router.editRouter router (Router.addRoute factory.directives)
  | configure route directive => Router.editRoute route (Route.configure directive)
  | openNested route => Router.editRoute route Route.openNested

namespace Site

/-- A site without routes. -/
def empty : Site := ⟨.empty, .empty⟩

/-- Whether a call fails, and the site after it. A call that fails leaves the tree as it was; what it
has done to the registry stays done. -/
def call (site : Site) (call : Call) : Except RouterError Unit × Site :=
  match (call.edit site.root).run site.registry with
  | (.ok root, registry) => (.ok (), ⟨root, registry⟩)
  | (.error e, registry) => (.error e, ⟨site.root, registry⟩)

/-- A site after any number of calls, whether they fail or not. -/
def afterCalls (site : Site) (calls : List Call) : Site :=
  calls.foldl (fun site c => (site.call c).2) site

end Site

end RequestRouter
