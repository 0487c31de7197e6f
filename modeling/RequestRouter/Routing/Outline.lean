import RequestRouter.Routing.Basic

/-!
# Routers as outlines

* `Route.outline`, `Router.outline`: what is shown of routes and routers.
-/

namespace RequestRouter

open Text (Outline quote)

/-- A text that may be absent, in quotes. -/
def quotedOption (text : Option String) : Outline :=
  .ofOption (text.map fun t => .leaf (quote t))

/-- A truth value. -/
def truth (b : Bool) : Outline :=
  .leaf (if b then "true" else "false")

mutual

/-- What is shown of a route: of its matchers the number, of its handler whether there is one. -/
def Route.outline : Route → Outline
  | .mk position settings nested =>
    .record "Route" [
      ("name", quotedOption settings.name),
      ("host", quotedOption (settings.host.map (·.text))),
      ("path", quotedOption (settings.path.map (·.text))),
      ("matchers", .leaf (toString settings.matchers.length)),
      ("handler", truth settings.handler.isSome),
      ("subrouter", match nested with
        | none => .leaf "None"
        | some routes => .call "Some" (.record "Router" [
            ("routes", .list (Route.outlines routes)),
            ("position", position.outline)]))]

/-- What is shown of several routes. -/
def Route.outlines : List Route → List Outline
  | [] => []
  | route :: rest => route.outline :: Route.outlines rest

end

/-- What is shown of a router. -/
def Router.outline (router : Router) : Outline :=
  .record "Router" [
    ("routes", .list (Route.outlines router.routes)),
    ("position", router.position.outline)]

end RequestRouter
