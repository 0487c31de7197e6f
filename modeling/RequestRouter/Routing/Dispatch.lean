import RequestRouter.Path
import RequestRouter.Routing.Resolve

/-!
# Dispatching requests

A request whose path is not canonical is redirected. Any other goes to the handler of the route that
it resolves to, with the variables of the match.

* `Router.decide`: what is to be done with a request.
* `Decision.response`, `Decision.event?`: what doing it answers and reports.
-/

namespace RequestRouter

/-- What is to be done with a request. -/
inductive Decision where
  | redirect (path location : String)
  /-- No route matches. -/
  | unmatched (request : Request)
  /-- The route that matches has no handler. -/
  | unhandled (route : Route) (request : Request)
  /-- The handler is to answer the request. -/
  | run (handler : Handler) (request : Request)

namespace Decision

/-- The response to the request. -/
def response : Decision → Response
  | redirect _ location => .redirectPermanent location
  | unmatched _ => .notFound
  | unhandled _ _ => .notFound
  | run handler request => handler request

/-- What is reported. A request that a handler answers is not. -/
def event? : Decision → Option Event
  | redirect path location => some (.redirected path location)
  | unmatched request => some (.unmatched request.method request.host request.path)
  | unhandled route request => some (.unhandled route.name? request.path)
  | run _ _ => none

end Decision

namespace Router

/-- What is to be done with a request, and the checks made to find out. -/
def decide (router : Router) (request : Request) : Decision × List Check :=
  let clean := Path.clean request.path
  if clean ≠ request.path then (.redirect request.path clean, [])
  else
    let resolution := router.resolve request
    let decision := match resolution.found with
      | none => .unmatched request
      | some m =>
        match m.route.settings.handler with
        | none => .unhandled m.route request
        | some handler => .run handler { request with vars := m.vars }
    (decision, resolution.checks)

/-- The response to a request. -/
def handle (router : Router) (request : Request) : Response :=
  (router.decide request).1.response

end Router

end RequestRouter
