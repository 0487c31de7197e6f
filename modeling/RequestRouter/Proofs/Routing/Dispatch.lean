import RequestRouter.Proofs.Routing.Redirects
import RequestRouter.Proofs.Routing.RoundTrip

/-!
# Which handler is called

A router calls at most one handler for a request: that of the route that the request is resolved to, which
has no nested router. Whether a handler was called cannot be seen of a response, so calling one is taken as
an effect here, of which nothing is known: what a router does with a request is then the very call, or no
effect at all.

That no other handler matters is also seen by replacing handlers. Resolution does not ask for them, so a
tree with other handlers resolves a request to the same place.

* `Router.handleWith`: what a router does with a request, where `call` calls a handler.
* `Router.withHandlers`: the tree with other handlers.
* `resolve_withHandlers`: **handlers do not take part in resolution.**
* `leaf_of_resolve`: the route of a match has no nested router.
* `calls_one_handler`: **one handler is called at most**, with the variables of the match.
-/

namespace RequestRouter

variable {request : Request} {route : Route} {router : Router} {found : Match}
  {handlers : Route → Option Handler}

/-! ### Calling a handler as an effect -/

/-- What is done with a request, where `call` calls a handler. -/
def Decision.carryOut {m : Type → Type} [Monad m] (call : Handler → Request → m Response) :
    Decision → m Response
  | run handler request => call handler request
  | decision => pure decision.response

/-- What a router does with a request, where `call` calls a handler. -/
def Router.handleWith {m : Type → Type} [Monad m] (call : Handler → Request → m Response)
    (router : Router) (request : Request) : m Response :=
  (router.decide request).1.carryOut call

/-- The response to a request is that of carrying out what is to be done, with nothing but the call. -/
theorem Router.handle_eq_handleWith (router : Router) (request : Request) :
    router.handle request =
      Id.run (router.handleWith (fun handler request => pure (handler request)) request) := by
  unfold handle handleWith
  cases (router.decide request).1 <;> rfl

/-! ### Trees with other handlers -/

mutual

/-- A route with other handlers, its own and those of the routes nested in it. -/
def Route.withHandlers (handlers : Route → Option Handler) : Route → Route
  | .mk position settings nested =>
    .mk position { settings with handler := handlers (.mk position settings nested) }
      (match nested with
        | none => none
        | some routes => some (Route.allWithHandlers handlers routes))

/-- Several routes with other handlers. -/
def Route.allWithHandlers (handlers : Route → Option Handler) : List Route → List Route
  | [] => []
  | route :: rest => route.withHandlers handlers :: Route.allWithHandlers handlers rest

end

/-- **The tree with other handlers**: `handlers` says which handler each of its routes has. -/
def Router.withHandlers (handlers : Route → Option Handler) (router : Router) : Router :=
  { router with routes := Route.allWithHandlers handlers router.routes }

/-- What resolving a request comes to in the tree with other handlers. -/
def Resolution.withHandlers (handlers : Route → Option Handler) (resolution : Resolution) :
    Resolution :=
  ⟨resolution.found.map fun m => ⟨m.route.withHandlers handlers, m.vars⟩, resolution.checks⟩

theorem Route.handler_withHandlers (handlers : Route → Option Handler) (route : Route) :
    (route.withHandlers handlers).settings.handler = handlers route := by
  obtain ⟨position, settings, _ | routes⟩ := route <;> rw [withHandlers] <;> rfl

theorem Settings.extract?_handler (settings : Settings) (handler : Option Handler) :
    Settings.extract? { settings with handler } request = settings.extract? request := rfl

/-- A route without a nested router is resolved with other handlers as before. -/
theorem Route.resolve_withHandlers_leaf (position : Position) (settings : Settings) :
    ((mk position settings none).withHandlers handlers).resolve request =
      ((mk position settings none).resolve request).withHandlers handlers := by
  rw [withHandlers, resolve, resolve, Settings.extract?_handler]
  cases settings.extract? request with
  | none => rfl
  | some vars =>
    simp only
    split
    · rw [Resolution.withHandlers, Option.map_some, withHandlers]
    · rfl

/-- A route with a nested router is, if the nested router is. -/
theorem Route.resolve_withHandlers_nested {position : Position} {settings : Settings}
    {routes : List Route} (h : resolveFirst request (allWithHandlers handlers routes) =
      (resolveFirst request routes).withHandlers handlers) :
    ((mk position settings (some routes)).withHandlers handlers).resolve request =
      ((mk position settings (some routes)).resolve request).withHandlers handlers := by
  rw [withHandlers, resolve, resolve, Settings.extract?_handler]
  cases settings.extract? request with
  | none => rfl
  | some vars =>
    simp only
    split
    · rw [h]
      simp only [Resolution.withHandlers, Option.map_map]
      rfl
    · rfl

mutual

/-- **One route** is resolved with other handlers as before. -/
theorem Route.resolve_withHandlers (handlers : Route → Option Handler) (request : Request) :
    ∀ route : Route, (route.withHandlers handlers).resolve request =
      (route.resolve request).withHandlers handlers
  | .mk position settings none => resolve_withHandlers_leaf position settings
  | .mk _ _ (some routes) =>
    resolve_withHandlers_nested (Route.resolveFirst_withHandlers handlers request routes)

/-- **Several routes** are resolved with other handlers as before. -/
theorem Route.resolveFirst_withHandlers (handlers : Route → Option Handler) (request : Request) :
    ∀ routes : List Route, Route.resolveFirst request (Route.allWithHandlers handlers routes) =
      (Route.resolveFirst request routes).withHandlers handlers
  | [] => rfl
  | route :: rest => by
    have hroute := Route.resolve_withHandlers handlers request route
    have hrest := Route.resolveFirst_withHandlers handlers request rest
    rw [Route.allWithHandlers, Route.resolveFirst, Route.resolveFirst, hroute, hrest]
    cases hfound : (route.resolve request).found with
    | some m => simp only [Resolution.withHandlers, hfound, Option.map_some]
    | none => simp only [Resolution.withHandlers, hfound, Option.map_none]

end

namespace Router

/-- **Handlers do not take part in resolution.** -/
theorem resolve_withHandlers (handlers : Route → Option Handler) (router : Router)
    (request : Request) : (router.withHandlers handlers).resolve request =
      (router.resolve request).withHandlers handlers :=
  Route.resolveFirst_withHandlers handlers request router.routes

/-! ### Decisions -/

section Decisions

variable {m : Type → Type} [Monad m] (call : Handler → Request → m Response)

/-- A request whose path is not canonical is redirected, without a look at the routes. -/
theorem decide_of_unclean (h : Path.clean request.path ≠ request.path) :
    router.decide request = (.redirect request.path (Path.clean request.path), []) := by
  unfold decide
  simp only
  rw [if_pos h]

/-- **What is done with a request** whose path is canonical. -/
theorem handleWith_of_clean (h : Path.clean request.path = request.path) :
    router.handleWith call request = match (router.resolve request).found with
      | none => pure .notFound
      | some found => match found.route.settings.handler with
        | none => pure .notFound
        | some handler => call handler { request with vars := found.vars } := by
  unfold handleWith decide
  simp only
  rw [if_neg (not_not_intro h)]
  cases (router.resolve request).found with
  | none => rfl
  | some found =>
    simp only
    cases found.route.settings.handler <;> rfl

/-- **Only one handler matters**: that of the route that the request is resolved to. -/
theorem handleWith_withHandlers (h : ∀ found, (router.resolve request).found = some found →
      handlers found.route = found.route.settings.handler) :
    (router.withHandlers handlers).handleWith call request = router.handleWith call request := by
  by_cases hclean : Path.clean request.path = request.path
  · rw [handleWith_of_clean call hclean, handleWith_of_clean call hclean, resolve_withHandlers]
    unfold Resolution.withHandlers
    cases hfound : (router.resolve request).found with
    | none => rfl
    | some found => simp only [Option.map_some, Route.handler_withHandlers, h found hfound]
  · unfold handleWith
    rw [decide_of_unclean hclean, decide_of_unclean hclean]

end Decisions

/-! ### The route of a match -/

theorem leaf_of_chain {path : List Nat} {chain : List Route} (h : route.Chain path chain) :
    ∀ last, chain.getLast? = some last → last.nested = none := by
  induction h with
  | last hnested =>
    rintro last ⟨⟩
    exact hnested
  | @inner route next routes i path chain hnested hi hnext ih =>
    intro last hlast
    refine ih last ?_
    cases hnext <;> exact hlast

/-- **The route of a match** is in the tree, and has no nested router. -/
theorem leaf_of_resolve (h : (router.resolve request).found = some found) :
    (∃ path, router.routeAt? path = some found.route) ∧ found.route.nested = none := by
  refine ⟨(vars_of_resolve h).1, ?_⟩
  obtain ⟨-, hfirst⟩ := router.resolve_eq_first_chain request
  obtain ⟨path, chain, ⟨i, below, next, -, -, hnext⟩, -, -, hlast, -⟩ := hfirst found h
  exact leaf_of_chain hnext found.route hlast

/-- **One handler is called at most.** A request whose path is not canonical is redirected to its canonical
form: no matcher is asked and no handler called. Any other that no route matches, or one without a handler,
is answered with status 404, and no handler is called. Otherwise the handler of the route that the request
is resolved to is called once, on the request with the variables of the match in the place of all that it
had, and what it answers is the answer. The route has no nested router, and no other handler matters, so
those of routes with a nested router are never called. -/
theorem calls_one_handler (router : Router) (request : Request) :
    (Path.clean request.path ≠ request.path →
      (router.decide request).2 = [] ∧
      ((router.handle request).status = 301 ∧
        (router.handle request).headers.get? "Location" = some (Path.clean request.path)) ∧
      ∀ (m : Type → Type) [Monad m] (call : Handler → Request → m Response),
        router.handleWith call request = pure (.redirectPermanent (Path.clean request.path))) ∧
    (Path.clean request.path = request.path →
      (∀ found, (router.resolve request).found = some found → found.route.settings.handler = none) →
        (router.handle request).status = 404 ∧
        ∀ (m : Type → Type) [Monad m] (call : Handler → Request → m Response),
          router.handleWith call request = pure .notFound) ∧
    (Path.clean request.path = request.path → ∀ found handler,
      (router.resolve request).found = some found → found.route.settings.handler = some handler →
        ((∃ path, router.routeAt? path = some found.route) ∧ found.route.nested = none) ∧
        router.handle request = handler { request with vars := found.vars } ∧
        ∀ (m : Type → Type) [Monad m] (call : Handler → Request → m Response),
          router.handleWith call request = call handler { request with vars := found.vars }) ∧
    ∀ handlers : Route → Option Handler,
      (∀ found, (router.resolve request).found = some found →
          handlers found.route = found.route.settings.handler) ∨
        (∀ path route, router.routeAt? path = some route → route.nested = none →
          handlers route = route.settings.handler) →
      (router.withHandlers handlers).handle request = router.handle request ∧
      ∀ (m : Type → Type) [Monad m] (call : Handler → Request → m Response),
        (router.withHandlers handlers).handleWith call request = router.handleWith call request := by
  refine ⟨?redirected, ?refused, ?called, ?others⟩
  case redirected =>
    intro hclean
    have hwith : ∀ (m : Type → Type) [Monad m] (call : Handler → Request → m Response),
        router.handleWith call request = pure (.redirectPermanent (Path.clean request.path)) := by
      intro m _ call
      unfold handleWith
      rw [decide_of_unclean hclean]
      rfl
    refine ⟨by rw [decide_of_unclean hclean], ?_, hwith⟩
    rw [handle_eq_handleWith, hwith]
    exact ⟨rfl, rfl⟩
  case refused =>
    intro hclean hnone
    have hwith : ∀ (m : Type → Type) [Monad m] (call : Handler → Request → m Response),
        router.handleWith call request = pure .notFound := by
      intro m _ call
      rw [handleWith_of_clean call hclean]
      cases hfound : (router.resolve request).found with
      | none => rfl
      | some found => simp only [hnone found hfound]
    refine ⟨?_, hwith⟩
    rw [handle_eq_handleWith, hwith]
    rfl
  case called =>
    intro hclean found handler hfound hhandler
    have hwith : ∀ (m : Type → Type) [Monad m] (call : Handler → Request → m Response),
        router.handleWith call request = call handler { request with vars := found.vars } := by
      intro m _ call
      rw [handleWith_of_clean call hclean, hfound]
      simp only [hhandler]
    refine ⟨leaf_of_resolve hfound, ?_, hwith⟩
    rw [handle_eq_handleWith, hwith]
    rfl
  case others =>
    intro handlers h
    have hfound : ∀ found, (router.resolve request).found = some found →
        handlers found.route = found.route.settings.handler := by
      rcases h with h | h
      · exact h
      · intro found hfound
        obtain ⟨⟨path, hpath⟩, hleaf⟩ := leaf_of_resolve hfound
        exact h path found.route hpath hleaf
    refine ⟨?_, fun m _ call => handleWith_withHandlers call hfound⟩
    rw [handle_eq_handleWith, handle_eq_handleWith]
    exact congrArg Id.run (handleWith_withHandlers _ hfound)

/-- A nested route with a handler, before one without: the handlers of the route around them and of a later
one that would match as well are not called, and what the request carried as variables is gone. -/
theorem calls_one_handler_nested : ∃ router : Router,
    (router.handle (.new .get "/a//b")).status = 301 ∧
    (router.handle (.new .get "/a/b/c")).status = 404 ∧
    (∃ found handler,
      (router.resolve { Request.new .get "/a/b" with vars := ⟨[("y", "1")]⟩ }).found = some found ∧
      found.route.settings.handler = some handler ∧ found.vars = ⟨[("x", "b")]⟩ ∧
      router.handle { Request.new .get "/a/b" with vars := ⟨[("y", "1")]⟩ } =
        handler { Request.new .get "/a/b" with vars := ⟨[("x", "b")]⟩ }) ∧
    (router.withHandlers fun route => if route.nested = none then route.settings.handler else none).handle
      (.new .get "/a/b") = router.handle (.new .get "/a/b") := by
  have hsome : ((Site.empty.afterCalls [.add [] (.route "/z" fun _ => .new 500), .openNested [0],
      .configure [0] (.pathPrefix "/a"), .add [0] (.route "/a/{x}" fun _ => .ok),
      .add [0] (.path "/a/b/c"), .add [] (.route "/a/{x}/c" fun _ => .new 500)]).root.resolve
        { Request.new .get "/a/b" with vars := ⟨[("y", "1")]⟩ }).found.any (fun found =>
          found.route.settings.handler.isSome && found.vars == ⟨[("x", "b")]⟩) = true := by
    decide +kernel
  have hnone : ((Site.empty.afterCalls [.add [] (.route "/z" fun _ => .new 500), .openNested [0],
      .configure [0] (.pathPrefix "/a"), .add [0] (.route "/a/{x}" fun _ => .ok),
      .add [0] (.path "/a/b/c"), .add [] (.route "/a/{x}/c" fun _ => .new 500)]).root.resolve
        (.new .get "/a/b/c")).found.all (fun found => found.route.settings.handler.isNone) = true := by
    decide +kernel
  generalize (Site.empty.afterCalls _).root = router at hsome hnone
  obtain ⟨found, hfound, hchecks⟩ := (Option.any_eq_true _ _).1 hsome
  rw [Bool.and_eq_true, beq_iff_eq] at hchecks
  obtain ⟨handler, hhandler⟩ := Option.isSome_iff_exists.1 hchecks.1
  obtain ⟨hredirected, -⟩ := calls_one_handler router (.new .get "/a//b")
  obtain ⟨-, hrefused, -⟩ := calls_one_handler router (.new .get "/a/b/c")
  obtain ⟨-, -, hcalled, -⟩ :=
    calls_one_handler router { Request.new .get "/a/b" with vars := ⟨[("y", "1")]⟩ }
  obtain ⟨-, -, -, hothers⟩ := calls_one_handler router (.new .get "/a/b")
  refine ⟨router, ?_, ?_, ⟨found, handler, hfound, hhandler, hchecks.2, ?_⟩, ?_⟩
  · exact (hredirected (by decide +kernel)).2.1.1
  · refine (hrefused (by decide +kernel) fun found hfound => ?_).1
    rw [hfound] at hnone
    exact Option.isNone_iff_eq_none.1 hnone
  · have hanswer := (hcalled (by decide +kernel) found handler hfound hhandler).2.1
    rw [hchecks.2] at hanswer
    exact hanswer
  · refine (hothers _ (Or.inr fun path route _ hleaf => ?_)).1
    rw [hleaf]
    rfl

end Router

end RequestRouter
