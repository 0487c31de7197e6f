import Mathlib.Tactic
import RequestRouter.Proofs.Routing.Calls

/-!
# Factories, step by step

A factory carries out its directives on a route that is not in the tree yet, at the position that the
route is going to have, and adds the route only if none of them fails. An empty route that is added first
and configured in the tree, call by call, ends up the same: the directives see the same position, the same
settings and the same registry either way.

* `Site.callAll`, `Site.chain`: calls one after the other, and those that add and configure a route.
* `Site.addAfter`: a route that enters the tree after some of its directives.
* `Router.replaceAt_push`: a new route that is replaced might as well have been added as it is then.
* `Site.callAll_configure`: the directives of a new route, carried out in the tree.
* `Site.Refines`, `Site.FactoriesRefine`: **the calls that each factory stands for**, written out.
* `factories_refine_builder`: **every factory does what its calls do**.
-/

namespace RequestRouter

/-! ### Replacing a new route -/

namespace Route

variable {route new newer old : Route} {routes : List Route}

theorem withNested_withNested (routes' : List Route) :
    (route.withNested routes).withNested routes' = route.withNested routes' := by
  cases route
  rfl

/-- A replacement below the place of another one is part of that one. -/
theorem replaceAt_append {path : List Nat} (below : List Nat) (h : route.at? path = some old) :
    replaceAt newer (path ++ below) (replaceAt new path route) =
      replaceAt (replaceAt newer below new) path route := by
  induction path generalizing route with
  | nil => rfl
  | cons i path ih =>
    obtain ⟨inner, hnested, h⟩ := Option.bind_eq_some_iff.1 h
    rw [atIn?_cons] at h
    obtain ⟨next, hnext, h⟩ := Option.bind_eq_some_iff.1 h
    rw [replaceAt_cons hnested, replaceAt_cons hnested, List.cons_append,
      replaceAt_cons nested_withNested, withNested_withNested, List.modify_modify_eq,
      modify_eq_set hnext, modify_eq_set hnext, Function.comp_apply, ih h]

/-- The last of several routes, replaced. -/
theorem modify_concat :
    (routes ++ [new]).modify routes.length (replaceAt newer []) = routes ++ [newer] := by
  induction routes with
  | nil => rfl
  | cons route routes ih =>
    rw [List.cons_append, List.length_cons, List.modify_succ_cons, ih, List.cons_append]

end Route

namespace Router

variable {router inner : Router} {path : List Nat} {new newer old : Route}

/-- A replacement below the place of another one is part of that one. -/
theorem replaceAt_append (below : List Nat) (h : router.routeAt? path = some old) :
    replaceAt newer (path ++ below) (replaceAt new path router) =
      replaceAt (Route.replaceAt newer below new) path router := by
  cases path with
  | nil => cases h
  | cons i path =>
    rw [routeAt?, Route.atIn?_cons] at h
    obtain ⟨next, hnext, h⟩ := Option.bind_eq_some_iff.1 h
    rw [List.cons_append, replaceAt, replaceAt, replaceAt]
    simp only [List.modify_modify_eq]
    rw [Route.modify_eq_set hnext, Route.modify_eq_set hnext, Function.comp_apply,
      Route.replaceAt_append below h]

/-- **A new route that is replaced** might as well have been added as it is then. -/
theorem replaceAt_push (h : router.routerAt? path = some inner) :
    replaceAt newer (path ++ [inner.routes.length]) (router.push new path) =
      router.push newer path := by
  rcases routerAt?_eq_some h with ⟨rfl, rfl⟩ | ⟨owner, howner, hnested, -⟩
  · rw [push, push, List.nil_append, replaceAt, Route.modify_concat]
  · rw [push_eq_replaceAt howner hnested, push_eq_replaceAt howner hnested,
      replaceAt_append _ howner, Route.replaceAt_cons Route.nested_withNested, Route.modify_concat,
      Route.withNested_withNested]

/-- A router with one more route. -/
theorem routerAt?_push_self (h : router.routerAt? path = some inner) :
    (router.push new path).routerAt? path = some ⟨inner.position, inner.routes ++ [new]⟩ := by
  rcases routerAt?_eq_some h with ⟨rfl, rfl⟩ | ⟨owner, howner, hnested, hposition⟩
  · rfl
  · rw [push_eq_replaceAt howner hnested, routerAt?, routeAt?_replaceAt_self howner,
      Option.bind_some, Route.router?, Route.nested_withNested, Route.position_withNested, hposition]
    · rfl
    · exact path_ne_nil howner

end Router

/-! ### Calls one after the other -/

namespace Site

/-- Calls one after the other, up to the first that fails. -/
def callAll (site : Site) : List Call → Except RouterError Unit × Site
  | [] => (.ok (), site)
  | c :: rest =>
    match site.call c with
    | (.ok _, next) => next.callAll rest
    | (.error e, next) => (.error e, next)

/-- The calls that add an empty route to the router at `path`, which has `n` routes, and configure it in
the tree. -/
def chain (path : List Nat) (n : Nat) (directives : List Directive) : List Call :=
  .add path .empty :: directives.map (.configure (path ++ [n]))

/-- What becomes of a new route of a router: it is added with its settings, unless a directive has
failed. -/
def settled (site : Site) (path : List Nat) (router : Router) :
    Except RouterError Settings × Registry → Except RouterError Unit × Site
  | (.ok settings, registry) =>
    (.ok (), ⟨site.root.push (.mk router.next settings none) path, registry⟩)
  | (.error e, registry) => (.error e, ⟨site.root, registry⟩)

/-- A route that enters the tree once its `early` directives have been carried out, and is configured by
the `late` ones there. -/
def addAfter (site : Site) (path : List Nat) (early late : List Directive) :
    Except RouterError Unit × Site :=
  match site.root.routerAt? path with
  | none => (.ok (), site)
  | some router =>
    match site.settled path router ((Router.settle router.next early).run site.registry) with
    | (.ok _, next) => next.callAll (late.map (.configure (path ++ [router.routes.length])))
    | (.error e, next) => (.error e, next)

/-- Two ways agree: both fail with the same error, or both lead to the same tree, table of names and
log. -/
def Agree (a b : Except RouterError Unit × Site) : Prop :=
  a.1 = b.1 ∧ (a.1 = .ok () → a.2 = b.2)

variable {site : Site} {path : List Nat} {router : Router}

theorem addAfter_eq (hrouter : site.root.routerAt? path = some router)
    (early late : List Directive) : site.addAfter path early late =
      match site.settled path router ((Router.settle router.next early).run site.registry) with
      | (.ok _, next) => next.callAll (late.map (.configure (path ++ [router.routes.length])))
      | (.error e, next) => (.error e, next) := by
  rw [addAfter, hrouter]

theorem call_add (factory : Factory) (hrouter : site.root.routerAt? path = some router) :
    site.call (.add path factory) =
      site.settled path router ((Router.settle router.next factory.directives).run site.registry) := by
  rw [call_eq_of_map (edit_add_push factory hrouter)]
  rcases (Router.settle router.next factory.directives).run site.registry with ⟨_ | _, _⟩ <;> rfl

/-- A directive for a new route in the tree does the same as it does apart from it. -/
theorem call_configure_push (hrouter : site.root.routerAt? path = some router) (settings : Settings)
    (registry : Registry) (d : Directive) :
    call ⟨site.root.push (.mk router.next settings none) path, registry⟩
        (.configure (path ++ [router.routes.length]) d) =
      match (d.apply router.next settings).run registry with
      | (.ok settings, registry) =>
        (.ok (), ⟨site.root.push (.mk router.next settings none) path, registry⟩)
      | (.error e, registry') =>
        (.error e, ⟨site.root.push (.mk router.next settings none) path, registry'⟩) := by
  let grown : Site := ⟨site.root.push (.mk router.next settings none) path, registry⟩
  have hroute : grown.root.routeAt? (path ++ [router.routes.length]) =
      some (.mk router.next settings none) := Router.routeAt?_push_self hrouter
  have hcall := call_eq_of_map (edit_configure d hroute)
  simp only [grown, Router.replaceAt_push hrouter] at hcall
  rw [hcall, Route.position, Route.settings]
  rcases (d.apply router.next settings).run registry with ⟨_ | _, _⟩ <;> rfl

/-- **The directives of a new route** do the same in the tree as they do apart from it. -/
theorem callAll_configure (hrouter : site.root.routerAt? path = some router) (settings : Settings)
    (registry : Registry) (directives : List Directive) :
    Agree (site.settled path router ((directives.foldlM (fun settings (d : Directive) =>
        d.apply router.next settings) settings).run registry))
      (callAll ⟨site.root.push (.mk router.next settings none) path, registry⟩
        (directives.map (.configure (path ++ [router.routes.length])))) := by
  induction directives generalizing settings registry with
  | nil => exact ⟨rfl, fun _ => rfl⟩
  | cons d rest ih =>
    rw [List.foldlM_cons, Setup.run_bind, List.map_cons, callAll, call_configure_push hrouter]
    rcases (d.apply router.next settings).run registry with ⟨e | settings', registry'⟩
    · exact ⟨rfl, fun h => by cases h⟩
    · exact ih settings' registry'

/-- A factory agrees with its directives in two parts, between which the route enters the tree. -/
theorem agree_addAfter (hrouter : site.root.routerAt? path = some router) {factory : Factory}
    {early late : List Directive} (h : factory.directives = early ++ late) :
    Agree (site.call (.add path factory)) (site.addAfter path early late) := by
  have hsettle : Router.settle router.next (early ++ late) =
      Router.settle router.next early >>= fun settings =>
        late.foldlM (fun settings (d : Directive) => d.apply router.next settings) settings :=
    List.foldlM_append
  rw [call_add factory hrouter, h, hsettle, Setup.run_bind, addAfter_eq hrouter]
  rcases hrun : (Router.settle router.next early).run site.registry with ⟨e | settings, registry⟩
  · exact ⟨rfl, fun _ => rfl⟩
  · exact callAll_configure hrouter settings registry late

/-- An empty route that is added and then configured enters the tree before all directives. -/
theorem callAll_chain (hrouter : site.root.routerAt? path = some router)
    (directives : List Directive) :
    site.callAll (chain path router.routes.length directives) = site.addAfter path [] directives := by
  rw [chain, callAll, call_add .empty hrouter, addAfter, hrouter]
  rfl

/-- The route that a factory adds is the last of its router, with the settings that its directives make. -/
theorem added_of_call (hrouter : site.root.routerAt? path = some router) {factory : Factory}
    (h : (site.call (.add path factory)).1 = .ok ()) :
    ∃ settings, factory.directives.foldlM Settings.after .empty = .ok settings ∧
      (site.call (.add path factory)).2.root.routeAt? (path ++ [router.routes.length]) =
        some (.mk router.next settings none) ∧
      (site.call (.add path factory)).2.root.routerAt? path =
        some ⟨router.position, router.routes ++ [.mk router.next settings none]⟩ := by
  rw [call_add factory hrouter] at h ⊢
  rcases hrun : (Router.settle router.next factory.directives).run site.registry with
    ⟨e | settings, registry⟩
  · rw [hrun] at h
    cases h
  · exact ⟨settings, Directive.after_of_foldlM hrun, Router.routeAt?_push_self hrouter,
      Router.routerAt?_push_self hrouter⟩

/-! ### Every factory -/

/-- A factory does what an empty route does that is added to the same router and configured in the tree,
up to the first call that fails. -/
structure Refines (site : Site) (path : List Nat) (router : Router) (factory : Factory)
    (directives : List Directive) : Prop where
  agree : Agree (site.call (.add path factory))
    (site.callAll (chain path router.routes.length directives))
  /-- The same holds if the route enters the tree after any number of the directives. -/
  agree_addAfter : ∀ early late, directives = early ++ late →
    Agree (site.call (.add path factory)) (site.addAfter path early late)
  /-- The new route is the last of its router, with the settings that the directives make. -/
  added : (site.call (.add path factory)).1 = .ok () →
    ∃ settings route, directives.foldlM Settings.after .empty = .ok settings ∧
      route = .mk (router.position ++ [router.routes.length]) settings none ∧
      (site.call (.add path factory)).2.root.routeAt? (path ++ [router.routes.length]) =
        some route ∧
      (site.call (.add path factory)).2.root.routerAt? path =
        some ⟨router.position, router.routes ++ [route]⟩

/-- **The calls that each factory stands for.** Those of one setting make one call for it, a route with a
handler is given its path first, and one of a method is given the path, the method and the handler. -/
structure FactoriesRefine (site : Site) (place : List Nat) (router : Router) : Prop where
  /-- A route without settings, at the position after those of the router. -/
  empty : site.call (.add place .empty) =
    (.ok (), ⟨site.root.push (.mk (router.position ++ [router.routes.length]) .empty none) place,
      site.registry⟩)
  name : ∀ n, site.Refines place router (.name n) [.name n]
  host : ∀ template, site.Refines place router (.host template) [.host template]
  path : ∀ template, site.Refines place router (.path template) [.path template]
  pathPrefix : ∀ template, site.Refines place router (.pathPrefix template) [.pathPrefix template]
  methods : ∀ names, site.Refines place router (.methods names) [.methods names]
  schemes : ∀ names, site.Refines place router (.schemes names) [.schemes names]
  headers : ∀ args, site.Refines place router (.headers args) [.headers args]
  queries : ∀ args, site.Refines place router (.queries args) [.queries args]
  matcher : ∀ m, site.Refines place router (.matcher m) [.matcher m]
  route : ∀ template handler, site.Refines place router (.route template handler)
    [.path template, .handler handler]
  get : ∀ template handler, site.Refines place router (.get template handler)
    [.path template, .methods ["GET"], .handler handler]
  post : ∀ template handler, site.Refines place router (.post template handler)
    [.path template, .methods ["POST"], .handler handler]
  put : ∀ template handler, site.Refines place router (.put template handler)
    [.path template, .methods ["PUT"], .handler handler]
  patch : ∀ template handler, site.Refines place router (.patch template handler)
    [.path template, .methods ["PATCH"], .handler handler]
  delete : ∀ template handler, site.Refines place router (.delete template handler)
    [.path template, .methods ["DELETE"], .handler handler]

/-- A factory refines the directives that it carries out. -/
theorem refines_of_directives (hrouter : site.root.routerAt? path = some router) {factory : Factory}
    {directives : List Directive} (h : factory.directives = directives) :
    site.Refines path router factory directives where
  agree := by
    rw [callAll_chain hrouter]
    exact agree_addAfter hrouter (h.trans (List.nil_append _).symm)
  agree_addAfter := fun _ _ hparts => agree_addAfter hrouter (h.trans hparts)
  added := fun hok => by
    obtain ⟨settings, hsettings, hroute, hrouter'⟩ := added_of_call hrouter hok
    rw [h] at hsettings
    exact ⟨settings, _, hsettings, rfl, hroute, hrouter'⟩

/-- **Every factory does what its calls do.** It fails if and only if one of them does, and with the error
of the first that fails. If none fails, then the factory and the calls lead to the same tree, the same
table of names and the same log, and the new route is the last of its router and has the settings that the
calls make. The same holds if the route enters the tree after any number of the calls that configure it. -/
theorem factories_refine_builder (site : Site) (path : List Nat) (router : Router)
    (hrouter : site.root.routerAt? path = some router) : site.FactoriesRefine path router where
  empty := call_add .empty hrouter
  -- what a factory carries out is compared with the calls that are written out for it
  name := fun _ => refines_of_directives hrouter rfl
  host := fun _ => refines_of_directives hrouter rfl
  path := fun _ => refines_of_directives hrouter rfl
  pathPrefix := fun _ => refines_of_directives hrouter rfl
  methods := fun _ => refines_of_directives hrouter rfl
  schemes := fun _ => refines_of_directives hrouter rfl
  headers := fun _ => refines_of_directives hrouter rfl
  queries := fun _ => refines_of_directives hrouter rfl
  matcher := fun _ => refines_of_directives hrouter rfl
  route := fun _ _ => refines_of_directives hrouter rfl
  get := fun _ _ => refines_of_directives hrouter rfl
  post := fun _ _ => refines_of_directives hrouter rfl
  put := fun _ _ => refines_of_directives hrouter rfl
  patch := fun _ _ => refines_of_directives hrouter rfl
  delete := fun _ _ => refines_of_directives hrouter rfl

/-- In a nested router that has a route: a factory with three calls adds the next one, with the whole site
as the calls leave it, and a factory with a name that is taken fails, as its call does. -/
theorem factories_refine_builder_nested : ∃ site router,
    site = Site.empty.afterCalls [.add [] (.name "home"), .openNested [0], .add [0] .empty] ∧
      site.root.routerAt? [0] = some router ∧ site.FactoriesRefine [0] router ∧
      (site.call (.add [0] (.get "/{id}" fun _ => .ok))).1 = .ok () ∧
      site.call (.add [0] (.get "/{id}" fun _ => .ok)) =
        site.callAll [.add [0] .empty, .configure [0, 1] (.path "/{id}"),
          .configure [0, 1] (.methods ["GET"]), .configure [0, 1] (.handler fun _ => .ok)] ∧
      (site.call (.add [0] (.name "home"))).1 = .error (.duplicateRouteName "home") ∧
      (site.callAll [.add [0] .empty, .configure [0, 1] (.name "home")]).1 =
        .error (.duplicateRouteName "home") := by
  have hrouter : (Site.empty.afterCalls [.add [] (.name "home"), .openNested [0],
      .add [0] .empty]).root.routerAt? [0] = some ⟨[0], [.mk [0, 0] .empty none]⟩ := rfl
  have hrefines := factories_refine_builder _ _ _ hrouter
  have hget := (hrefines.get "/{id}" fun _ => .ok).agree
  have hname := (hrefines.name "home").agree
  have hok : ((Site.empty.afterCalls [.add [] (.name "home"), .openNested [0],
      .add [0] .empty]).call (.add [0] (.get "/{id}" fun _ => .ok))).1 = .ok () := by
    decide +kernel
  have htaken : ((Site.empty.afterCalls [.add [] (.name "home"), .openNested [0],
      .add [0] .empty]).call (.add [0] (.name "home"))).1 = .error (.duplicateRouteName "home") := rfl
  exact ⟨_, _, rfl, hrouter, hrefines, hok, Prod.ext hget.1 (hget.2 hok), htaken,
    hname.1.symm.trans htaken⟩

end Site

end RequestRouter
