import Mathlib.Tactic
import RequestRouter.Routing.Site

/-!
# What a configuration call does to a tree

A call works on one route or router of a tree, and on the registry. It is described once, by where
the routes of the tree after it come from.

* `Setup.run_bind`, `Setup.run_register`, …: what configuration calls do to the registry.
* `Settings.after`, `Directive.apply_eq`: a directive works on the settings, and apart from them on
  the registry.
* `Settings.templates_of_after`: what a directive does to the templates of a route.
* `Route.at?`, `Route.replaceAt`, `Router.replaceAt`: the route that indices lead to, and another
  route in its place.
* `Router.editRoute_eq`, `Router.editRouter_eq`: a change is a replacement.
* `Site.Origin`, `origin_call`: **every route of a tree after a call** was in it before with the same
  position and settings, or was configured by the call, or was added by it.
* `isSome_routeAt?_call`: no call removes a route.
* `settings_afterCalls`: what directives keep holds of the settings of every route.
-/

namespace RequestRouter

/-! ### Configuration calls and the registry -/

namespace Setup

variable {α β : Type} (registry : Registry)

theorem run_bind (x : Setup α) (f : α → Setup β) : (x >>= f).run registry =
    match x.run registry with
    | (.ok a, registry') => (f a).run registry'
    | (.error e, registry') => (.error e, registry') := by
  have h : (x >>= f).run registry = StateT.bind x.run (ExceptT.bindCont f) registry := rfl
  rw [h, StateT.bind]
  rcases x.run registry with ⟨_ | _, _⟩ <;> rfl

theorem run_map (f : α → β) (x : Setup α) :
    (f <$> x).run registry = ((x.run registry).1.map f, (x.run registry).2) := by
  have h : (f <$> x).run registry = (x >>= fun a => pure (f a)).run registry := rfl
  rw [h, run_bind]
  rcases x.run registry with ⟨_ | _, _⟩ <;> rfl

theorem run_pure (a : α) : (pure a : Setup α).run registry = (.ok a, registry) := rfl

theorem run_report (event : Event) : (report event).run registry =
    (.ok (), { registry with events := registry.events ++ [event] }) := rfl

/-- A name is taken unless it is taken already. -/
theorem run_register (name : String) (position : Position) : (register name position).run registry =
    if (registry.names.find? name).isSome then (.error (.duplicateRouteName name), registry)
    else (.ok (), ⟨registry.names.insert name position,
      registry.events ++ [.nameRegistered name position]⟩) := by
  have h : (register name position).run registry = ((do
      if (registry.names.find? name).isSome then throw (.duplicateRouteName name)
      set { registry with names := registry.names.insert name position }
      report (.nameRegistered name position)) : Setup Unit).run registry := rfl
  rw [h]
  split <;> rfl

end Setup

/-! ### Directives -/

/-- What a directive does to the registry: only a name is put there. -/
def Directive.claim (position : Position) : Directive → Setup Unit
  | .name n => Setup.register n position
  | _ => pure ()

/-- What a directive makes of the settings of a route, if it fails neither here nor in the registry. -/
def Settings.after (settings : Settings) : Directive → Except RouterError Settings
  | .name n => .ok { settings with name := some n }
  | .host template => settings.withHost template
  | .path template =>
    if startsWithSlash template then settings.withPath template false
    else .error (.invalidPath template)
  | .pathPrefix template =>
    if startsWithSlash template then settings.withPath template true
    else .error (.invalidPathPrefix template)
  | .methods names => (Matcher.ofMethods names).map settings.withMatcher
  | .schemes names => (Matcher.ofSchemes names).map settings.withMatcher
  | .headers args => (Matcher.ofHeaders args).map settings.withMatcher
  | .queries args => (Matcher.ofQueries args).map settings.withMatcher
  | .matcher m => .ok (settings.withMatcher m)
  | .handler h => .ok { settings with handler := some h }

namespace Settings

variable {settings settings' : Settings}

theorem withHost_eq_ok {template : String} (h : settings.withHost template = .ok settings') :
    ∃ t, Template.compile template Template.defaultHostPattern false
        (varNames settings.path) = .ok t ∧
      settings' = { settings with host := some t } := by
  simp only [withHost, bind, Except.bind] at h
  split at h
  · cases h
  split at h
  · cases h
  rename_i t ht
  cases h
  exact ⟨t, ht, rfl⟩

theorem withPath_eq_ok {template : String} {isPrefix : Bool}
    (h : settings.withPath template isPrefix = .ok settings') :
    ∃ t, Template.compile template Template.defaultPathPattern isPrefix
        (varNames settings.host) = .ok t ∧
      settings' = { settings with path := some t } := by
  simp only [withPath, bind, Except.bind] at h
  split at h
  · cases h
  rename_i t ht
  cases h
  exact ⟨t, ht, rfl⟩

theorem map_withMatcher_eq_ok {result : Except RouterError Matcher}
    (h : result.map settings.withMatcher = .ok settings') :
    ∃ m, settings' = settings.withMatcher m := by
  cases result with
  | error e => cases h
  | ok m =>
    cases h
    exact ⟨m, rfl⟩

/-- **What a directive does to the templates**: nothing, or it compiles another one for the host, or
for the path, where it starts with a slash. -/
theorem templates_of_after {d : Directive} (h : settings.after d = .ok settings') :
    (settings'.host = settings.host ∧ settings'.path = settings.path) ∨
    (∃ template t, Template.compile template Template.defaultHostPattern false
        (varNames settings.path) = .ok t ∧
      settings' = { settings with host := some t }) ∨
    ∃ template isPrefix t, startsWithSlash template = true ∧
      Template.compile template Template.defaultPathPattern isPrefix
        (varNames settings.host) = .ok t ∧
      settings' = { settings with path := some t } := by
  cases d with
  | name n | matcher m | handler f =>
    cases h
    exact Or.inl ⟨rfl, rfl⟩
  | host template => exact Or.inr (Or.inl ⟨template, withHost_eq_ok h⟩)
  | path template | pathPrefix template =>
    rw [after] at h
    split at h
    · rename_i hslash
      obtain ⟨t, ht, heq⟩ := withPath_eq_ok h
      exact Or.inr (Or.inr ⟨template, _, t, hslash, ht, heq⟩)
    · cases h
  | methods names | schemes names | headers args | queries args =>
    obtain ⟨m, rfl⟩ := map_withMatcher_eq_ok h
    exact Or.inl ⟨rfl, rfl⟩

end Settings

section Directive

variable {position : Position} {settings settings' : Settings} {registry registry' : Registry}

/-- **A directive** works on the registry first, and apart from it on the settings. -/
theorem Directive.apply_eq (d : Directive) : d.apply position settings = (do
    d.claim position
    Setup.ofExcept (settings.after d)) := by
  cases d with
  | path template | pathPrefix template =>
    simp only [Directive.apply, Settings.after]
    split <;> rfl
  | methods names =>
    rw [Settings.after, Directive.apply]
    cases Matcher.ofMethods names <;> rfl
  | schemes names =>
    rw [Settings.after, Directive.apply]
    cases Matcher.ofSchemes names <;> rfl
  | headers args =>
    rw [Settings.after, Directive.apply]
    cases Matcher.ofHeaders args <;> rfl
  | queries args =>
    rw [Settings.after, Directive.apply]
    cases Matcher.ofQueries args <;> rfl
  | _ => rfl

theorem Directive.run_apply (d : Directive) : (d.apply position settings).run registry =
    match (d.claim position).run registry with
    | (.ok _, registry') => (settings.after d, registry')
    | (.error e, registry') => (.error e, registry') := by
  rw [apply_eq, Setup.run_bind]
  rcases (d.claim position).run registry with ⟨_ | _, _⟩ <;> rfl

theorem Directive.after_of_apply {d : Directive}
    (h : (d.apply position settings).run registry = (.ok settings', registry')) :
    settings.after d = .ok settings' := by
  rw [run_apply] at h
  rcases hclaim : (d.claim position).run registry with ⟨_ | _, _⟩
  · rw [hclaim] at h
    cases h
  · rw [hclaim] at h
    exact congrArg Prod.fst h

/-- What directives make of settings, one after the other. -/
theorem Directive.after_of_foldlM {directives : List Directive}
    (h : (directives.foldlM (fun settings (d : Directive) => d.apply position settings)
      settings).run registry = (.ok settings', registry')) :
    directives.foldlM Settings.after settings = .ok settings' := by
  induction directives generalizing settings registry with
  | nil =>
    cases h
    rfl
  | cons d rest ih =>
    rw [List.foldlM_cons, Setup.run_bind] at h
    rcases hrun : (d.apply position settings).run registry with ⟨e | next, registry₁⟩
    · rw [hrun] at h
      cases h
    · rw [hrun] at h
      rw [List.foldlM_cons, after_of_apply hrun]
      exact ih h

end Directive

/-! ### The route that indices lead to -/

namespace Route

variable {route new old r : Route} {routes : List Route}

@[simp] theorem position_withNested : (route.withNested routes).position = route.position := by
  cases route; rfl

@[simp] theorem settings_withNested : (route.withNested routes).settings = route.settings := by
  cases route; rfl

@[simp] theorem nested_withNested : (route.withNested routes).nested = some routes := by
  cases route; rfl

theorem withNested_self (h : route.nested = some routes) : route.withNested routes = route := by
  cases route; cases h; rfl

@[simp] theorem position_withSettings {settings : Settings} :
    (route.withSettings settings).position = route.position := by
  cases route; rfl

@[simp] theorem settings_withSettings {settings : Settings} :
    (route.withSettings settings).settings = settings := by
  cases route; rfl

@[simp] theorem nested_withSettings {settings : Settings} :
    (route.withSettings settings).nested = route.nested := by
  cases route; rfl

theorem openNested_of_some (h : route.nested = some routes) : route.openNested = pure route := by
  rw [openNested, h]

theorem openNested_of_none (h : route.nested = none) : route.openNested = (do
    Setup.report (.nestedAttached route.position)
    return route.withNested []) := by
  rw [openNested, h]

/-- The route that indices lead to from a route, the route itself for no indices. -/
def at? (route : Route) : List Nat → Option Route
  | [] => some route
  | i :: path => route.nested.bind (atIn? (i :: path))

theorem atIn?_cons (i : Nat) (path : List Nat) (routes : List Route) :
    atIn? (i :: path) routes = routes[i]?.bind (·.at? path) := by
  rw [atIn?]
  cases routes[i]? with
  | none => rfl
  | some route =>
    cases path with
    | nil => rfl
    | cons next path =>
      simp only [Option.bind_some, at?]
      rfl

theorem at?_append (path below : List Nat) (route : Route) :
    route.at? (path ++ below) = (route.at? path).bind (·.at? below) := by
  induction path generalizing route with
  | nil => rfl
  | cons i path ih =>
    rw [List.cons_append, at?, at?, Option.bind_assoc]
    congr 1
    funext routes
    rw [atIn?_cons, atIn?_cons, Option.bind_assoc]
    congr 1
    funext next
    exact ih next

theorem atIn?_append {path : List Nat} (hpath : path ≠ []) (below : List Nat) :
    atIn? (path ++ below) routes = (atIn? path routes).bind (·.at? below) := by
  cases path with
  | nil => exact absurd rfl hpath
  | cons i path =>
    rw [List.cons_append, atIn?_cons, atIn?_cons, Option.bind_assoc]
    congr 1
    funext next
    exact at?_append path below next

/-- Another route where indices lead to. -/
def replaceAt (new : Route) : List Nat → Route → Route
  | [], _ => new
  | i :: path, route =>
    match route.nested with
    | none => route
    | some routes => route.withNested (routes.modify i (replaceAt new path))

theorem replaceAt_cons {inner : List Route} (hnested : route.nested = some inner) (i : Nat)
    (path : List Nat) :
    replaceAt new (i :: path) route = route.withNested (inner.modify i (replaceAt new path)) := by
  unfold replaceAt
  rw [hnested]

theorem replaceAt_cons_none (hnested : route.nested = none) (i : Nat) (path : List Nat) :
    replaceAt new (i :: path) route = route := by
  unfold replaceAt
  rw [hnested]

/-- A route of a list after a replacement below one of its routes. -/
theorem atIn?_modify {i j : Nat} {path below : List Nat}
    (h : atIn? (j :: below) (routes.modify i (replaceAt new path)) = some r) :
    (i = j ∧ ∃ route, routes[i]? = some route ∧ (replaceAt new path route).at? below = some r) ∨
      atIn? (j :: below) routes = some r := by
  rw [atIn?_cons, List.getElem?_modify] at h
  by_cases hij : i = j
  · subst hij
    left
    simp only [if_true] at h
    obtain ⟨_, hnew, h⟩ := Option.bind_eq_some_iff.1 h
    obtain ⟨route, hroute, rfl⟩ := Option.map_eq_some_iff.1 hnew
    exact ⟨rfl, route, hroute, h⟩
  · right
    rw [atIn?_cons]
    simpa [hij] using h

/-- **A route of a tree after a replacement** comes from the new route, or was there before with the
same position and settings. -/
theorem at?_replaceAt {path below : List Nat} (h : (replaceAt new path route).at? below = some r) :
    (∃ rest, below = path ++ rest ∧ new.at? rest = some r) ∨
      ∃ old, route.at? below = some old ∧ r.position = old.position ∧ r.settings = old.settings := by
  induction path generalizing route below with
  | nil => exact Or.inl ⟨below, rfl, h⟩
  | cons i path ih =>
    cases hnested : route.nested with
    | none =>
      rw [replaceAt_cons_none hnested] at h
      exact Or.inr ⟨r, h, rfl, rfl⟩
    | some inner =>
      rw [replaceAt_cons hnested] at h
      -- on the way to the place only nested routers change, beside it nothing does
      cases below with
      | nil =>
        cases h
        exact Or.inr ⟨route, rfl, position_withNested, settings_withNested⟩
      | cons j below =>
        rw [at?, nested_withNested, Option.bind_some] at h
        rcases atIn?_modify h with ⟨rfl, next, hnext, hr⟩ | hr
        · rcases ih hr with ⟨rest, rfl, hrest⟩ | ⟨old, hold, hsame⟩
          · exact Or.inl ⟨rest, rfl, hrest⟩
          · refine Or.inr ⟨old, ?_, hsame⟩
            rw [at?, hnested, Option.bind_some, atIn?_cons, hnext, Option.bind_some, hold]
        · refine Or.inr ⟨r, ?_, rfl, rfl⟩
          rw [at?, hnested, Option.bind_some, hr]

theorem atIn?_modify_self {i : Nat} {path below : List Nat} {next : Route}
    (h : routes[i]? = some next) :
    atIn? (i :: below) (routes.modify i (replaceAt new path)) = (replaceAt new path next).at? below := by
  rw [atIn?_cons, List.getElem?_modify, h]
  simp

/-- The new route is where it was put. -/
theorem at?_replaceAt_self {path : List Nat} (h : route.at? path = some old) :
    (replaceAt new path route).at? path = some new := by
  induction path generalizing route with
  | nil => rfl
  | cons i path ih =>
    obtain ⟨inner, hnested, h⟩ := Option.bind_eq_some_iff.1 h
    rw [atIn?_cons] at h
    obtain ⟨next, hnext, h⟩ := Option.bind_eq_some_iff.1 h
    rw [replaceAt_cons hnested, at?, nested_withNested, Option.bind_some, atIn?_modify_self hnext,
      ih h]

/-- **No route is lost** by a replacement, if none is lost below the new route. -/
theorem isSome_at?_replaceAt {path below : List Nat} (hold : route.at? path = some old)
    (hnew : ∀ rest, (old.at? rest).isSome → (new.at? rest).isSome)
    (h : (route.at? below).isSome) : ((replaceAt new path route).at? below).isSome := by
  induction path generalizing route below with
  | nil =>
    cases hold
    exact hnew below h
  | cons i path ih =>
    obtain ⟨inner, hnested, hold⟩ := Option.bind_eq_some_iff.1 hold
    rw [atIn?_cons] at hold
    obtain ⟨next, hnext, hold⟩ := Option.bind_eq_some_iff.1 hold
    rw [replaceAt_cons hnested]
    cases below with
    | nil => rfl
    | cons j below =>
      rw [at?, hnested, Option.bind_some] at h
      rw [at?, nested_withNested, Option.bind_some]
      by_cases hij : i = j
      · subst hij
        rw [atIn?_cons, hnext, Option.bind_some] at h
        rw [atIn?_modify_self hnext]
        exact ih hold h
      · rw [atIn?_cons] at h
        rw [atIn?_cons, List.getElem?_modify]
        simpa [hij] using h

/-- A route of a list is in its place after one more route. -/
theorem isSome_atIn?_concat {path : List Nat} (h : (atIn? path routes).isSome) :
    (atIn? path (routes ++ [new])).isSome := by
  cases path with
  | nil => cases h
  | cons i rest =>
    rw [atIn?_cons] at h ⊢
    cases hroute : routes[i]? with
    | none =>
      rw [hroute] at h
      cases h
    | some next =>
      rw [hroute] at h
      rw [List.getElem?_append_left (List.getElem?_eq_some_iff.1 hroute).1, hroute]
      exact h

/-- A route of a list after one more route. -/
theorem atIn?_concat {path : List Nat} (h : atIn? path (routes ++ [new]) = some r) :
    atIn? path routes = some r ∨ ∃ rest, path = routes.length :: rest ∧ new.at? rest = some r := by
  cases path with
  | nil => cases h
  | cons i rest =>
    rw [atIn?_cons] at h ⊢
    rcases Nat.lt_trichotomy i routes.length with hlt | heq | hgt
    · rw [List.getElem?_append_left hlt] at h
      exact Or.inl h
    · subst heq
      rw [List.getElem?_concat_length, Option.bind_some] at h
      exact Or.inr ⟨rest, rfl, h⟩
    · rw [List.getElem?_eq_none (by simpa using hgt)] at h
      cases h

/-! ### A change is a replacement -/

theorem modify_eq_set {f : Route → Route} {i : Nat} (h : routes[i]? = some route) :
    routes.modify i f = routes.set i (f route) := by
  refine List.ext_getElem? fun j => ?_
  rw [List.getElem?_modify, List.getElem?_set]
  by_cases hij : i = j
  · subst hij
    simp only [if_true, h, if_pos (List.getElem?_eq_some_iff.1 h).1]
    rfl
  · simp [hij]

theorem set_self {i : Nat} (h : routes[i]? = some route) : routes.set i route = routes := by
  obtain ⟨hlt, rfl⟩ := List.getElem?_eq_some_iff.1 h
  exact List.set_getElem_self hlt

/-- A route in its own place changes nothing. -/
theorem replaceAt_self {path : List Nat} (h : route.at? path = some old) :
    replaceAt old path route = route := by
  induction path generalizing route with
  | nil =>
    cases h
    rfl
  | cons i path ih =>
    obtain ⟨inner, hnested, h⟩ := Option.bind_eq_some_iff.1 h
    rw [atIn?_cons] at h
    obtain ⟨next, hnext, h⟩ := Option.bind_eq_some_iff.1 h
    rw [replaceAt_cons hnested, modify_eq_set hnext, ih h, set_self hnext, withNested_self hnested]

variable {edit : Route → Setup Route}

theorem editIn_eq {i : Nat} {path : List Nat} (h : atIn? (i :: path) routes = some old) :
    editIn edit (i :: path) routes =
      (fun new => routes.modify i (replaceAt new path)) <$> edit old := by
  induction path generalizing i routes with
  | nil =>
    rw [atIn?_cons] at h
    obtain ⟨route, hroute, h⟩ := Option.bind_eq_some_iff.1 h
    cases h
    rw [editIn, hroute]
    simp only [modify_eq_set hroute, replaceAt]
    rw [← bind_pure_comp]
  | cons next path ih =>
    rw [atIn?_cons] at h
    obtain ⟨route, hroute, h⟩ := Option.bind_eq_some_iff.1 h
    obtain ⟨inner, hnested, h⟩ := Option.bind_eq_some_iff.1 h
    rw [editIn, hroute]
    simp only [hnested, ih h, modify_eq_set hroute, replaceAt_cons hnested]
    rw [Functor.map_map, bind_map_left, ← bind_pure_comp]

theorem editIn_eq_pure {path : List Nat} (h : atIn? path routes = none) :
    editIn edit path routes = pure routes := by
  induction path generalizing routes with
  | nil => rw [editIn]
  | cons i path ih =>
    rw [atIn?_cons] at h
    cases hroute : routes[i]? with
    | none => rw [editIn, hroute]
    | some route =>
      rw [hroute, Option.bind_some] at h
      rw [editIn, hroute]
      cases path with
      | nil => cases h
      | cons next path =>
        cases hnested : route.nested with
        | none => simp only [hnested, pure_bind, set_self hroute]
        | some inner =>
          rw [at?, hnested, Option.bind_some] at h
          simp only [hnested, ih h, map_pure, pure_bind, withNested_self hnested,
            set_self hroute]

end Route

namespace Router

variable {router inner : Router} {path below : List Nat} {old new r : Route}

/-- Another route where indices lead to from a router. -/
def replaceAt (new : Route) (path : List Nat) (router : Router) : Router :=
  match path with
  | [] => router
  | i :: path => { router with routes := router.routes.modify i (Route.replaceAt new path) }

/-- **Changing a route** replaces it by what becomes of it. -/
theorem editRoute_eq {edit : Route → Setup Route} (h : router.routeAt? path = some old) :
    router.editRoute path edit = (replaceAt · path router) <$> edit old := by
  cases path with
  | nil => cases h
  | cons i path =>
    rw [editRoute, Route.editIn_eq h, bind_map_left, ← bind_pure_comp]
    rfl

theorem editRoute_eq_pure {edit : Route → Setup Route} (h : router.routeAt? path = none) :
    router.editRoute path edit = pure router := by
  rw [editRoute, Route.editIn_eq_pure h, pure_bind]

@[simp] theorem position_replaceAt : (replaceAt new path router).position = router.position := by
  cases path <;> rfl

theorem replaceAt_self (h : router.routeAt? path = some old) :
    replaceAt old path router = router := by
  cases path with
  | nil => rfl
  | cons i path =>
    rw [routeAt?, Route.atIn?_cons] at h
    obtain ⟨next, hnext, h⟩ := Option.bind_eq_some_iff.1 h
    rw [replaceAt, Route.modify_eq_set hnext, Route.replaceAt_self h, Route.set_self hnext]

theorem routeAt?_append (hpath : path ≠ []) :
    router.routeAt? (path ++ below) = (router.routeAt? path).bind (·.at? below) :=
  Route.atIn?_append hpath below

theorem path_ne_nil (h : router.routeAt? path = some r) : path ≠ [] := by
  rintro rfl
  cases h

theorem routeAt?_replaceAt (h : (replaceAt new path router).routeAt? below = some r) :
    (∃ rest, below = path ++ rest ∧ new.at? rest = some r) ∨
      ∃ old, router.routeAt? below = some old ∧ r.position = old.position ∧
        r.settings = old.settings := by
  cases path with
  | nil => exact Or.inr ⟨r, h, rfl, rfl⟩
  | cons i path =>
    cases below with
    | nil => cases h
    | cons j below =>
      rcases Route.atIn?_modify h with ⟨rfl, route, hroute, hr⟩ | hr
      · rcases Route.at?_replaceAt hr with ⟨rest, rfl, hrest⟩ | ⟨old, hold, hsame⟩
        · exact Or.inl ⟨rest, rfl, hrest⟩
        · refine Or.inr ⟨old, ?_, hsame⟩
          rw [routeAt?, Route.atIn?_cons, hroute, Option.bind_some, hold]
      · exact Or.inr ⟨r, hr, rfl, rfl⟩

/-- A router of a tree is the root, or the one that a route of the tree holds. -/
theorem routerAt?_eq_some (h : router.routerAt? path = some inner) :
    path = [] ∧ inner = router ∨ ∃ owner, router.routeAt? path = some owner ∧
      owner.nested = some inner.routes ∧ inner.position = owner.position := by
  cases path with
  | nil =>
    cases h
    exact Or.inl ⟨rfl, rfl⟩
  | cons i path =>
    obtain ⟨owner, howner, h⟩ := Option.bind_eq_some_iff.1 h
    obtain ⟨routes, hroutes, rfl⟩ := Option.map_eq_some_iff.1 h
    exact Or.inr ⟨owner, howner, hroutes, rfl⟩

/-- **The routes of a nested router** are those of the tree below it. -/
theorem routeAt?_of_routerAt? (h : router.routerAt? path = some inner) (hbelow : below ≠ []) :
    inner.routeAt? below = router.routeAt? (path ++ below) := by
  rcases routerAt?_eq_some h with ⟨rfl, rfl⟩ | ⟨owner, howner, hnested, -⟩
  · rfl
  · rw [routeAt?_append (path_ne_nil howner), howner, Option.bind_some]
    cases below with
    | nil => exact absurd rfl hbelow
    | cons i below =>
      rw [Route.at?, hnested, Option.bind_some]
      rfl

/-- **Changing a nested router** replaces the route that holds it. -/
theorem editRouter_eq {edit : Router → Setup Router} (hold : router.routeAt? path = some old)
    (hnested : old.nested = some inner.routes) (hposition : inner.position = old.position) :
    router.editRouter path edit =
      (fun changed => replaceAt (old.withNested changed.routes) path router) <$> edit inner := by
  have hinner : old.router? = some inner := by
    rw [Route.router?, hnested, Option.map_some, ← hposition]
  rw [editRouter, editRoute_eq hold]
  · simp only [hinner, bind_pure_comp, Functor.map_map]
  · exact path_ne_nil hold

theorem editRouter_eq_pure {edit : Router → Setup Router} (h : router.routerAt? path = none) :
    router.editRouter path edit = pure router := by
  cases path with
  | nil => cases h
  | cons i path =>
    rw [editRouter]
    · cases hroute : router.routeAt? (i :: path) with
      | none => exact editRoute_eq_pure hroute
      | some owner =>
        have hnone : owner.router? = none := by
          rw [routerAt?, hroute, Option.bind_some] at h
          · exact h
          · exact List.cons_ne_nil _ _
        rw [editRoute_eq hroute, hnone, map_pure, replaceAt_self hroute]
    · exact List.cons_ne_nil _ _

/-- The new route is where it was put. -/
theorem routeAt?_replaceAt_self (h : router.routeAt? path = some old) :
    (replaceAt new path router).routeAt? path = some new := by
  cases path with
  | nil => cases h
  | cons i path =>
    rw [routeAt?, Route.atIn?_cons] at h
    obtain ⟨next, hnext, h⟩ := Option.bind_eq_some_iff.1 h
    rw [replaceAt, routeAt?, Route.atIn?_modify_self hnext, Route.at?_replaceAt_self h]

/-- **No route is lost** by a replacement, if none is lost below the new route. -/
theorem isSome_routeAt?_replaceAt (hold : router.routeAt? path = some old)
    (hnew : ∀ rest, (old.at? rest).isSome → (new.at? rest).isSome)
    (h : (router.routeAt? below).isSome) :
    ((replaceAt new path router).routeAt? below).isSome := by
  cases path with
  | nil => cases hold
  | cons i path =>
    cases below with
    | nil => cases h
    | cons j below =>
      -- a root router is the nested router of a route that stands above it
      let root : Route := .mk router.position .empty (some router.routes)
      have hroot : root.at? (i :: path) = some old := hold
      have hbelow : (root.at? (j :: below)).isSome := h
      exact Route.isSome_at?_replaceAt hroot hnew hbelow

/-- A route after the others of the router at a list of indices. -/
def push (new : Route) (path : List Nat) (router : Router) : Router :=
  match path with
  | [] => { router with routes := router.routes ++ [new] }
  | path =>
    match router.routeAt? path with
    | none => router
    | some owner => replaceAt (owner.withNested (owner.nested.getD [] ++ [new])) path router

theorem push_eq_replaceAt (howner : router.routeAt? path = some old)
    (hnested : old.nested = some inner.routes) :
    router.push new path = replaceAt (old.withNested (inner.routes ++ [new])) path router := by
  rw [push]
  · rw [howner]
    simp only [hnested, Option.getD_some]
  · exact path_ne_nil howner

/-- The new route is the next of its router. -/
theorem routeAt?_push_self (h : router.routerAt? path = some inner) :
    (router.push new path).routeAt? (path ++ [inner.routes.length]) = some new := by
  have hlast : Route.atIn? [inner.routes.length] (inner.routes ++ [new]) = some new := by
    rw [Route.atIn?_cons, List.getElem?_concat_length]
    rfl
  rcases routerAt?_eq_some h with ⟨rfl, rfl⟩ | ⟨owner, howner, hnested, -⟩
  · exact hlast
  · rw [push_eq_replaceAt howner hnested, routeAt?_append (path_ne_nil howner),
      routeAt?_replaceAt_self howner, Option.bind_some, Route.at?, Route.nested_withNested,
      Option.bind_some, hlast]

/-- No route is lost by one more. -/
theorem isSome_routeAt?_push (hinner : router.routerAt? path = some inner)
    (h : (router.routeAt? below).isSome) : ((router.push new path).routeAt? below).isSome := by
  rcases routerAt?_eq_some hinner with ⟨rfl, rfl⟩ | ⟨owner, howner, hnested, -⟩
  · exact Route.isSome_atIn?_concat h
  · rw [push_eq_replaceAt howner hnested]
    refine isSome_routeAt?_replaceAt howner (fun rest hrest => ?_) h
    cases rest with
    | nil => rfl
    | cons i rest =>
      rw [Route.at?, hnested, Option.bind_some] at hrest
      rw [Route.at?, Route.nested_withNested, Option.bind_some]
      exact Route.isSome_atIn?_concat hrest

/-- No route is at the place of the next one. -/
theorem routeAt?_length (h : router.routerAt? path = some inner) :
    router.routeAt? (path ++ [inner.routes.length]) = none := by
  rw [← routeAt?_of_routerAt? h (List.cons_ne_nil _ _), routeAt?, Route.atIn?_cons,
    List.getElem?_eq_none (Nat.le_refl _), Option.bind_none]

/-- What the directives of a new route make of its settings. -/
def settle (position : Position) (directives : List Directive) : Setup Settings :=
  directives.foldlM (fun settings d => d.apply position settings) .empty

/-- The position of the next route of a router. -/
def next (router : Router) : Position :=
  router.position ++ [router.routes.length]

/-- **Adding a route** appends it, with what its directives make of its settings. -/
theorem addRoute_eq (directives : List Directive) : router.addRoute directives =
    (fun settings => ⟨router.position, router.routes ++ [.mk router.next settings none]⟩) <$>
      settle router.next directives := by
  rw [← bind_pure_comp]
  rfl

end Router

/-! ### A call -/

namespace Site

variable {site : Site} {c : Call} {path : List Nat} {route old : Route} {router : Router}

theorem call_eq_of_map {α : Type} {f : α → Router} {x : Setup α}
    (h : c.edit site.root = f <$> x) : site.call c = match x.run site.registry with
      | (.ok a, registry) => (.ok (), ⟨f a, registry⟩)
      | (.error e, registry) => (.error e, ⟨site.root, registry⟩) := by
  rw [call, h, Setup.run_map]
  rcases x.run site.registry with ⟨_ | _, _⟩ <;> rfl

theorem call_eq_of_pure (h : c.edit site.root = pure site.root) : site.call c = (.ok (), site) := by
  rw [call, h, Setup.run_pure]

/-- A call on a router that is not there does nothing. -/
theorem call_add_absent (factory : Factory) (h : site.root.routerAt? path = none) :
    site.call (.add path factory) = (.ok (), site) :=
  call_eq_of_pure (Router.editRouter_eq_pure h)

/-- A call on a route that is not there does nothing. -/
theorem call_configure_absent (d : Directive) (h : site.root.routeAt? path = none) :
    site.call (.configure path d) = (.ok (), site) :=
  call_eq_of_pure (Router.editRoute_eq_pure h)

theorem call_openNested_absent (h : site.root.routeAt? path = none) :
    site.call (.openNested path) = (.ok (), site) :=
  call_eq_of_pure (Router.editRoute_eq_pure h)

/-- Where a route of the tree after a call comes from. -/
inductive Origin (site : Site) (c : Call) (path : List Nat) (route : Route) : Prop
  | kept {old : Route} (hold : site.root.routeAt? path = some old)
    (hposition : route.position = old.position) (hsettings : route.settings = old.settings)
  | configured {old : Route} {d : Directive} (hc : c = .configure path d)
    (hold : site.root.routeAt? path = some old) (hposition : route.position = old.position)
    (hsettings : (d.apply old.position old.settings).run site.registry =
      (.ok route.settings, (site.call c).2.registry))
  | added {below : List Nat} {factory : Factory} {router : Router} (hc : c = .add below factory)
    (hrouter : site.root.routerAt? below = some router)
    (hpath : path = below ++ [router.routes.length]) (hposition : route.position = router.next)
    (hsettings : (Router.settle router.next factory.directives).run site.registry =
      (.ok route.settings, (site.call c).2.registry))

theorem Origin.of_replaceAt {new : Route} {below : List Nat}
    (h : (Router.replaceAt new path site.root).routeAt? below = some route)
    (hnew : ∀ rest, new.at? rest = some route → site.Origin c (path ++ rest) route) :
    site.Origin c below route := by
  rcases Router.routeAt?_replaceAt h with ⟨rest, rfl, hrest⟩ | ⟨old, hold, hposition, hsettings⟩
  · exact hnew rest hrest
  · exact .kept hold hposition hsettings

/-- Below the route that indices lead to, the tree is that of the route. -/
theorem routeAt?_below {rest : List Nat} (hold : site.root.routeAt? path = some old)
    (hrest : old.at? rest = some route) : site.root.routeAt? (path ++ rest) = some route := by
  rw [Router.routeAt?_append (Router.path_ne_nil hold), hold, Option.bind_some, hrest]

theorem edit_configure (d : Directive) (hold : site.root.routeAt? path = some old) :
    (Call.configure path d).edit site.root =
      (fun settings => Router.replaceAt (old.withSettings settings) path site.root) <$>
        d.apply old.position old.settings := by
  have h : Route.configure d old = old.withSettings <$> d.apply old.position old.settings := by
    rw [← bind_pure_comp]
    rfl
  rw [Call.edit, Router.editRoute_eq hold, h, Functor.map_map]

theorem edit_openNested (hold : site.root.routeAt? path = some old) :
    (Call.openNested path).edit site.root =
      (Router.replaceAt · path site.root) <$> old.openNested :=
  Router.editRoute_eq hold

theorem edit_add_push (factory : Factory) (hrouter : site.root.routerAt? path = some router) :
    (Call.add path factory).edit site.root =
      (fun settings => site.root.push (.mk router.next settings none) path) <$>
        Router.settle router.next factory.directives := by
  rcases Router.routerAt?_eq_some hrouter with ⟨rfl, rfl⟩ | ⟨owner, howner, hnested, hposition⟩
  · exact Router.addRoute_eq _
  · simp only [Router.push_eq_replaceAt howner hnested]
    rw [Call.edit, Router.editRouter_eq howner hnested hposition, Router.addRoute_eq,
      Functor.map_map]

/-- The router after a route was added to a router of its tree. -/
theorem edit_add (factory : Factory) (hrouter : site.root.routerAt? path = some router) :
    ∃ f : Settings → Router, (Call.add path factory).edit site.root =
        f <$> Router.settle router.next factory.directives ∧
      ∀ settings, (f settings).position = site.root.position ∧
        ∀ below route, (f settings).routeAt? below = some route →
          (∃ old, site.root.routeAt? below = some old ∧ route.position = old.position ∧
            route.settings = old.settings) ∨
          below = path ++ [router.routes.length] ∧ route = .mk router.next settings none := by
  have hlast {settings : Settings} {rest : List Nat} {route : Route}
      (h : (Route.mk router.next settings none).at? rest = some route) :
      rest = [] ∧ route = .mk router.next settings none := by
    cases rest with
    | nil =>
      cases h
      exact ⟨rfl, rfl⟩
    | cons => cases h
  -- the router is the root, or nested in a route, which then is the one that is replaced
  rcases Router.routerAt?_eq_some hrouter with ⟨rfl, rfl⟩ | ⟨owner, howner, hnested, hposition⟩
  · refine ⟨_, Router.addRoute_eq _, fun settings => ⟨rfl, fun below route h => ?_⟩⟩
    rcases Route.atIn?_concat h with hold | ⟨rest, rfl, hrest⟩
    · exact Or.inl ⟨route, hold, rfl, rfl⟩
    · obtain ⟨rfl, rfl⟩ := hlast hrest
      exact Or.inr ⟨rfl, rfl⟩
  · refine ⟨fun settings => .replaceAt
        (owner.withNested (router.routes ++ [.mk router.next settings none])) path site.root,
      ?_, fun settings => ⟨Router.position_replaceAt, fun below route h => ?_⟩⟩
    · rw [Call.edit, Router.editRouter_eq howner hnested hposition, Router.addRoute_eq,
        Functor.map_map]
    · rcases Router.routeAt?_replaceAt h with ⟨rest, rfl, hrest⟩ | hold
      · cases rest with
        | nil =>
          cases hrest
          refine Or.inl ⟨owner, ?_, Route.position_withNested, Route.settings_withNested⟩
          rw [List.append_nil, howner]
        | cons i rest =>
          rw [Route.at?, Route.nested_withNested, Option.bind_some] at hrest
          rcases Route.atIn?_concat hrest with hold | ⟨rest, hi, hrest⟩
          · refine Or.inl ⟨route, routeAt?_below howner ?_, rfl, rfl⟩
            rw [Route.at?, hnested, Option.bind_some, hold]
          · obtain ⟨rfl, rfl⟩ := hlast hrest
            exact Or.inr ⟨by rw [hi], rfl⟩
      · exact Or.inl hold

theorem position_call_of_map {α : Type} {f : α → Router} {x : Setup α}
    (h : c.edit site.root = f <$> x) (hf : ∀ a, (f a).position = site.root.position) :
    (site.call c).2.root.position = site.root.position := by
  rw [call_eq_of_map h]
  rcases x.run site.registry with ⟨e | a, registry⟩
  · rfl
  · exact hf a

/-- The root stays where it is. -/
theorem position_call (c : Call) : (site.call c).2.root.position = site.root.position := by
  cases c with
  | add path factory =>
    cases hrouter : site.root.routerAt? path with
    | none => rw [call_add_absent factory hrouter]
    | some router =>
      obtain ⟨f, hf, hroutes⟩ := edit_add factory hrouter
      exact position_call_of_map hf fun settings => (hroutes settings).1
  | configure path d =>
    cases hold : site.root.routeAt? path with
    | none => rw [call_configure_absent d hold]
    | some old =>
      exact position_call_of_map (edit_configure d hold) fun _ => Router.position_replaceAt
  | openNested path =>
    cases hold : site.root.routeAt? path with
    | none => rw [call_openNested_absent hold]
    | some old =>
      exact position_call_of_map (edit_openNested hold) fun _ => Router.position_replaceAt

theorem origin_add {below : List Nat} (factory : Factory)
    (h : (site.call (.add below factory)).2.root.routeAt? path = some route) :
    site.Origin (.add below factory) path route := by
  cases hrouter : site.root.routerAt? below with
  | none =>
    rw [call_add_absent factory hrouter] at h
    exact .kept h rfl rfl
  | some router =>
    obtain ⟨f, hf, hroutes⟩ := edit_add factory hrouter
    have hcall := call_eq_of_map hf
    rcases hrun : (Router.settle router.next factory.directives).run site.registry with
      ⟨e | settings, registry⟩ <;> rw [hrun] at hcall <;> rw [hcall] at h
    · exact .kept h rfl rfl
    · rcases (hroutes settings).2 path route h with ⟨old, hold, hposition, hsettings⟩ | ⟨hpath, rfl⟩
      · exact .kept hold hposition hsettings
      · exact .added rfl hrouter hpath rfl (by rw [hrun, hcall]; rfl)

theorem origin_configure {target : List Nat} (d : Directive)
    (h : (site.call (.configure target d)).2.root.routeAt? path = some route) :
    site.Origin (.configure target d) path route := by
  cases hold : site.root.routeAt? target with
  | none =>
    rw [call_configure_absent d hold] at h
    exact .kept h rfl rfl
  | some old =>
    have hcall := call_eq_of_map (edit_configure d hold)
    rcases hrun : (d.apply old.position old.settings).run site.registry with
      ⟨e | settings, registry⟩ <;> rw [hrun] at hcall <;> rw [hcall] at h
    · exact .kept h rfl rfl
    · -- what is below the route stays, since only its settings are new
      refine .of_replaceAt h fun rest hrest => ?_
      cases rest with
      | nil =>
        cases hrest
        rw [List.append_nil]
        refine .configured rfl hold Route.position_withSettings ?_
        rw [hrun, hcall, Route.settings_withSettings]
      | cons i rest =>
        rw [Route.at?, Route.nested_withSettings] at hrest
        exact .kept (routeAt?_below hold hrest) rfl rfl

theorem origin_openNested {target : List Nat}
    (h : (site.call (.openNested target)).2.root.routeAt? path = some route) :
    site.Origin (.openNested target) path route := by
  cases hold : site.root.routeAt? target with
  | none =>
    rw [call_openNested_absent hold] at h
    exact .kept h rfl rfl
  | some old =>
    have hcall := call_eq_of_map (edit_openNested hold)
    cases hnested : old.nested with
    | some inner =>
      rw [Route.openNested_of_some hnested, Setup.run_pure] at hcall
      rw [hcall] at h
      refine .of_replaceAt h fun rest hrest => ?_
      exact .kept (routeAt?_below hold hrest) rfl rfl
    | none =>
      rw [Route.openNested_of_none hnested, Setup.run_bind, Setup.run_report] at hcall
      simp only [Setup.run_pure] at hcall
      rw [hcall] at h
      -- the new router is empty, so no route is below the one that holds it
      refine .of_replaceAt h fun rest hrest => ?_
      cases rest with
      | nil =>
        cases hrest
        rw [List.append_nil]
        exact .kept hold Route.position_withNested Route.settings_withNested
      | cons i rest =>
        rw [Route.at?, Route.nested_withNested, Option.bind_some, Route.atIn?_cons] at hrest
        cases hrest

/-- **Every route of a tree after a call** was in it before with the same position and settings, or
was configured by the call, or was added by it. -/
theorem origin_call (h : (site.call c).2.root.routeAt? path = some route) :
    site.Origin c path route := by
  cases c with
  | add below factory => exact origin_add factory h
  | configure target d => exact origin_configure d h
  | openNested target => exact origin_openNested h

/-! ### Routes stay -/

theorem isSome_call_of_map {α : Type} {f : α → Router} {x : Setup α} {below : List Nat}
    (h : c.edit site.root = f <$> x)
    (hf : ∀ a, (site.root.routeAt? below).isSome → ((f a).routeAt? below).isSome)
    (hroute : (site.root.routeAt? below).isSome) :
    ((site.call c).2.root.routeAt? below).isSome := by
  rw [call_eq_of_map h]
  rcases x.run site.registry with ⟨e | a, registry⟩
  · exact hroute
  · exact hf a hroute

/-- **No call removes a route.** -/
theorem isSome_routeAt?_call {below : List Nat} (h : (site.root.routeAt? below).isSome) (c : Call) :
    ((site.call c).2.root.routeAt? below).isSome := by
  cases c with
  | add path factory =>
    cases hrouter : site.root.routerAt? path with
    | none => rwa [call_add_absent factory hrouter]
    | some router =>
      exact isSome_call_of_map (edit_add_push factory hrouter)
        (fun _ => Router.isSome_routeAt?_push hrouter) h
  | configure path d =>
    cases hold : site.root.routeAt? path with
    | none => rwa [call_configure_absent d hold]
    | some old =>
      refine isSome_call_of_map (edit_configure d hold) (fun settings =>
        Router.isSome_routeAt?_replaceAt hold fun rest hrest => ?_) h
      -- below the route is what was below it
      cases rest with
      | nil => rfl
      | cons i rest => rwa [Route.at?, Route.nested_withSettings]
  | openNested path =>
    cases hold : site.root.routeAt? path with
    | none => rwa [call_openNested_absent hold]
    | some old =>
      cases hnested : old.nested with
      | some inner =>
        rw [call_eq_of_map (edit_openNested hold), Route.openNested_of_some hnested,
          Setup.run_pure]
        exact Router.isSome_routeAt?_replaceAt hold (fun _ => id) h
      | none =>
        rw [call_eq_of_map (edit_openNested hold), Route.openNested_of_none hnested,
          Setup.run_bind, Setup.run_report]
        refine Router.isSome_routeAt?_replaceAt hold (fun rest hrest => ?_) h
        cases rest with
        | nil => rfl
        | cons i rest =>
          rw [Route.at?, hnested] at hrest
          cases hrest

/-! ### What holds of the settings of every route -/

theorem routeAt?_empty (path : List Nat) : empty.root.routeAt? path = none := by
  cases path with
  | nil => rfl
  | cons i path =>
    rw [Router.routeAt?, Route.atIn?_cons]
    rfl

/-- What directives keep, a list of them keeps. -/
theorem settings_foldlM {P : Settings → Prop} {directives : List Directive}
    {settings settings' : Settings}
    (hafter : ∀ settings d settings', P settings → settings.after d = .ok settings' → P settings')
    (h : directives.foldlM Settings.after settings = .ok settings') (hsettings : P settings) :
    P settings' := by
  induction directives generalizing settings with
  | nil =>
    cases h
    exact hsettings
  | cons d rest ih =>
    rw [List.foldlM_cons] at h
    cases hnext : settings.after d with
    | error e =>
      rw [hnext] at h
      cases h
    | ok next =>
      rw [hnext] at h
      exact ih h (hafter settings d next hsettings hnext)

theorem settings_call {P : Settings → Prop} (hempty : P .empty)
    (hafter : ∀ settings d settings', P settings → settings.after d = .ok settings' → P settings')
    (hsite : ∀ path route, site.root.routeAt? path = some route → P route.settings)
    (h : (site.call c).2.root.routeAt? path = some route) : P route.settings := by
  cases origin_call h with
  | kept hold _ hsettings =>
    rw [hsettings]
    exact hsite path _ hold
  | configured _ hold _ hsettings =>
    exact hafter _ _ _ (hsite path _ hold) (Directive.after_of_apply hsettings)
  | added _ _ _ _ hsettings =>
    exact settings_foldlM hafter (Directive.after_of_foldlM hsettings) hempty

/-- **What directives keep** holds of the settings of every route after any calls. -/
theorem settings_afterCalls {P : Settings → Prop} (hempty : P .empty)
    (hafter : ∀ settings d settings', P settings → settings.after d = .ok settings' → P settings')
    (calls : List Call) (path : List Nat) (route : Route)
    (h : (empty.afterCalls calls).root.routeAt? path = some route) : P route.settings := by
  -- by induction on the calls, which start from any tree whose settings are such
  have hall : ∀ site : Site,
      (∀ path route, site.root.routeAt? path = some route → P route.settings) →
      ∀ path route, (site.afterCalls calls).root.routeAt? path = some route →
        P route.settings := by
    clear h
    induction calls with
    | nil => exact fun site hsite => hsite
    | cons c calls ih =>
      intro site hsite
      exact ih _ fun path route => settings_call hempty hafter hsite
  refine hall empty (fun path route hroute => ?_) path route h
  rw [routeAt?_empty] at hroute
  cases hroute

end Site

end RequestRouter
