import Mathlib.Tactic
import RequestRouter.Proofs.Routing.Calls

/-!
# The routes with a nested router

A route gets a nested router once, by the call that asks for it first, and keeps it. Calls that add or
configure a route leave every route with or without one.

* `Route.OpensAt`, `Router.OpensAt`: a route with a nested router is where indices lead to.
* `opensAt_replaceAt`: **what a replacement does** to the routes with a nested router.
* `Router.OpensAt.of_longer`: the routes on the way to another one have a nested router.
* `Site.opened?`, `Site.opensAt_call`: **the route that a call gives a nested router.**
-/

namespace RequestRouter

/-! ### Replacements -/

namespace Route

variable {route new old : Route} {routes : List Route} {path below : List Nat} {i : Nat}

/-- The route that indices lead to has a nested router. -/
def OpensAt (route : Route) (path : List Nat) : Prop :=
  ∃ r, route.at? path = some r ∧ r.nested.isSome = true

theorem opensAt_nil : route.OpensAt [] ↔ route.nested.isSome = true := by
  simp [OpensAt, at?]

theorem opensAt_cons (hnested : route.nested = some routes) :
    route.OpensAt (i :: path) ↔ ∃ next, routes[i]? = some next ∧ next.OpensAt path := by
  unfold OpensAt
  rw [at?, hnested, Option.bind_some, atIn?_cons]
  constructor
  · rintro ⟨r, hr, hsome⟩
    obtain ⟨next, hnext, hr⟩ := Option.bind_eq_some_iff.1 hr
    exact ⟨next, hnext, r, hr, hsome⟩
  · rintro ⟨next, hnext, r, hr, hsome⟩
    refine ⟨r, ?_, hsome⟩
    rw [hnext, Option.bind_some, hr]

/-- Below a route without a nested router there is none. -/
theorem not_opensAt_of_none (hnested : route.nested = none) : ¬ route.OpensAt path := by
  rintro ⟨r, hr, hsome⟩
  cases path with
  | nil =>
    cases hr
    rw [hnested] at hsome
    cases hsome
  | cons i path =>
    rw [at?, hnested] at hr
    cases hr

/-- **A replacement** changes which routes have a nested router only where it does so at its place. -/
theorem opensAt_replaceAt (opened : Prop) (hold : route.at? path = some old)
    (hnew : ∀ rest, new.OpensAt rest ↔ old.OpensAt rest ∨ rest = [] ∧ opened) :
    (replaceAt new path route).OpensAt below ↔ route.OpensAt below ∨ below = path ∧ opened := by
  induction path generalizing route below with
  | nil =>
    cases hold
    exact hnew below
  | cons i path ih =>
    obtain ⟨inner, hnested, hold⟩ := Option.bind_eq_some_iff.1 hold
    rw [atIn?_cons] at hold
    obtain ⟨next, hnext, hold⟩ := Option.bind_eq_some_iff.1 hold
    rw [replaceAt_cons hnested]
    -- a route on the way has a nested router before and after
    cases below with
    | nil => simp [opensAt_nil, hnested]
    | cons j below =>
      rw [opensAt_cons nested_withNested, opensAt_cons hnested, List.getElem?_modify]
      by_cases hij : i = j
      · subst hij
        simp [hnext, ih hold]
      · simp [hij, Ne.symm hij]

/-- One more route without a nested router changes nothing. -/
theorem opensAt_withNested_concat (hnested : route.nested = some routes) (hnew : new.nested = none) :
    (route.withNested (routes ++ [new])).OpensAt path ↔ route.OpensAt path := by
  cases path with
  | nil => simp [opensAt_nil, hnested]
  | cons i path =>
    rw [opensAt_cons nested_withNested, opensAt_cons hnested]
    rcases Nat.lt_trichotomy i routes.length with hlt | rfl | hgt
    · rw [List.getElem?_append_left hlt]
    · rw [List.getElem?_concat_length, List.getElem?_eq_none (Nat.le_refl _)]
      simp [not_opensAt_of_none hnew]
    · rw [List.getElem?_eq_none (by simpa using hgt), List.getElem?_eq_none (by omega)]

/-- A nested router without routes is one more. -/
theorem opensAt_withNested_nil (hnested : route.nested = none) :
    (route.withNested []).OpensAt path ↔ route.OpensAt path ∨ path = [] ∧ True := by
  cases path with
  | nil => simp [opensAt_nil]
  | cons i path => simp [opensAt_cons nested_withNested, not_opensAt_of_none hnested]

theorem opensAt_withSettings {settings : Settings} :
    (route.withSettings settings).OpensAt path ↔ route.OpensAt path := by
  cases path with
  | nil => simp [opensAt_nil]
  | cons i path =>
    cases hnested : route.nested with
    | none =>
      have hnone : (route.withSettings settings).nested = none := by
        rw [nested_withSettings, hnested]
      exact iff_of_false (not_opensAt_of_none hnone) (not_opensAt_of_none hnested)
    | some routes =>
      rw [opensAt_cons hnested, opensAt_cons (nested_withSettings.trans hnested)]

end Route

namespace Router

variable {router inner : Router} {new old : Route} {path below : List Nat}

/-- The route that indices lead to has a nested router. -/
def OpensAt (router : Router) (path : List Nat) : Prop :=
  ∃ r, router.routeAt? path = some r ∧ r.nested.isSome = true

/-- **Where there is a route**, every route on the way to it has a nested router. -/
theorem OpensAt.of_longer (h : (router.routeAt? below).isSome = true) (hpath : path ≠ [])
    (hstarts : path <+: below) (hne : path ≠ below) : router.OpensAt path := by
  obtain ⟨rest, rfl⟩ := hstarts
  obtain ⟨r, hr⟩ := Option.isSome_iff_exists.1 h
  rw [routeAt?_append hpath] at hr
  obtain ⟨owner, howner, hr⟩ := Option.bind_eq_some_iff.1 hr
  cases rest with
  | nil => exact absurd (List.append_nil path).symm hne
  | cons i rest =>
    obtain ⟨routes, hroutes, -⟩ := Option.bind_eq_some_iff.1 hr
    exact ⟨owner, howner, Option.isSome_iff_exists.2 ⟨routes, hroutes⟩⟩

theorem opensAt_replaceAt (opened : Prop) (hold : router.routeAt? path = some old)
    (hnew : ∀ rest, new.OpensAt rest ↔ old.OpensAt rest ∨ rest = [] ∧ opened) :
    (replaceAt new path router).OpensAt below ↔ router.OpensAt below ∨ below = path ∧ opened := by
  cases path with
  | nil => cases hold
  | cons i path =>
    cases below with
    | nil =>
      have hnone (r : Router) : ¬ r.OpensAt [] := by
        rintro ⟨_, hr, -⟩
        cases hr
      simp [hnone]
    | cons j below =>
      -- a root router is the nested router of a route that stands above it
      let root : Route := .mk router.position .empty (some router.routes)
      have hroot : root.at? (i :: path) = some old := hold
      have hreplaced : (Route.replaceAt new (i :: path) root).OpensAt (j :: below) ↔
          root.OpensAt (j :: below) ∨ j :: below = i :: path ∧ opened :=
        Route.opensAt_replaceAt opened hroot hnew
      exact hreplaced

/-- One more route without a nested router changes nothing. -/
theorem opensAt_push (hinner : router.routerAt? path = some inner) (hnew : new.nested = none) :
    (router.push new path).OpensAt below ↔ router.OpensAt below := by
  rcases routerAt?_eq_some hinner with ⟨rfl, rfl⟩ | ⟨owner, howner, hnested, -⟩
  · cases below with
    | nil => exact Iff.rfl
    | cons i below =>
      let root : Route := .mk inner.position .empty (some inner.routes)
      have hroot : root.nested = some inner.routes := rfl
      have hmore : (root.withNested (inner.routes ++ [new])).OpensAt (i :: below) ↔
          root.OpensAt (i :: below) := Route.opensAt_withNested_concat hroot hnew
      exact hmore
  · rw [push_eq_replaceAt howner hnested, opensAt_replaceAt False howner]
    · simp
    · intro rest
      simp [Route.opensAt_withNested_concat hnested hnew]

end Router

/-! ### A call -/

namespace Site

variable {site : Site} {c : Call} {path place : List Nat}

/-- The place of the route that a call gives a nested router. -/
def opened? (site : Site) (c : Call) : Option Position :=
  match c with
  | .openNested path =>
    (site.root.routeAt? path).bind fun route => if route.nested.isNone then some path else none
  | _ => none

/-- A nested router is given to a route that has none. -/
theorem of_opened? (h : site.opened? c = some place) :
    place ≠ [] ∧ ¬ site.root.OpensAt place := by
  cases c with
  | add | configure => cases h
  | openNested path =>
    obtain ⟨route, hroute, h⟩ := Option.bind_eq_some_iff.1 h
    split at h
    · next hnested =>
      cases h
      refine ⟨Router.path_ne_nil hroute, ?_⟩
      rintro ⟨r, hr, hsome⟩
      cases hroute.symm.trans hr
      rw [Option.isNone_iff_eq_none.1 hnested] at hsome
      cases hsome
    · cases h

theorem opensAt_call_of_map {f : Settings → Router} {x : Setup Settings}
    (hedit : c.edit site.root = f <$> x)
    (hf : ∀ settings, (f settings).OpensAt path ↔ site.root.OpensAt path) :
    (site.call c).2.root.OpensAt path ↔ site.root.OpensAt path := by
  rw [call_eq_of_map hedit]
  rcases x.run site.registry with ⟨e | settings, registry⟩
  · exact Iff.rfl
  · exact hf settings

/-- A call that opens a nested router adds it where there was none, and reports it. -/
theorem call_openNested_of_none {route : Route} (hroute : site.root.routeAt? path = some route)
    (hnested : route.nested = none) : site.call (.openNested path) =
      (.ok (), ⟨Router.replaceAt (route.withNested []) path site.root, { site.registry with
        events := site.registry.events ++ [.nestedAttached route.position] }⟩) := by
  rw [call_eq_of_map (edit_openNested hroute), Route.openNested_of_none hnested, Setup.run_bind,
    Setup.run_report]
  rfl

/-- Where there is a nested router, another call for it changes nothing. -/
theorem call_openNested_of_some {route : Route} {routes : List Route}
    (hroute : site.root.routeAt? path = some route) (hnested : route.nested = some routes) :
    site.call (.openNested path) = (.ok (), site) := by
  rw [call_eq_of_map (edit_openNested hroute), Route.openNested_of_some hnested]
  simp only [Setup.run_pure, Router.replaceAt_self hroute]

/-- **Each call** leaves the routes with a nested router as they are, or gives one to one more. -/
theorem opensAt_call (c : Call) : (site.call c).2.root.OpensAt path ↔
    site.root.OpensAt path ∨ site.opened? c = some path := by
  cases c with
  | add place factory =>
    have hnone : site.opened? (.add place factory) = none := rfl
    rw [hnone, or_iff_left nofun]
    cases hrouter : site.root.routerAt? place with
    | none => rw [call_add_absent factory hrouter]
    | some router =>
      exact opensAt_call_of_map (edit_add_push factory hrouter) fun _ =>
        Router.opensAt_push hrouter rfl
  | configure place d =>
    have hnone : site.opened? (.configure place d) = none := rfl
    rw [hnone, or_iff_left nofun]
    cases hold : site.root.routeAt? place with
    | none => rw [call_configure_absent d hold]
    | some old =>
      refine opensAt_call_of_map (edit_configure d hold) fun settings => ?_
      rw [Router.opensAt_replaceAt False hold]
      · simp
      · intro rest
        simp [Route.opensAt_withSettings]
  | openNested place =>
    rw [opened?]
    cases hold : site.root.routeAt? place with
    | none =>
      rw [call_openNested_absent hold]
      simp
    | some old =>
      cases hnested : old.nested with
      | some routes =>
        rw [call_openNested_of_some hold hnested]
        simp [hnested]
      | none =>
        rw [call_openNested_of_none hold hnested, Router.opensAt_replaceAt True hold
          fun rest => Route.opensAt_withNested_nil hnested, Option.bind_some, hnested,
          Option.isNone_none, if_pos rfl, Option.some.injEq, and_true]
        exact or_congr_right eq_comm

end Site

end RequestRouter
