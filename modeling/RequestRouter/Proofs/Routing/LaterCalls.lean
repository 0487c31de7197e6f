import Mathlib.Tactic
import RequestRouter.Proofs.Routing.CheckOrder
import RequestRouter.Proofs.Routing.FailedCalls
import RequestRouter.Proofs.Routing.RoundTrip

/-!
# Later calls and earlier answers

The search for a route stops at the end of the first chain whose routes all accept the request. What a
call does at a later place of the tree is never looked at, however deep the place is: the routes before
it are as they were, and so are those around it, but for what is nested in them.

* `Site.place?`: the place of the tree that a call works at.
* `Site.Answers`: the answer to a request, with the checks that were made for it.
* `Route.resolveFirst_append`, `Route.resolveFirst_modify`: several routes, of which one that comes
  later is added or replaced.
* `Route.resolveFirst_replaceAt`: a replacement at a later place, at any depth.
* `Site.resolve_call`: one call.
* `answer_stays`: **a call at a later place leaves an answer alone.**
-/

namespace RequestRouter

variable {request : Request} {route next new old : Route} {routes later : List Route} {m : Match}
  {path below place : List Nat} {chain : List Route}

/-! ### The order of places -/

theorem not_lex_append (path below : List Nat) : ¬List.Lex (· < ·) (path ++ below) path := by
  induction path with
  | nil =>
    intro h
    cases h
  | cons i path ih =>
    intro h
    cases h with
    | cons h => exact ih h
    | rel h => exact lt_irrefl i h

/-- What comes before the next place of a router is before the router, or inside it. -/
theorem lex_concat {n : Nat} (h : List.Lex (· < ·) path (place ++ [n])) :
    List.Lex (· < ·) path place ∨ place <+: path := by
  induction place generalizing path with
  | nil => exact Or.inr List.nil_prefix
  | cons i place ih =>
    cases h with
    | nil => exact Or.inl .nil
    | rel h => exact Or.inl (.rel h)
    | cons h => exact (ih h).imp .cons (List.prefix_cons_inj i).2

/-! ### Several routes -/

namespace Route

theorem exists_found (hchain : route.Chain path chain) (hall : ∀ r ∈ chain, r.Accepts request) :
    ∃ m, (route.resolve request).found = some m := by
  cases hfound : (route.resolve request).found with
  | some m => exact ⟨m, rfl⟩
  | none => exact absurd hall (found_eq_none_iff.1 hfound path chain hchain)

theorem exists_foundFirst (hchain : ChainIn routes path chain)
    (hall : ∀ r ∈ chain, r.Accepts request) : ∃ m, (resolveFirst request routes).found = some m := by
  obtain ⟨hfirst, -⟩ := resolveFirst_first request routes
  cases hfound : (resolveFirst request routes).found with
  | some m => exact ⟨m, rfl⟩
  | none =>
    rw [hfound] at hfirst
    exact absurd hall (hfirst path chain hchain)

/-- After a route that matches no other is tried. -/
theorem resolveFirst_cons_of_found (h : (route.resolve request).found = some m) :
    resolveFirst request (route :: routes) = ⟨some m, (route.resolve request).checks⟩ := by
  rw [resolveFirst]
  simp only [h]

theorem resolveFirst_cons_of_none (h : (route.resolve request).found = none) :
    resolveFirst request (route :: routes) = ⟨(resolveFirst request routes).found,
      (route.resolve request).checks ++ (resolveFirst request routes).checks⟩ := by
  rw [resolveFirst]
  simp only [h]

/-- **Routes after those that match** are not tried. -/
theorem resolveFirst_append (h : (resolveFirst request routes).found = some m) :
    resolveFirst request (routes ++ later) = resolveFirst request routes := by
  induction routes with
  | nil => cases h
  | cons route rest ih =>
    rw [List.cons_append]
    cases hroute : (route.resolve request).found with
    | some m' => rw [resolveFirst_cons_of_found hroute, resolveFirst_cons_of_found hroute]
    | none =>
      rw [resolveFirst_cons_of_none hroute] at h
      rw [resolveFirst_cons_of_none hroute, resolveFirst_cons_of_none hroute, ih h]

/-- **One of several routes may be replaced**, if an earlier one matches, or if it is resolved as
before. -/
theorem resolveFirst_modify {f : Route → Route} {i j : Nat} (hj : routes[j]? = some next)
    (hnext : (next.resolve request).found = some m)
    (h : j < i ∨ j = i ∧ (f next).resolve request = next.resolve request) :
    resolveFirst request (routes.modify i f) = resolveFirst request routes := by
  induction routes generalizing i j with
  | nil => cases hj
  | cons route rest ih =>
    cases i with
    | zero =>
      obtain hlt | ⟨rfl, hsame⟩ := h
      · exact absurd hlt (Nat.not_lt_zero j)
      · cases hj
        rw [List.modify_zero_cons, resolveFirst_cons_of_found hnext,
          resolveFirst_cons_of_found (by rw [hsame, hnext]), hsame]
    | succ i =>
      rw [List.modify_succ_cons]
      cases j with
      | zero =>
        cases hj
        rw [resolveFirst_cons_of_found hnext, resolveFirst_cons_of_found hnext]
      | succ j =>
        have hrest := ih hj (h.imp Nat.lt_of_succ_lt_succ (And.imp_left Nat.succ_injective.eq_iff.1))
        rw [resolveFirst, resolveFirst, hrest]

/-! ### A replacement at a later place -/

/-- A route is resolved as its nested router is. -/
theorem resolve_withNested {routes' : List Route} (hnested : route.nested = some routes)
    (h : resolveFirst request routes' = resolveFirst request routes) :
    (route.withNested routes').resolve request = route.resolve request := by
  obtain ⟨position, settings, nested⟩ := route
  cases hnested
  rw [withNested, resolve, resolve]
  simp only [h]

/-- A chain of a route with a nested router goes on there. -/
theorem Chain.nested (hchain : route.Chain path chain) (hnested : route.nested = some routes) :
    ∃ rest, chain = route :: rest ∧ ChainIn routes path rest := by
  cases hchain with
  | last hnone =>
    rw [hnested] at hnone
    cases hnone
  | @inner _ next routes' i below rest hnested' hi hnext =>
    rw [hnested] at hnested'
    cases hnested'
    exact ⟨rest, rfl, i, below, next, rfl, hi, hnext⟩

/-- **A replacement changes nothing** for a request that some chain accepts which comes before the place
of it, or which goes through the place if the new route is resolved as the old one was. -/
theorem resolveFirst_replaceAt {i : Nat} (hold : atIn? (i :: place) routes = some old)
    (hchain : ChainIn routes path chain) (hall : ∀ r ∈ chain, r.Accepts request)
    (hbefore : List.Lex (· < ·) path (i :: place) ∨ i :: place <+: path)
    (hnew : ∀ below chain', path = i :: place ++ below → old.Chain below chain' →
      (∀ r ∈ chain', r.Accepts request) → new.resolve request = old.resolve request) :
    resolveFirst request (routes.modify i (replaceAt new place)) = resolveFirst request routes := by
  induction place generalizing i routes path chain with
  | nil =>
    obtain ⟨j, below, next, rfl, hj, hnext⟩ := hchain
    obtain ⟨m, hm⟩ := exists_found hnext hall
    refine resolveFirst_modify hj hm ?_
    rw [atIn?_cons] at hold
    rcases hbefore with hlex | hprefix
    · cases hlex with
      | rel hlt => exact Or.inl hlt
      | cons hlex => cases hlex
    · obtain ⟨rfl, -⟩ := List.cons_prefix_cons.1 hprefix
      rw [hj] at hold
      cases hold
      exact Or.inr ⟨rfl, hnew below chain rfl hnext hall⟩
  | cons i' place ih =>
    obtain ⟨j, below, next, rfl, hj, hnext⟩ := hchain
    obtain ⟨m, hm⟩ := exists_found hnext hall
    refine resolveFirst_modify hj hm ?_
    have hplace : j < i ∨ j = i ∧
        (List.Lex (· < ·) below (i' :: place) ∨ i' :: place <+: below) := by
      rcases hbefore with hlex | hprefix
      · cases hlex with
        | rel hlt => exact Or.inl hlt
        | cons hlex => exact Or.inr ⟨rfl, Or.inl hlex⟩
      · obtain ⟨rfl, hbelow⟩ := List.cons_prefix_cons.1 hprefix
        exact Or.inr ⟨rfl, Or.inr hbelow⟩
    refine hplace.imp_right fun ⟨hji, hbelow⟩ => ⟨hji, ?_⟩
    subst hji
    -- the chain goes on in the nested router that has the place
    rw [atIn?_cons, hj, Option.bind_some] at hold
    obtain ⟨inner, hnested, hold⟩ := Option.bind_eq_some_iff.1 hold
    obtain ⟨rest, rfl, hrest⟩ := hnext.nested hnested
    rw [replaceAt_cons hnested]
    refine resolve_withNested hnested ?_
    refine ih hold hrest (fun r hr => hall r (List.mem_cons_of_mem _ hr)) hbelow ?_
    intro below' chain' heq
    exact hnew below' chain' (by rw [heq]; rfl)

end Route

theorem Router.resolve_replaceAt {router : Router} (hold : router.routeAt? place = some old)
    (hchain : router.Chain path chain) (hall : ∀ r ∈ chain, r.Accepts request)
    (hbefore : List.Lex (· < ·) path place ∨ place <+: path)
    (hnew : ∀ below chain', path = place ++ below → old.Chain below chain' →
      (∀ r ∈ chain', r.Accepts request) → new.resolve request = old.resolve request) :
    (router.replaceAt new place).resolve request = router.resolve request := by
  cases place with
  | nil => cases hold
  | cons i place => exact Route.resolveFirst_replaceAt hold hchain hall hbefore hnew

/-! ### One call -/

namespace Site

variable {site : Site} {c : Call} {p : List Nat} {checks : List Check}

/-- The place that a call works at: that of the route that it configures or gives a nested router, or
that of the route that it adds. -/
def place? (site : Site) : Call → Option (List Nat)
  | .add path _ => (site.root.routerAt? path).map fun router => path ++ [router.routes.length]
  | .configure path _ => some path
  | .openNested path => some path

/-- The answer to a request is the match `m`, whose route is at the place `p` of the tree, and `checks`
are made to find it. -/
structure Answers (site : Site) (request : Request) (p : List Nat) (m : Match)
    (checks : List Check) : Prop where
  resolution : site.root.resolve request = ⟨some m, checks⟩
  place : site.root.routeAt? p = some m.route

/-- A route that is added to the root is not tried for a request that has an answer. -/
theorem resolve_add_root (factory : Factory) (h : (site.root.resolve request).found = some m) :
    (site.call (.add [] factory)).2.root.resolve request = site.root.resolve request := by
  rw [call_eq_of_map (edit_add_push factory rfl)]
  rcases (Router.settle site.root.next factory.directives).run site.registry with ⟨e | settings, _⟩
  · rfl
  · exact Route.resolveFirst_append h

/-- **A call changes nothing** for a request that some chain accepts which comes before the place of the
call. -/
theorem resolve_call (hplace : site.place? c = some place) (hchain : site.root.Chain path chain)
    (hall : ∀ r ∈ chain, r.Accepts request) (hbefore : List.Lex (· < ·) path place) :
    (site.call c).2.root.resolve request = site.root.resolve request := by
  have hbeside : ∀ {new old : Route} {below chain'}, path = place ++ below → old.Chain below chain' →
      (∀ r ∈ chain', r.Accepts request) → new.resolve request = old.resolve request := by
    rintro new old below chain' rfl
    exact absurd hbefore (not_lex_append place below)
  cases c with
  | configure path' d =>
    cases hplace
    cases hold : site.root.routeAt? place with
    | none => rw [call_configure_absent d hold]
    | some old =>
      rw [call_eq_of_map (edit_configure d hold)]
      rcases (d.apply old.position old.settings).run site.registry with ⟨e | settings, _⟩
      · rfl
      · exact Router.resolve_replaceAt hold hchain hall (Or.inl hbefore) fun _ _ => hbeside
  | openNested path' =>
    cases hplace
    cases hold : site.root.routeAt? place with
    | none => rw [call_openNested_absent hold]
    | some old =>
      rw [call_eq_of_map (edit_openNested hold)]
      rcases old.openNested.run site.registry with ⟨e | new, _⟩
      · rfl
      · exact Router.resolve_replaceAt hold hchain hall (Or.inl hbefore) fun _ _ => hbeside
  | add path' factory =>
    obtain ⟨router, hrouter, rfl⟩ := Option.map_eq_some_iff.1 hplace
    rcases Router.routerAt?_eq_some hrouter with ⟨rfl, rfl⟩ | ⟨owner, howner, hnested, -⟩
    · obtain ⟨m, hm⟩ := Route.exists_foundFirst hchain hall
      exact resolve_add_root factory hm
    · rw [call_eq_of_map (edit_add_push factory hrouter)]
      rcases (Router.settle router.next factory.directives).run site.registry with ⟨e | settings, _⟩
      · rfl
      · simp only [Router.push_eq_replaceAt howner hnested]
        refine Router.resolve_replaceAt howner hchain hall (lex_concat hbefore) ?_
        -- a chain through the router ends at one of the routes that it had
        intro below chain' _ hbelow hall'
        obtain ⟨rest, rfl, hrest⟩ := hbelow.nested hnested
        obtain ⟨m, hm⟩ := Route.exists_foundFirst hrest fun r hr =>
          hall' r (List.mem_cons_of_mem _ hr)
        exact Route.resolve_withNested hnested (Route.resolveFirst_append hm)

/-! ### Answers -/

/-- The match of a request is at the end of a chain that accepts it, at the position of its route. -/
theorem Ordered.chain_of_found (h : site.Ordered) (hm : (site.root.resolve request).found = some m) :
    site.root.routeAt? m.route.position = some m.route ∧
      ∃ chain, site.root.Chain m.route.position chain ∧ ∀ r ∈ chain, r.Accepts request := by
  obtain ⟨hfirst, -⟩ := Route.resolveFirst_first request site.root.routes
  rw [Router.resolve] at hm
  rw [hm] at hfirst
  obtain ⟨path, chain, hchain, hall, -, hlast, -⟩ := hfirst
  have hroute : site.root.routeAt? path = some m.route := by
    obtain ⟨i, below, next, rfl, hi, hnext⟩ := hchain
    rw [Router.routeAt?, Route.atIn?_cons, hi, Option.bind_some, hnext.at?, hlast]
  rw [h.position path m.route hroute]
  exact ⟨hroute, chain, hchain, hall⟩

/-- What is found for a request is its answer, at the position of its route. -/
theorem Ordered.answers (h : site.Ordered) (hm : (site.root.resolve request).found = some m) :
    site.Answers request m.route.position m (site.root.resolve request).checks := by
  refine ⟨?_, (h.chain_of_found hm).1⟩
  rw [← hm]

/-- An answer that is found again is at its place. -/
theorem Answers.again {site' : Site} (h : site.Answers request p m checks) (hordered : site.Ordered)
    (hordered' : site'.Ordered)
    (hsame : site'.root.resolve request = site.root.resolve request) :
    site'.Answers request p m checks := by
  have hresolution : site'.root.resolve request = ⟨some m, checks⟩ := hsame.trans h.resolution
  have hfound : (site'.root.resolve request).found = some m := by rw [hresolution]
  have hanswer := hordered'.answers hfound
  rwa [hordered.position p m.route h.place, hresolution] at hanswer

/-- **An answer stays.** If a request is resolved to the route at a place of the tree, then after any
call that works at a later place, in lexicographic order of the indices, the answer is the same, with the
same variables, and it is found by the same checks. So adding any routes to the root never changes the
answer of a request that has one. -/
theorem answer_stays (calls : List Call) (request : Request) (p : List Nat) (m : Match)
    (checks : List Check) (h : (empty.afterCalls calls).Answers request p m checks) :
    (∀ c q, (empty.afterCalls calls).place? c = some q → List.Lex (· < ·) p q →
      (empty.afterCalls (calls ++ [c])).Answers request p m checks) ∧
    ∀ factories : List Factory,
      (empty.afterCalls (calls ++ factories.map (.add []))).Answers request p m checks := by
  have hordered (calls : List Call) : (empty.afterCalls calls).Ordered :=
    ordered_empty.afterCalls calls
  have hfound : ((empty.afterCalls calls).root.resolve request).found = some m := by
    rw [h.resolution]
  refine ⟨fun c q hplace hbefore => ?_, fun factories => ?_⟩
  · obtain ⟨-, chain, hchain, hall⟩ := (hordered calls).chain_of_found hfound
    rw [(hordered calls).position p m.route h.place] at hchain
    refine h.again (hordered _) (hordered _) ?_
    rw [afterCalls_append]
    exact resolve_call hplace hchain hall hbefore
  · refine h.again (hordered _) (hordered _) ?_
    rw [afterCalls_append]
    generalize empty.afterCalls calls = site at hfound
    induction factories generalizing site with
    | nil => rfl
    | cons factory factories ih =>
      have hsame := resolve_add_root factory hfound
      exact (ih _ (by rw [hsame, hfound])).trans hsame

/-- A request that a nested route answers, with another route after it that would match as well, and more
such routes after the one that holds the router. -/
theorem answer_stays_nested : ∃ m checks,
    (empty.afterCalls [.add [] (.pathPrefix "/a"), .openNested [0],
      .add [0] (.path "/a/{x}")]).Answers (.new .get "/a/b") [0, 0] m checks ∧
    (empty.afterCalls [.add [] (.pathPrefix "/a"), .openNested [0],
      .add [0] (.path "/a/{x}")]).place? (.add [0] (.path "/a/{y}")) = some [0, 1] ∧
    List.Lex (· < ·) [0, 0] [0, 1] ∧
    (empty.afterCalls [.add [] (.pathPrefix "/a"), .openNested [0], .add [0] (.path "/a/{x}"),
      .add [0] (.path "/a/{y}")]).Answers (.new .get "/a/b") [0, 0] m checks ∧
    (empty.afterCalls [.add [] (.pathPrefix "/a"), .openNested [0], .add [0] (.path "/a/{x}"),
      .add [] (.path "/{y}/b"), .add [] .empty]).Answers (.new .get "/a/b") [0, 0] m checks := by
  have hsome : ((empty.afterCalls [.add [] (.pathPrefix "/a"), .openNested [0],
      .add [0] (.path "/a/{x}")]).root.resolve (.new .get "/a/b")).found.any
        (fun m => m.route.position = [0, 0]) = true := by
    decide +kernel
  obtain ⟨m, hm, hposition⟩ := (Option.any_eq_true _ _).1 hsome
  have h := (ordered_empty.afterCalls _).answers hm
  rw [of_decide_eq_true hposition] at h
  have hplace : (empty.afterCalls [.add [] (.pathPrefix "/a"), .openNested [0],
      .add [0] (.path "/a/{x}")]).place? (.add [0] (.path "/a/{y}")) = some [0, 1] := by
    decide +kernel
  have hbefore : List.Lex (· < ·) [0, 0] [0, 1] := .cons (.rel Nat.zero_lt_one)
  obtain ⟨hcall, hroot⟩ := answer_stays _ _ _ _ _ h
  exact ⟨m, _, h, hplace, hbefore, hcall _ _ hplace hbefore, hroot [.path "/{y}/b", .empty]⟩

end Site

end RequestRouter
