import Mathlib.Tactic
import RequestRouter.Proofs.Bindings
import RequestRouter.Routing.Resolve

/-!
# Resolution is the first match of a flat table

A tree of routers stands for a table of chains, each of which leads from the router through nested
routers to a route that has none. A request is resolved to the end of the first chain, in
lexicographic order of the indices, all of whose routes accept it on their own.

* `Route.Chain`, `Router.Chain`: the chains of a tree.
* `Route.Accepts`, `Route.valueOf?`: what a route says of a request on its own.
* `FirstAmong`: the first of several chains that accept a request, and what it gives.
* `resolve_eq_first_chain`: **resolution finds the first chain**, with the variables of its routes,
  of which the inner ones win.
-/

namespace RequestRouter

/-- A chain of routes from a route down, with the indices that lead from each to the next. It ends at
a route that has no nested router. -/
inductive Route.Chain : Route → List Nat → List Route → Prop
  | last {route : Route} (h : route.nested = none) : Chain route [] [route]
  | inner {route next : Route} {routes : List Route} {i : Nat} {path : List Nat}
    {chain : List Route} (h : route.nested = some routes) (hi : routes[i]? = some next)
    (hnext : Chain next path chain) : Chain route (i :: path) (route :: chain)

/-- A chain that starts at one of several routes. -/
def Route.ChainIn (routes : List Route) (path : List Nat) (chain : List Route) : Prop :=
  ∃ i below route, path = i :: below ∧ routes[i]? = some route ∧ route.Chain below chain

/-- **A chain of a router**: an index path from the router through nested routers to a route that has
no nested router, and the routes on it. -/
def Router.Chain (router : Router) : List Nat → List Route → Prop :=
  Route.ChainIn router.routes

/-- A route accepts a request on its own: its templates match, the path template the whole path, and
all its matchers pass. -/
structure Route.Accepts (request : Request) (route : Route) : Prop where
  host : ∀ t, route.settings.host = some t → (t.captures? request.host).isSome = true
  path : ∀ t, route.settings.path = some t → (t.captures? request.path).isSome = true
  matchers : ∀ m ∈ route.settings.matchers, m.accepts request = true

/-- The value that a template, if there is one, extracts under a name. -/
def valueIn? (template : Option Template) (text name : String) : Option String :=
  template.bind fun t => (t.matchVars? text).bind (·.get? name)

/-- The value that the templates of a route extract under a name. -/
def Route.valueOf? (request : Request) (name : String) (route : Route) : Option String :=
  (valueIn? route.settings.path request.path name).or
    (valueIn? route.settings.host request.host name)

/-- What is found among chains: the first of those whose routes all accept the request, with its last
route, and under every name the value of the innermost route that has one. -/
def FirstAmong (chains : List Nat → List Route → Prop) (request : Request) : Option Match → Prop
  | none => ∀ path chain, chains path chain → ¬ ∀ r ∈ chain, r.Accepts request
  | some m => ∃ path chain, chains path chain ∧ (∀ r ∈ chain, r.Accepts request) ∧
      (∀ path' chain', chains path' chain' → (∀ r ∈ chain', r.Accepts request) →
        path = path' ∨ List.Lex (· < ·) path path') ∧
      chain.getLast? = some m.route ∧
      ∀ name, m.vars.get? name = chain.reverse.findSome? (Route.valueOf? request name)

variable {request : Request} {settings : Settings} {route : Route} {routes : List Route}

/-! ### One route on its own -/

theorem checkAll_passed (position : Position) (index : Nat) (matchers : List Matcher) :
    (checkAll position request index matchers).1 = matchers.all (·.accepts request) := by
  induction matchers generalizing index with
  | nil => rfl
  | cons m rest ih =>
    rw [checkAll]
    split
    · rename_i h
      simp [h, ih]
    · rename_i h
      simp [h]

/-- What a template extracts from a text it matches. No template extracts nothing. -/
def pairsOf? (template : Option Template) (text : String) : Option (List (String × String)) :=
  match template with
  | some t => (t.captures? text).map t.extract
  | none => some []

theorem extract?_eq_some {vars : Vars} : settings.extract? request = some vars ↔
    ∃ host path, pairsOf? settings.host request.host = some host ∧
      pairsOf? settings.path request.path = some path ∧ vars = .ofPairs (host ++ path) := by
  have heq : settings.extract? request = (pairsOf? settings.host request.host).bind fun host =>
      (pairsOf? settings.path request.path).bind fun path => some (.ofPairs (host ++ path)) := by
    unfold Settings.extract? pairsOf?
    cases settings.host <;> cases settings.path <;> rfl
  rw [heq]
  simp only [Option.bind_eq_some_iff, Option.some.injEq]
  constructor
  · rintro ⟨host, hhost, path, hpath, rfl⟩
    exact ⟨host, path, hhost, hpath, rfl⟩
  · rintro ⟨host, path, hhost, hpath, rfl⟩
    exact ⟨host, hhost, path, hpath, rfl⟩

theorem pairsOf?_isSome {template : Option Template} {text : String} :
    (∃ pairs, pairsOf? template text = some pairs) ↔
      ∀ t, template = some t → (t.captures? text).isSome = true := by
  cases template with
  | none => simp [pairsOf?]
  | some t => simp [pairsOf?, Option.isSome_iff_exists]

theorem get?_ofPairs_pairsOf? {template : Option Template} {text : String}
    {pairs : List (String × String)} (h : pairsOf? template text = some pairs) (name : String) :
    (Bindings.ofPairs pairs).get? name = valueIn? template text name := by
  cases template with
  | none =>
    cases h
    rfl
  | some t =>
    obtain ⟨caps, hcaps, rfl⟩ := Option.map_eq_some_iff.1 h
    simp [valueIn?, Template.matchVars?, hcaps]

/-- The templates extract variables exactly if both match. -/
theorem extract?_isSome : (∃ vars, settings.extract? request = some vars) ↔
    (∀ t, settings.host = some t → (t.captures? request.host).isSome = true) ∧
      ∀ t, settings.path = some t → (t.captures? request.path).isSome = true := by
  simp only [extract?_eq_some, ← pairsOf?_isSome]
  constructor
  · rintro ⟨vars, host, path, hhost, hpath, -⟩
    exact ⟨⟨host, hhost⟩, path, hpath⟩
  · rintro ⟨⟨host, hhost⟩, path, hpath⟩
    exact ⟨_, host, path, hhost, hpath, rfl⟩

/-- What the templates of a route extract, as bindings. -/
theorem get?_of_extract? {vars : Vars} (h : route.settings.extract? request = some vars) :
    vars.Distinct ∧ ∀ name, vars.get? name = route.valueOf? request name := by
  obtain ⟨host, path, hhost, hpath, rfl⟩ := extract?_eq_some.1 h
  refine ⟨Bindings.distinct_ofPairs _, fun name => ?_⟩
  rw [Bindings.get?_ofPairs_append, get?_ofPairs_pairsOf? hhost, get?_ofPairs_pairsOf? hpath]
  rfl

/-- A route accepts a request on its own exactly if its templates extract variables and its matchers
pass. -/
theorem accepts_iff : route.Accepts request ↔
    (∃ vars, route.settings.extract? request = some vars) ∧
      (checkAll route.position request 0 route.settings.matchers).1 = true := by
  rw [extract?_isSome, checkAll_passed, List.all_eq_true]
  exact ⟨fun h => ⟨⟨h.host, h.path⟩, h.matchers⟩, fun h => ⟨h.1.1, h.1.2, h.2⟩⟩

/-! ### Chains -/

/-- The chains that start at a route extend its own part of a match. -/
theorem FirstAmong.inner {vars : Vars} {found : Option Match} (hnested : route.nested = some routes)
    (haccepts : route.Accepts request)
    (hvalue : ∀ name, vars.get? name = route.valueOf? request name)
    (h : FirstAmong (Route.ChainIn routes) request found)
    (hdistinct : ∀ m, found = some m → m.vars.Distinct) :
    FirstAmong route.Chain request (found.map fun m => ⟨m.route, vars.extend m.vars⟩) := by
  cases found with
  | none =>
    -- a chain from here goes on in the nested router, which has no such chain
    intro path chain hchain hall
    cases hchain with
    | last hnone => rw [hnested] at hnone; cases hnone
    | @inner _ next routes' i path chain hnested' hi hnext =>
      rw [hnested] at hnested'
      cases hnested'
      exact h _ chain ⟨i, path, next, rfl, hi, hnext⟩ fun r hr => hall r (List.mem_cons_of_mem _ hr)
  | some m =>
    obtain ⟨path, chain, ⟨i, below, next, rfl, hi, hnext⟩, hall, hleast, hlast, hvars'⟩ := h
    refine ⟨i :: below, route :: chain, .inner hnested hi hnext, ?_, ?_, ?_, fun name => ?_⟩
    · exact List.forall_mem_cons.2 ⟨haccepts, hall⟩
    · intro path' chain' hchain' hall'
      cases hchain' with
      | last hnone => rw [hnested] at hnone; cases hnone
      | @inner _ next' routes' i' path' chain' hnested' hi' hnext' =>
        rw [hnested] at hnested'
        cases hnested'
        exact hleast _ chain' ⟨i', path', next', rfl, hi', hnext'⟩ fun r hr =>
          hall' r (List.mem_cons_of_mem _ hr)
    · rw [List.getLast?_cons, hlast]
      rfl
    · -- outermost, this route is asked last
      rw [Bindings.get?_extend (hdistinct m rfl), hvars', hvalue, List.reverse_cons,
        List.findSome?_append, List.findSome?_singleton]

/-- The chains that start at one of several routes: first those of the first route. -/
theorem FirstAmong.cons_some {m : Match} (h : FirstAmong route.Chain request (some m)) :
    FirstAmong (Route.ChainIn (route :: routes)) request (some m) := by
  obtain ⟨path, chain, hchain, hall, hleast, hlast, hvars⟩ := h
  refine ⟨0 :: path, chain, ⟨0, path, route, rfl, rfl, hchain⟩, hall, ?_, hlast, hvars⟩
  rintro _ chain' ⟨i, below, next, rfl, hi, hnext⟩ hall'
  cases i with
  | zero =>
    cases hi
    exact (hleast below chain' hnext hall').imp (congrArg _) .cons
  | succ i =>
    -- a chain of a later route is later, whatever follows
    exact Or.inr (.rel (Nat.succ_pos i))

theorem FirstAmong.cons_none {found : Option Match} (h : FirstAmong route.Chain request none)
    (hrest : FirstAmong (Route.ChainIn routes) request found) :
    FirstAmong (Route.ChainIn (route :: routes)) request found := by
  cases found with
  | none =>
    rintro _ chain ⟨i, below, next, rfl, hi, hnext⟩ hall
    cases i with
    | zero =>
      cases hi
      exact h below chain hnext hall
    | succ i => exact hrest _ chain ⟨i, below, next, rfl, hi, hnext⟩ hall
  | some m =>
    obtain ⟨path, chain, ⟨i, below, next, rfl, hi, hnext⟩, hall, hleast, hlast, hvars⟩ := hrest
    refine ⟨(i + 1) :: below, chain, ⟨i + 1, below, next, rfl, hi, hnext⟩, hall, ?_, hlast, hvars⟩
    rintro _ chain' ⟨i', below', next', rfl, hi', hnext'⟩ hall'
    cases i' with
    | zero =>
      cases hi'
      exact absurd hall' (h below' chain' hnext')
    | succ i' =>
      -- the order of two chains stays when the first index of both goes up
      have hle := hleast _ chain' ⟨i', below', next', rfl, hi', hnext'⟩ hall'
      rcases hle with heq | hlex
      · rw [List.cons_eq_cons] at heq
        exact Or.inl (by rw [heq.1, heq.2])
      · cases hlex with
        | cons hbelow => exact Or.inr (.cons hbelow)
        | rel hlt => exact Or.inr (.rel (Nat.succ_lt_succ hlt))

/-- A route that does not accept a request is on no chain that does. -/
theorem firstAmong_none (h : ¬ route.Accepts request) : FirstAmong route.Chain request none := by
  intro path chain hchain hall
  cases hchain with
  | last => exact h (hall route List.mem_cons_self)
  | inner => exact h (hall route List.mem_cons_self)

/-- A route without a nested router that accepts a request is the only one on its chain. -/
theorem FirstAmong.last {vars : Vars} (hnested : route.nested = none)
    (haccepts : route.Accepts request)
    (hvalue : ∀ name, vars.get? name = route.valueOf? request name) :
    FirstAmong route.Chain request (some ⟨route, vars⟩) := by
  refine ⟨[], [route], .last hnested, List.forall_mem_singleton.2 haccepts, ?_, rfl, fun name => ?_⟩
  · rintro path' chain' hchain' -
    cases hchain' with
    | last => exact Or.inl rfl
    | inner h => rw [hnested] at h; cases h
  · rw [hvalue, List.reverse_singleton, List.findSome?_singleton]

/-! ### Resolution -/

/-- What resolving a request against one route comes to, given what it comes to in its nested
router. -/
theorem resolve_found (route : Route) : (route.resolve request).found =
    (route.settings.extract? request).bind fun vars =>
      if (checkAll route.position request 0 route.settings.matchers).1 then
        match route.nested with
        | none => some ⟨route, vars⟩
        | some routes => (Route.resolveFirst request routes).found.map fun m =>
          ⟨m.route, vars.extend m.vars⟩
      else none := by
  obtain ⟨position, settings, nested⟩ := route
  rw [Route.resolve]
  change _ = (settings.extract? request).bind _
  cases settings.extract? request with
  | none => rfl
  | some vars =>
    change _ = if (checkAll position request 0 settings.matchers).1 = true then _ else _
    simp only
    by_cases hpassed : (checkAll position request 0 settings.matchers).1 = true
    · rw [if_pos hpassed, if_pos hpassed]
      cases nested <;> rfl
    · rw [if_neg hpassed, if_neg hpassed]

theorem resolve_found_none (h : ¬ route.Accepts request) : (route.resolve request).found = none := by
  rw [resolve_found]
  cases hvars : route.settings.extract? request with
  | none => rfl
  | some vars =>
    have hchecked : ¬(checkAll route.position request 0 route.settings.matchers).1 = true :=
      fun hchecked => h (accepts_iff.2 ⟨⟨vars, hvars⟩, hchecked⟩)
    rw [Option.bind_some, if_neg hchecked]

/-- A route that accepts a request gives its variables to the match, those of inner routes win. -/
theorem resolve_first_of {route : Route}
    (h : ∀ routes, route.nested = some routes →
      FirstAmong (Route.ChainIn routes) request (Route.resolveFirst request routes).found ∧
        ∀ m, (Route.resolveFirst request routes).found = some m → m.vars.Distinct) :
    FirstAmong route.Chain request (route.resolve request).found ∧
      ∀ m, (route.resolve request).found = some m → m.vars.Distinct := by
  by_cases haccepts : route.Accepts request
  · obtain ⟨⟨vars, hvars⟩, hchecked⟩ := accepts_iff.1 haccepts
    obtain ⟨hdistinct, hvalue⟩ := get?_of_extract? hvars
    rw [resolve_found, hvars, Option.bind_some, if_pos hchecked]
    cases hnested : route.nested with
    | none =>
      refine ⟨.last hnested haccepts hvalue, fun m hm => ?_⟩
      cases hm
      exact hdistinct
    | some routes =>
      obtain ⟨hfirst, hinner⟩ := h routes hnested
      refine ⟨hfirst.inner hnested haccepts hvalue hinner, fun m hm => ?_⟩
      obtain ⟨m', -, rfl⟩ := Option.map_eq_some_iff.1 hm
      exact hdistinct.extend
  · rw [resolve_found_none haccepts]
    exact ⟨firstAmong_none haccepts, fun m hm => by cases hm⟩

mutual

/-- **One route** finds the first of the chains that start at it. -/
theorem Route.resolve_first (request : Request) : ∀ route : Route,
    FirstAmong route.Chain request (route.resolve request).found ∧
      ∀ m, (route.resolve request).found = some m → m.vars.Distinct
  | .mk _ _ none => resolve_first_of fun _ h => by cases h
  | .mk _ _ (some routes) => resolve_first_of fun _ h => by
    cases h
    exact Route.resolveFirst_first request routes

/-- **Several routes** find the first of the chains that start at one of them. -/
theorem Route.resolveFirst_first (request : Request) : ∀ routes : List Route,
    FirstAmong (Route.ChainIn routes) request (Route.resolveFirst request routes).found ∧
      ∀ m, (Route.resolveFirst request routes).found = some m → m.vars.Distinct
  | [] => by
    rw [Route.resolveFirst]
    refine ⟨?_, fun m hm => by cases hm⟩
    rintro _ chain ⟨i, below, next, rfl, hi, -⟩
    cases hi
  | route :: rest => by
    obtain ⟨hroute, hdistinct⟩ := Route.resolve_first request route
    obtain ⟨hrest, hdistinct'⟩ := Route.resolveFirst_first request rest
    rw [Route.resolveFirst]
    -- the later routes are tried only if the first finds nothing
    cases hfound : (route.resolve request).found with
    | some m =>
      rw [hfound] at hroute
      simp only
      exact ⟨hroute.cons_some, fun m' hm' => hdistinct m' (hfound.trans hm')⟩
    | none =>
      rw [hfound] at hroute
      simp only
      exact ⟨.cons_none hroute hrest, hdistinct'⟩

end

/-- **Resolution is the first match of the flat table of chains.** A request is resolved exactly if
some chain consists of routes that all accept it on their own. It is then resolved to the end of the
first such chain, with the values that the routes of this chain extract, of which the inner ones
win. -/
theorem Router.resolve_eq_first_chain (router : Router) (request : Request) :
    ((router.resolve request).found.isSome = true ↔
      ∃ path chain, router.Chain path chain ∧ ∀ r ∈ chain, r.Accepts request) ∧
    ∀ m, (router.resolve request).found = some m →
      ∃ path chain, router.Chain path chain ∧ (∀ r ∈ chain, r.Accepts request) ∧
        (∀ path' chain', router.Chain path' chain' → (∀ r ∈ chain', r.Accepts request) →
          path = path' ∨ List.Lex (· < ·) path path') ∧
        chain.getLast? = some m.route ∧
        ∀ name, m.vars.get? name = chain.reverse.findSome? (Route.valueOf? request name) := by
  obtain ⟨hfirst, -⟩ := Route.resolveFirst_first request router.routes
  rw [Router.resolve]
  cases hfound : (Route.resolveFirst request router.routes).found with
  | none =>
    rw [hfound] at hfirst
    refine ⟨⟨fun h => (by cases h), ?_⟩, fun m hm => by cases hm⟩
    rintro ⟨path, chain, hchain, hall⟩
    exact absurd hall (hfirst path chain hchain)
  | some m =>
    rw [hfound] at hfirst
    refine ⟨⟨fun _ => ?_, fun _ => rfl⟩, fun m' hm' => ?_⟩
    · obtain ⟨path, chain, hchain, hall, -⟩ := hfirst
      exact ⟨path, chain, hchain, hall⟩
    · cases hm'
      exact hfirst

end RequestRouter
