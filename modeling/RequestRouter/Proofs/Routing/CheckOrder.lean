import Mathlib.Tactic
import RequestRouter.Proofs.Routing.FirstMatch
import RequestRouter.Proofs.Routing.Names

/-!
# Which checks are made, and in which order

Resolving a request leaves a record of the matchers that were asked. The record is in the order of
the tree, and it has exactly the matchers that the search comes to: those of the routes it gets to,
up to the first of the route that fails.

* `Check.Before`: the order of the tree: positions lexicographically, so that a route comes before
  those nested in it, then the indices of its matchers.
* `Route.Asks`, `Reached`: what it takes for a matcher to be asked.
* `mem_checkAll`: the matchers of one route.
* `Route.mem_checks`, `Route.mem_checksFirst`: the checks of one route with everything nested in it,
  and of several routes; `Route.pairwise_checks`, `Route.pairwise_checksFirst`: their order.
* `checks_in_order`: **the checks that are made**, for every router of a tree.
-/

namespace RequestRouter

/-- **The order of the tree.** A position is before those it is the start of, so the matchers of a
route come before those of the routes nested in it. -/
def Check.Before (a b : Check) : Prop :=
  List.Lex (· < ·) a.position b.position ∨ a.position = b.position ∧ a.index < b.index

/-- A matcher that a route asks once it is reached: its templates match, and all its matchers before
this one pass. -/
structure Route.Asks (request : Request) (route : Route) (index : Nat) (m : Matcher) : Prop where
  host : ∀ t, route.settings.host = some t → (t.captures? request.host).isSome = true
  path : ∀ t, route.settings.path = some t → (t.captures? request.path).isSome = true
  here : route.settings.matchers[index]? = some m
  before : ∀ i m', i < index → route.settings.matchers[i]? = some m' → m'.accepts request = true

/-- The search gets to a place: all routes above it accept the request on their own, and no chain that
ends before it consists of such routes. -/
structure Reached (at? : List Nat → Option Route) (chains : List Nat → List Route → Prop)
    (request : Request) (path : List Nat) : Prop where
  above : ∀ start r, start <+: path → start ≠ path → at? start = some r → r.Accepts request
  earlier : ∀ path' chain, chains path' chain → List.Lex (· < ·) path' path →
    ¬ ∀ r ∈ chain, r.Accepts request

variable {request : Request} {route : Route} {routes : List Route} {c : Check}

/-! ### The matchers of one route -/

theorem mem_checkAll (position : Position) (index : Nat) (matchers : List Matcher) :
    c ∈ (checkAll position request index matchers).2 ↔
      ∃ i m, c = ⟨position, index + i, m.label?⟩ ∧ matchers[i]? = some m ∧
        ∀ i' m', i' < i → matchers[i']? = some m' → m'.accepts request = true := by
  induction matchers generalizing index with
  | nil => simp [checkAll]
  | cons m rest ih =>
    have hfirst : (∃ i m', c = ⟨position, index + i, m'.label?⟩ ∧ (m :: rest)[i]? = some m' ∧
        ∀ i' m'', i' < i → (m :: rest)[i']? = some m'' → m''.accepts request = true) ↔
        c = ⟨position, index, m.label?⟩ ∨ m.accepts request = true ∧
          ∃ i m', c = ⟨position, index + 1 + i, m'.label?⟩ ∧ rest[i]? = some m' ∧
            ∀ i' m'', i' < i → rest[i']? = some m'' → m''.accepts request = true := by
      constructor
      · rintro ⟨i, m', hc, hi, hbefore⟩
        cases i with
        | zero =>
          cases hi
          exact Or.inl hc
        | succ i =>
          refine Or.inr ⟨hbefore 0 m (Nat.succ_pos i) rfl, i, m', ?_, hi, ?_⟩
          · rw [hc, show index + (i + 1) = index + 1 + i by omega]
          · intro i' m'' hlt hi'
            exact hbefore (i' + 1) m'' (Nat.succ_lt_succ hlt) hi'
      · rintro (hc | ⟨hm, i, m', hc, hi, hbefore⟩)
        · exact ⟨0, m, hc, rfl, fun i' _ hlt => absurd hlt (Nat.not_lt_zero i')⟩
        · refine ⟨i + 1, m', ?_, hi, ?_⟩
          · rw [hc, show index + (i + 1) = index + 1 + i by omega]
          · intro i' m'' hlt hi'
            cases i' with
            | zero =>
              cases hi'
              exact hm
            | succ i' => exact hbefore i' m'' (Nat.lt_of_succ_lt_succ hlt) hi'
    rw [hfirst, ← ih (index + 1), checkAll]
    by_cases hm : m.accepts request = true
    · simp [hm]
    · simp [hm]

theorem pairwise_checkAll (position : Position) (index : Nat) (matchers : List Matcher) :
    (checkAll position request index matchers).2.Pairwise Check.Before := by
  induction matchers generalizing index with
  | nil => exact List.Pairwise.nil
  | cons m rest ih =>
    rw [checkAll]
    split
    · refine List.pairwise_cons.2 ⟨fun c hc => ?_, ih (index + 1)⟩
      obtain ⟨i, m', rfl, -, -⟩ := (mem_checkAll position (index + 1) rest).1 hc
      exact Or.inr ⟨rfl, by show index < index + 1 + i; omega⟩
    · exact List.pairwise_singleton _ _

/-! ### Places in a tree -/

theorem atIn?_zero (route : Route) (routes : List Route) (below : List Nat) :
    Route.atIn? (0 :: below) (route :: routes) = route.at? below := by
  rw [Route.atIn?_cons]
  rfl

theorem atIn?_succ (route : Route) (routes : List Route) (i : Nat) (below : List Nat) :
    Route.atIn? ((i + 1) :: below) (route :: routes) = Route.atIn? (i :: below) routes := by
  rw [Route.atIn?_cons, Route.atIn?_cons]
  rfl

theorem at?_nested (hnested : route.nested = some routes) (i : Nat) (below : List Nat) :
    route.at? (i :: below) = Route.atIn? (i :: below) routes := by
  rw [Route.at?, hnested, Option.bind_some]

theorem reached_nil : Reached route.at? route.Chain request [] := by
  refine ⟨fun start r hstart hne => ?_, fun path' chain _ hlex => by cases hlex⟩
  exact absurd (List.prefix_nil.1 hstart) hne

/-- A place in a nested router is reached if the route that holds it accepts the request, and the
place is reached in the nested router. -/
theorem reached_nested_iff (hnested : route.nested = some routes) (i : Nat) (below : List Nat) :
    Reached route.at? route.Chain request (i :: below) ↔ route.Accepts request ∧
      Reached (Route.atIn? · routes) (Route.ChainIn routes) request (i :: below) := by
  constructor
  · intro h
    have haccepts : route.Accepts request :=
      h.above [] route List.nil_prefix (List.cons_ne_nil i below).symm rfl
    refine ⟨haccepts, ?_, ?_⟩
    · intro start r hstart hne hr
      cases start with
      | nil => cases hr
      | cons j start => exact h.above (j :: start) r hstart hne ((at?_nested hnested j start).trans hr)
    · rintro path' chain ⟨j, below', next, rfl, hj, hchain⟩ hlex hall
      exact h.earlier (j :: below') (route :: chain) (.inner hnested hj hchain) hlex
        (List.forall_mem_cons.2 ⟨haccepts, hall⟩)
  · rintro ⟨haccepts, h⟩
    refine ⟨?_, ?_⟩
    · intro start r hstart hne hr
      cases start with
      | nil =>
        cases hr
        exact haccepts
      | cons j start => exact h.above (j :: start) r hstart hne ((at?_nested hnested j start).symm.trans hr)
    · intro path' chain hchain hlex hall
      cases hchain with
      | last hnone => rw [hnested] at hnone; cases hnone
      | @inner _ next routes' j below' chain hnested' hj hnext =>
        rw [hnested] at hnested'
        cases hnested'
        exact h.earlier (j :: below') chain ⟨j, below', next, rfl, hj, hnext⟩ hlex
          fun r hr => hall r (List.mem_cons_of_mem _ hr)

/-- A place below the first of several routes is reached as it is from that route. -/
theorem reached_head_iff (below : List Nat) :
    Reached (Route.atIn? · (route :: routes)) (Route.ChainIn (route :: routes)) request
      (0 :: below) ↔ Reached route.at? route.Chain request below := by
  constructor
  · intro h
    refine ⟨?_, ?_⟩
    · intro start r hstart hne hr
      refine h.above (0 :: start) r ((List.prefix_cons_inj 0).2 hstart) ?_
        ((atIn?_zero route routes start).trans hr)
      exact fun heq => hne (List.cons.inj heq).2
    · intro path' chain hchain hlex
      exact h.earlier (0 :: path') chain ⟨0, path', route, rfl, rfl, hchain⟩ (.cons hlex)
  · intro h
    refine ⟨?_, ?_⟩
    · intro start r hstart hne hr
      cases start with
      | nil => cases hr
      | cons j start =>
        obtain ⟨rfl, hbelow⟩ := List.cons_prefix_cons.1 hstart
        exact h.above start r hbelow (fun heq => hne (by rw [heq]))
          ((atIn?_zero route routes start).symm.trans hr)
    · rintro path' chain ⟨j, below', next, rfl, hj, hchain⟩ hlex
      cases hlex with
      | cons hlex =>
        cases hj
        exact h.earlier below' chain hchain hlex
      | rel hlt => exact absurd hlt (Nat.not_lt_zero j)

/-- A place below a later route is reached if no chain of the first one accepts the request, and the
place is reached among the others. -/
theorem reached_tail_iff (i : Nat) (below : List Nat) :
    Reached (Route.atIn? · (route :: routes)) (Route.ChainIn (route :: routes)) request
      ((i + 1) :: below) ↔
      (∀ path' chain, route.Chain path' chain → ¬ ∀ r ∈ chain, r.Accepts request) ∧
        Reached (Route.atIn? · routes) (Route.ChainIn routes) request (i :: below) := by
  constructor
  · intro h
    refine ⟨?_, ?_, ?_⟩
    · intro path' chain hchain
      exact h.earlier (0 :: path') chain ⟨0, path', route, rfl, rfl, hchain⟩
        (.rel (Nat.succ_pos i))
    · intro start r hstart hne hr
      cases start with
      | nil => cases hr
      | cons j start =>
        obtain ⟨rfl, hbelow⟩ := List.cons_prefix_cons.1 hstart
        refine h.above ((j + 1) :: start) r ((List.prefix_cons_inj _).2 hbelow) ?_
          ((atIn?_succ route routes j start).trans hr)
        exact fun heq => hne (by rw [(List.cons.inj heq).2])
    · rintro path' chain ⟨j, below', next, rfl, hj, hchain⟩ hlex
      refine h.earlier ((j + 1) :: below') chain ⟨j + 1, below', next, rfl, hj, hchain⟩ ?_
      cases hlex with
      | cons hlex => exact .cons hlex
      | rel hlt => exact .rel (Nat.succ_lt_succ hlt)
  · rintro ⟨hfirst, h⟩
    refine ⟨?_, ?_⟩
    · intro start r hstart hne hr
      cases start with
      | nil => cases hr
      | cons j start =>
        obtain ⟨rfl, hbelow⟩ := List.cons_prefix_cons.1 hstart
        refine h.above (i :: start) r ((List.prefix_cons_inj _).2 hbelow) ?_
          ((atIn?_succ route routes i start).symm.trans hr)
        exact fun heq => hne (by rw [(List.cons.inj heq).2])
    · rintro path' chain ⟨j, below', next, rfl, hj, hchain⟩ hlex
      cases j with
      | zero =>
        cases hj
        exact hfirst below' chain hchain
      | succ j =>
        refine h.earlier (j :: below') chain ⟨j, below', next, rfl, hj, hchain⟩ ?_
        cases hlex with
        | cons hlex => exact .cons hlex
        | rel hlt => exact .rel (Nat.lt_of_succ_lt_succ hlt)

/-! ### The checks of a route and of several routes -/

/-- The checks that resolving a request against one route makes: its own, then, if it accepts the
request, those in its nested router. -/
theorem resolve_checks (route : Route) : (route.resolve request).checks =
    if (route.settings.extract? request).isSome then
      (checkAll route.position request 0 route.settings.matchers).2 ++
        (if (checkAll route.position request 0 route.settings.matchers).1 then
          match route.nested with
          | none => []
          | some routes => (Route.resolveFirst request routes).checks
        else [])
    else [] := by
  obtain ⟨position, settings, nested⟩ := route
  rw [Route.resolve]
  change _ = if (settings.extract? request).isSome then _ else _
  cases settings.extract? request with
  | none => rfl
  | some vars =>
    change _ = (checkAll position request 0 settings.matchers).2 ++
      if (checkAll position request 0 settings.matchers).1 then _ else _
    simp only
    by_cases hpassed : (checkAll position request 0 settings.matchers).1 = true
    · rw [if_pos hpassed, if_pos hpassed]
      cases nested with
      | none => exact (List.append_nil _).symm
      | some routes => rfl
    · rw [if_neg hpassed, if_neg hpassed, List.append_nil]

theorem resolveFirst_checks (route : Route) (routes : List Route) :
    (Route.resolveFirst request (route :: routes)).checks = (route.resolve request).checks ++
      (if (route.resolve request).found.isSome then []
      else (Route.resolveFirst request routes).checks) := by
  rw [Route.resolveFirst]
  cases (route.resolve request).found with
  | none => rfl
  | some m => simp

/-- A check that is made: of a matcher that a route asks, at a place that the search gets to. -/
def Made (at? : List Nat → Option Route) (chains : List Nat → List Route → Prop)
    (request : Request) (c : Check) : Prop :=
  ∃ path r m, at? path = some r ∧ c.position = r.position ∧ c.label = m.label? ∧
    r.Asks request c.index m ∧ Reached at? chains request path

/-- A route makes its own checks if its templates match. -/
theorem mem_own_iff : (route.settings.extract? request).isSome = true ∧
    c ∈ (checkAll route.position request 0 route.settings.matchers).2 ↔
      ∃ m, c.position = route.position ∧ c.label = m.label? ∧ route.Asks request c.index m := by
  obtain ⟨position, index, label⟩ := c
  rw [Option.isSome_iff_exists, extract?_isSome, mem_checkAll]
  simp only [Nat.zero_add, Check.mk.injEq]
  constructor
  · rintro ⟨⟨hhost, hpath⟩, i, m, ⟨rfl, rfl, rfl⟩, hm, hbefore⟩
    exact ⟨m, rfl, rfl, hhost, hpath, hm, hbefore⟩
  · rintro ⟨m, rfl, rfl, hhost, hpath, hm, hbefore⟩
    exact ⟨⟨hhost, hpath⟩, index, m, ⟨rfl, rfl, rfl⟩, hm, hbefore⟩

/-- The checks that are made from a route on: its own, and those in its nested router if it accepts
the request. -/
theorem made_route_iff : Made route.at? route.Chain request c ↔
    (∃ m, c.position = route.position ∧ c.label = m.label? ∧ route.Asks request c.index m) ∨
      ∃ routes, route.nested = some routes ∧ route.Accepts request ∧
        Made (Route.atIn? · routes) (Route.ChainIn routes) request c := by
  constructor
  · rintro ⟨path, r, m, hr, hposition, hlabel, hasks, hreached⟩
    cases path with
    | nil =>
      cases hr
      exact Or.inl ⟨m, hposition, hlabel, hasks⟩
    | cons i below =>
      obtain ⟨routes, hnested, hr⟩ := Option.bind_eq_some_iff.1 hr
      obtain ⟨haccepts, hreached⟩ := (reached_nested_iff hnested i below).1 hreached
      exact Or.inr ⟨routes, hnested, haccepts, i :: below, r, m, hr, hposition, hlabel, hasks,
        hreached⟩
  · rintro (⟨m, hposition, hlabel, hasks⟩ |
      ⟨routes, hnested, haccepts, path, r, m, hr, hposition, hlabel, hasks, hreached⟩)
    · exact ⟨[], route, m, rfl, hposition, hlabel, hasks, reached_nil⟩
    · cases path with
      | nil => cases hr
      | cons i below =>
        exact ⟨i :: below, r, m, (at?_nested hnested i below).trans hr, hposition, hlabel, hasks,
          (reached_nested_iff hnested i below).2 ⟨haccepts, hreached⟩⟩

/-- The checks that are made among several routes: those of the first, and the others if no chain of
the first accepts the request. -/
theorem made_cons_iff :
    Made (Route.atIn? · (route :: routes)) (Route.ChainIn (route :: routes)) request c ↔
      Made route.at? route.Chain request c ∨
        (∀ path chain, route.Chain path chain → ¬ ∀ r ∈ chain, r.Accepts request) ∧
          Made (Route.atIn? · routes) (Route.ChainIn routes) request c := by
  constructor
  · rintro ⟨path, r, m, hr, hposition, hlabel, hasks, hreached⟩
    match path with
    | [] => cases hr
    | 0 :: below =>
      exact Or.inl ⟨below, r, m, (atIn?_zero route routes below).symm.trans hr, hposition, hlabel,
        hasks, (reached_head_iff below).1 hreached⟩
    | (i + 1) :: below =>
      obtain ⟨hfirst, hreached⟩ := (reached_tail_iff i below).1 hreached
      exact Or.inr ⟨hfirst, i :: below, r, m, (atIn?_succ route routes i below).symm.trans hr,
        hposition, hlabel, hasks, hreached⟩
  · rintro (⟨below, r, m, hr, hposition, hlabel, hasks, hreached⟩ |
      ⟨hfirst, path, r, m, hr, hposition, hlabel, hasks, hreached⟩)
    · exact ⟨0 :: below, r, m, (atIn?_zero route routes below).trans hr, hposition, hlabel, hasks,
        (reached_head_iff below).2 hreached⟩
    · cases path with
      | nil => cases hr
      | cons i below =>
        exact ⟨(i + 1) :: below, r, m, (atIn?_succ route routes i below).trans hr, hposition, hlabel,
          hasks, (reached_tail_iff i below).2 ⟨hfirst, hreached⟩⟩

/-- A route finds nothing exactly if none of its chains accepts the request. -/
theorem found_eq_none_iff : (route.resolve request).found = none ↔
    ∀ path chain, route.Chain path chain → ¬ ∀ r ∈ chain, r.Accepts request := by
  obtain ⟨hfirst, -⟩ := Route.resolve_first request route
  cases hfound : (route.resolve request).found with
  | none =>
    rw [hfound] at hfirst
    exact ⟨fun _ => hfirst, fun _ => rfl⟩
  | some m =>
    rw [hfound] at hfirst
    obtain ⟨path, chain, hchain, hall, -⟩ := hfirst
    exact ⟨fun h => (by cases h), fun h => absurd hall (h path chain hchain)⟩

/-- What one route checks, given what is checked in its nested router. -/
theorem mem_checks_of {route : Route} (h : ∀ routes, route.nested = some routes →
      (c ∈ (Route.resolveFirst request routes).checks ↔
        Made (Route.atIn? · routes) (Route.ChainIn routes) request c)) :
    c ∈ (route.resolve request).checks ↔ Made route.at? route.Chain request c := by
  rw [made_route_iff, ← mem_own_iff, resolve_checks]
  by_cases hsome : (route.settings.extract? request).isSome = true
  · have haccepts : route.Accepts request ↔
        (checkAll route.position request 0 route.settings.matchers).1 = true := by
      rw [accepts_iff, ← Option.isSome_iff_exists]
      exact ⟨fun h => h.2, fun h => ⟨hsome, h⟩⟩
    rw [if_pos hsome, List.mem_append, haccepts]
    refine or_congr ⟨fun hc => ⟨hsome, hc⟩, fun hc => hc.2⟩ ?_
    by_cases hpassed : (checkAll route.position request 0 route.settings.matchers).1 = true
    · rw [if_pos hpassed]
      cases hnested : route.nested with
      | none => simp
      | some routes =>
        simp only [h routes hnested, hpassed, true_and, Option.some.injEq, exists_eq_left']
    · simp [hpassed]
  · -- where a template fails, the route neither asks a matcher nor accepts the request
    rw [if_neg hsome]
    constructor
    · intro hc
      cases hc
    · rintro (⟨hsome', -⟩ | ⟨routes, -, haccepts, -⟩)
      · exact absurd hsome' hsome
      · exact absurd (Option.isSome_iff_exists.2 (accepts_iff.1 haccepts).1) hsome

mutual

/-- **One route** makes the checks of the places that the search gets to. -/
theorem Route.mem_checks (request : Request) (c : Check) : ∀ route : Route,
    c ∈ (route.resolve request).checks ↔ Made route.at? route.Chain request c
  | .mk _ _ none => mem_checks_of fun _ h => by cases h
  | .mk _ _ (some routes) => mem_checks_of fun _ h => by
    cases h
    exact Route.mem_checksFirst request c routes

/-- **Several routes** make those of the places that the search gets to among them. -/
theorem Route.mem_checksFirst (request : Request) (c : Check) : ∀ routes : List Route,
    c ∈ (Route.resolveFirst request routes).checks ↔
      Made (Route.atIn? · routes) (Route.ChainIn routes) request c
  | [] => by
    constructor
    · intro hc
      cases hc
    · rintro ⟨path, r, m, hr, -⟩
      cases path with
      | nil => cases hr
      | cons i below =>
        change Route.atIn? (i :: below) [] = some r at hr
        rw [Route.atIn?_cons] at hr
        cases hr
  | route :: rest => by
    have hroute := Route.mem_checks request c route
    have hrest := Route.mem_checksFirst request c rest
    rw [resolveFirst_checks, List.mem_append, made_cons_iff, ← found_eq_none_iff, hroute, ← hrest]
    -- the later routes are tried only if the first finds nothing
    cases (route.resolve request).found <;> simp

end

/-! ### The order of the checks -/

/-- Positions follow the order of the places in the tree. -/
def InOrder (at? : List Nat → Option Route) : Prop :=
  ∀ path path' r r', at? path = some r → at? path' = some r' → List.Lex (· < ·) path path' →
    List.Lex (· < ·) r.position r'.position

theorem InOrder.nested (h : InOrder route.at?) (hnested : route.nested = some routes) :
    InOrder (Route.atIn? · routes) := by
  have hat : ∀ path r, Route.atIn? path routes = some r → route.at? path = some r := by
    intro path r hr
    cases path with
    | nil => cases hr
    | cons i below => exact (at?_nested hnested i below).trans hr
  intro path path' r r' hr hr'
  exact h path path' r r' (hat path r hr) (hat path' r' hr')

theorem InOrder.head (h : InOrder (Route.atIn? · (route :: routes))) : InOrder route.at? := by
  intro path path' r r' hr hr' hlex
  exact h (0 :: path) (0 :: path') r r' ((atIn?_zero route routes path).trans hr)
    ((atIn?_zero route routes path').trans hr') (.cons hlex)

theorem InOrder.tail (h : InOrder (Route.atIn? · (route :: routes))) :
    InOrder (Route.atIn? · routes) := by
  intro path path' r r' hr hr' hlex
  match path, path' with
  | [], _ => cases hr
  | _, [] => cases hr'
  | i :: below, i' :: below' =>
    refine h ((i + 1) :: below) ((i' + 1) :: below') r r'
      ((atIn?_succ route routes i below).trans hr) ((atIn?_succ route routes i' below').trans hr') ?_
    cases hlex with
    | cons hlex => exact .cons hlex
    | rel hlt => exact .rel (Nat.succ_lt_succ hlt)

/-- The checks of one route are in order, given that those in its nested router are. -/
theorem pairwise_checks_of {route : Route} (hroute : InOrder route.at?)
    (h : ∀ routes, route.nested = some routes →
      (Route.resolveFirst request routes).checks.Pairwise Check.Before) :
    (route.resolve request).checks.Pairwise Check.Before := by
  have hown : (checkAll route.position request 0 route.settings.matchers).2.Pairwise Check.Before :=
    pairwise_checkAll route.position 0 route.settings.matchers
  rw [resolve_checks]
  split
  · refine List.pairwise_append.2 ⟨hown, ?_, fun a ha b hb => ?_⟩
    · split
      · split
        · exact List.Pairwise.nil
        · rename_i routes hnested
          exact h routes hnested
      · exact List.Pairwise.nil
    · -- the matchers of a route come before those of the routes nested in it
      obtain ⟨i, m, rfl, -, -⟩ := (mem_checkAll route.position 0 route.settings.matchers).1 ha
      split at hb
      · split at hb
        · cases hb
        · rename_i routes hnested
          obtain ⟨path, r, m', hr, hposition, -⟩ := (Route.mem_checksFirst request b routes).1 hb
          cases path with
          | nil => cases hr
          | cons j below =>
            refine Or.inl ?_
            rw [hposition]
            exact hroute [] (j :: below) route r rfl ((at?_nested hnested j below).trans hr) .nil
      · cases hb
  · exact List.Pairwise.nil

mutual

/-- **One route** makes its checks in the order of the tree. -/
theorem Route.pairwise_checks (request : Request) : ∀ route : Route, InOrder route.at? →
    (route.resolve request).checks.Pairwise Check.Before
  | .mk _ _ none, h => pairwise_checks_of h fun _ hnested => by cases hnested
  | .mk _ _ (some routes), h => pairwise_checks_of h fun _ hnested => by
    cases hnested
    exact Route.pairwise_checksFirst request routes (h.nested rfl)

/-- **Several routes** make their checks in the order of the tree. -/
theorem Route.pairwise_checksFirst (request : Request) : ∀ routes : List Route,
    InOrder (Route.atIn? · routes) →
    (Route.resolveFirst request routes).checks.Pairwise Check.Before
  | [], _ => List.Pairwise.nil
  | route :: rest, h => by
    rw [resolveFirst_checks]
    refine List.pairwise_append.2 ⟨Route.pairwise_checks request route h.head, ?_, ?_⟩
    · split
      · exact List.Pairwise.nil
      · exact Route.pairwise_checksFirst request rest h.tail
    · intro a ha b hb
      split at hb
      · cases hb
      · -- a place below the first route is before any below the others
        obtain ⟨below, r, m, hr, hposition, -⟩ := (Route.mem_checks request a route).1 ha
        obtain ⟨path, r', m', hr', hposition', -⟩ := (Route.mem_checksFirst request b rest).1 hb
        cases path with
        | nil => cases hr'
        | cons i below' =>
          refine Or.inl ?_
          rw [hposition, hposition']
          exact h (0 :: below) ((i + 1) :: below') r r' ((atIn?_zero route rest below).trans hr)
            ((atIn?_succ route rest i below').trans hr') (.rel (Nat.succ_pos i))

end

/-! ### The routers of a tree -/

/-- **The checks that a router of a tree makes** for a request, where `above` are the indices that lead
to the router. -/
structure Router.ChecksInOrder (router : Router) (above : List Nat) (request : Request) :
    Prop where
  /-- They are made in the order of the tree. -/
  increasing : (router.resolve request).checks.Pairwise Check.Before
  /-- No matcher is asked twice. -/
  once : ((router.resolve request).checks.map fun c => (c.position, c.index)).Nodup
  /-- They are those of the matchers that are asked at the places that the search gets to. -/
  made_iff : ∀ c : Check, c ∈ (router.resolve request).checks ↔
    ∃ path r m, router.routeAt? path = some r ∧ c.position = above ++ path ∧ c.label = m.label? ∧
      r.Asks request c.index m ∧ Reached router.routeAt? router.Chain request path

namespace Site

/-- The position of a route below a router of the tree starts with the way to the router. -/
theorem Ordered.position_below {site : Site} {above path : List Nat} {router : Router}
    (h : site.Ordered) (hrouter : site.root.routerAt? above = some router)
    (hroute : router.routeAt? path = some route) : route.position = above ++ path := by
  refine h.position (above ++ path) route ?_
  rw [← Router.routeAt?_of_routerAt? hrouter (Router.path_ne_nil hroute), hroute]

/-- **The checks of a request** are made in the order of the tree, each at most once, and exactly those
are made that the search comes to: of the matchers of a route of which all routes around it accept the
request and no chain before it does, up to the first that fails. -/
theorem checks_in_order (calls : List Call) (above : List Nat) (router : Router)
    (hrouter : (empty.afterCalls calls).root.routerAt? above = some router) (request : Request) :
    router.ChecksInOrder above request := by
  have hordered := ordered_empty.afterCalls calls
  have hposition : ∀ path r, router.routeAt? path = some r → r.position = above ++ path :=
    fun path r hr => hordered.position_below hrouter hr
  have hinorder : InOrder router.routeAt? := by
    intro path path' r r' hr hr' hlex
    rw [hposition path r hr, hposition path' r' hr']
    exact List.Lex.append_left _ hlex above
  have hincreasing := Route.pairwise_checksFirst request router.routes hinorder
  refine ⟨hincreasing, ?_, fun c => ?_⟩
  · refine List.pairwise_map.2 (hincreasing.imp fun {a b} hbefore heq => ?_)
    obtain ⟨hpos, hindex⟩ := Prod.mk.inj heq
    rcases hbefore with hlex | ⟨-, hlt⟩
    · rw [hpos] at hlex
      exact List.lex_irrefl (fun _ => lt_irrefl _) _ hlex
    · omega
  · rw [Router.resolve, Route.mem_checksFirst]
    constructor
    · rintro ⟨path, r, m, hr, hpos, hlabel, hasks, hreached⟩
      exact ⟨path, r, m, hr, hpos.trans (hposition path r hr), hlabel, hasks, hreached⟩
    · rintro ⟨path, r, m, hr, hpos, hlabel, hasks, hreached⟩
      exact ⟨path, r, m, hr, hpos.trans (hposition path r hr).symm, hlabel, hasks, hreached⟩

/-- A nested router in which nothing matches, so that the search goes on with the next route. -/
theorem checks_in_order_of_failing_nested : ∃ router,
    (empty.afterCalls [.add [] (.pathPrefix "/a"),
      .configure [0] (.matcher (.custom (some "outer") fun _ => true)), .openNested [0],
      .add [0] (.path "/a/b"), .configure [0, 0] (.matcher (.custom (some "inner") fun _ => true)),
      .configure [0, 0] (.methods ["post"]),
      .configure [0, 0] (.matcher (.custom (some "unasked") fun _ => true)),
      .add [] (.matcher (.custom (some "next") fun _ => true))]).root.routerAt? [] = some router ∧
    (router.resolve (.new .get "/a/b")).checks = [⟨[0], 0, some "outer"⟩, ⟨[0, 0], 0, some "inner"⟩,
      ⟨[0, 0], 1, none⟩, ⟨[1], 0, some "next"⟩] ∧
    router.ChecksInOrder [] (.new .get "/a/b") := by
  refine ⟨_, rfl, ?_, checks_in_order _ [] _ rfl _⟩
  decide +kernel

end Site

end RequestRouter
