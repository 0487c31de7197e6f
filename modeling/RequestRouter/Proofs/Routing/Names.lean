import Mathlib.Tactic
import RequestRouter.Proofs.Routing.Calls
import RequestRouter.Routing.Url

/-!
# Positions and names

The position of a route, the name that it has, and the table of names are stored separately. They
agree after any calls, those that fail included.

* `Naming`: what directives do to the table and to the name of a route.
* `Site.accepted?`, `Site.acceptedNames`: the names that calls give to routes.
* `names_afterCalls`: **the table holds the accepted names.**
* `Site.Ordered`: positions are index paths, and the table leads to them.
* `names_in_order`: **a name leads to its route** from every router above the route, and to nothing
  from the others; no name is given twice.
-/

namespace RequestRouter

/-- The name that a directive gives. -/
def Directive.name? : Directive → Option String
  | .name n => some n
  | _ => none

/-- The name that a factory gives. -/
def Factory.name? : Factory → Option String
  | .name n => some n
  | _ => none

/-! ### The table -/

namespace NameTable

variable {table : NameTable} {n m : String} {position : Position}

/-- The names of the table, in the order of registration. -/
def names (table : NameTable) : List String :=
  table.entries.map (·.1)

theorem find?_eq_none : table.find? n = none ↔ n ∉ table.names := by
  rw [find?, List.lookup_eq_none_iff, names, List.mem_map]
  constructor
  · rintro h ⟨e, he, rfl⟩
    exact absurd rfl (bne_iff_ne.1 (h e he))
  · intro h e he
    exact bne_iff_ne.2 fun heq => h ⟨e, he, heq.symm⟩

theorem find?_isSome : (table.find? n).isSome = true ↔ n ∈ table.names := by
  rw [← not_iff_not, ← find?_eq_none, Bool.not_eq_true, Option.isSome_eq_false_iff,
    Option.isNone_iff_eq_none]

theorem find?_insert_self (h : table.find? n = none) :
    (table.insert n position).find? n = some position := by
  rw [find?] at h
  rw [find?, insert, List.lookup_append, h, Option.none_or, List.lookup_cons_self]

end NameTable

/-! ### What directives do to names -/

/-- What directives that give this name, if any, do to the table and to the name that a route has:
a name is given to the route and to the table, unless it is taken. Where they fail, the table stays as
it was. -/
inductive Naming (name? : Option String) (position : Position) (old : Option String)
    (before : NameTable) : Except RouterError Settings × Registry → Prop
  | failed {e : RouterError} {after : Registry} (h : after.names = before) :
    Naming name? position old before (.error e, after)
  | plain {settings : Settings} {after : Registry} (hname : name? = none)
    (hsettings : settings.name = old) (h : after.names = before) :
    Naming name? position old before (.ok settings, after)
  | given {settings : Settings} {after : Registry} {n : String} (hname : name? = some n)
    (hfree : before.find? n = none) (hsettings : settings.name = some n)
    (h : after.names = before.insert n position) :
    Naming name? position old before (.ok settings, after)

variable {position : Position} {settings : Settings} {registry : Registry} {n : String}

/-- A directive gives its name to the route, or leaves the name as it is. -/
theorem name_after {d : Directive} {settings' : Settings} (h : settings.after d = .ok settings') :
    settings'.name = d.name?.or settings.name := by
  cases d with
  | name m | matcher m | handler m =>
    cases h
    rfl
  | host template =>
    obtain ⟨t, -, rfl⟩ := Settings.withHost_eq_ok h
    rfl
  | path template | pathPrefix template =>
    rw [Settings.after] at h
    split at h
    · obtain ⟨t, -, rfl⟩ := Settings.withPath_eq_ok h
      rfl
    · cases h
  | methods names | schemes names | headers args | queries args =>
    obtain ⟨m, rfl⟩ := Settings.map_withMatcher_eq_ok h
    rfl

/-- **Each directive** does to names what its name says. -/
theorem naming_apply (position : Position) (settings : Settings) (registry : Registry)
    (d : Directive) : Naming d.name? position settings.name registry.names
      ((d.apply position settings).run registry) := by
  -- all directives but the one that gives a name leave the table alone
  have hplain (hname : d.name? = none) (hclaim : d.claim position = pure ()) :
      Naming d.name? position settings.name registry.names
        ((d.apply position settings).run registry) := by
    rw [Directive.run_apply, hclaim, Setup.run_pure]
    cases hafter : settings.after d with
    | error e => exact .failed rfl
    | ok settings' =>
      refine .plain hname ?_ rfl
      rw [name_after hafter, hname, Option.none_or]
  cases d with
  | name m =>
    rw [Directive.run_apply, Directive.claim, Setup.run_register]
    cases hfind : registry.names.find? m with
    | some position' => exact .failed rfl
    | none => exact .given rfl hfind rfl rfl
  | _ => exact hplain rfl rfl

/-- **A taken name** is refused. -/
theorem run_apply_taken (h : (registry.names.find? n).isSome = true) :
    (Directive.apply position settings (.name n)).run registry =
      (.error (.duplicateRouteName n), registry) := by
  rw [Directive.run_apply, Directive.claim, Setup.run_register, if_pos h]

/-- Directives that give no name leave the table and the name of the route as they are. -/
theorem naming_foldlM (position : Position) (settings : Settings) (registry : Registry)
    {directives : List Directive} (h : ∀ d ∈ directives, d.name? = none) :
    Naming none position settings.name registry.names
      ((directives.foldlM (fun settings (d : Directive) => d.apply position settings) settings).run
        registry) := by
  induction directives generalizing settings registry with
  | nil => exact .plain rfl rfl rfl
  | cons d rest ih =>
    rw [List.foldlM_cons, Setup.run_bind]
    have hd := naming_apply position settings registry d
    rw [h d List.mem_cons_self] at hd
    generalize (d.apply position settings).run registry = outcome at hd
    cases hd with
    | failed hnames => exact .failed hnames
    | plain hname hsettings hnames =>
      rw [← hsettings, ← hnames]
      exact ih _ _ fun d hd => h d (List.mem_cons_of_mem _ hd)
    | given hname => cases hname

/-- **Each factory** does to names what its name says. -/
theorem naming_settle (position : Position) (registry : Registry) (factory : Factory) :
    Naming factory.name? position none registry.names
      ((Router.settle position factory.directives).run registry) := by
  cases factory with
  | name m =>
    -- the only factory that gives a name is one directive, on a route that has none yet
    have h : Router.settle position (Factory.name m).directives =
        Directive.apply position .empty (.name m) := by
      simp only [Router.settle, Factory.directives, List.foldlM_cons, List.foldlM_nil, bind_pure]
    rw [h]
    exact naming_apply position .empty registry (.name m)
  | _ =>
    refine naming_foldlM position .empty registry ?_
    simp [Factory.directives, Directive.name?]

/-! ### The names that calls give -/

namespace Site

/-- The name that a call gives to a route: that of a directive for a route of the tree, or of a
factory of a router of the tree, if the call succeeds. -/
def accepted? (site : Site) (c : Call) : Option String :=
  match c with
  | .add path factory =>
    if (site.root.routerAt? path).isSome && (site.call c).1.isOk then factory.name? else none
  | .configure path d =>
    if (site.root.routeAt? path).isSome && (site.call c).1.isOk then d.name? else none
  | .openNested _ => none

/-- The names that calls give to routes, in order. -/
def acceptedNames (site : Site) : List Call → List String
  | [] => []
  | c :: calls => (site.accepted? c).toList ++ (site.call c).2.acceptedNames calls

variable {site : Site} {c : Call}

/-- What the calls that carry out directives do to the table. -/
theorem entries_call_of_naming {f : Settings → Router} {x : Setup Settings} {name? : Option String}
    {old : Option String} (h : c.edit site.root = f <$> x)
    (hnaming : Naming name? position old site.registry.names (x.run site.registry)) :
    (site.call c).2.registry.names.entries = site.registry.names.entries ++
      ((if (site.call c).1.isOk then name? else none).map (·, position)).toList := by
  have hcall := call_eq_of_map h
  generalize x.run site.registry = outcome at hnaming hcall
  cases hnaming with
  | failed hnames =>
    rw [hcall]
    simp [hnames, Except.isOk, Except.toBool]
  | plain hname _ hnames =>
    rw [hcall]
    simp [hnames, hname]
  | given hname _ _ hnames =>
    rw [hcall]
    simp [hnames, hname, NameTable.insert, Except.isOk, Except.toBool]

/-- **The table after a call** has the name that the call gives, after those that it had. -/
theorem entries_call (c : Call) : ∃ position, (site.call c).2.registry.names.entries =
    site.registry.names.entries ++ ((site.accepted? c).map (·, position)).toList := by
  cases c with
  | add path factory =>
    cases hrouter : site.root.routerAt? path with
    | none =>
      refine ⟨[], ?_⟩
      rw [call_add_absent factory hrouter, accepted?, hrouter]
      simp
    | some router =>
      obtain ⟨f, hf, -⟩ := edit_add factory hrouter
      refine ⟨router.next, ?_⟩
      rw [entries_call_of_naming hf (naming_settle _ _ factory), accepted?, hrouter]
      simp
  | configure path d =>
    cases hold : site.root.routeAt? path with
    | none =>
      refine ⟨[], ?_⟩
      rw [call_configure_absent d hold, accepted?, hold]
      simp
    | some old =>
      refine ⟨old.position, ?_⟩
      rw [entries_call_of_naming (edit_configure d hold) (naming_apply _ _ _ d), accepted?, hold]
      simp
  | openNested path =>
    refine ⟨[], ?_⟩
    rw [accepted?, Option.map_none, Option.toList_none, List.append_nil]
    cases hold : site.root.routeAt? path with
    | none => rw [call_openNested_absent hold]
    | some old =>
      rw [call_eq_of_map (edit_openNested hold), Route.openNested]
      cases old.nested <;> rfl

theorem names_call (c : Call) : (site.call c).2.registry.names.names =
    site.registry.names.names ++ (site.accepted? c).toList := by
  obtain ⟨position, h⟩ := site.entries_call c
  rw [NameTable.names, h, List.map_append, NameTable.names]
  cases site.accepted? c <;> rfl

/-- A name stays with its position. -/
theorem find?_call {n : String} (h : site.registry.names.find? n = some position) (c : Call) :
    (site.call c).2.registry.names.find? n = some position := by
  obtain ⟨position', hentries⟩ := site.entries_call c
  rw [NameTable.find?] at h
  rw [NameTable.find?, hentries, List.lookup_append, h, Option.some_or]

/-- **The table holds the accepted names**, and no others. -/
theorem names_afterCalls (calls : List Call) : (site.afterCalls calls).registry.names.names =
    site.registry.names.names ++ site.acceptedNames calls := by
  induction calls generalizing site with
  | nil => exact (List.append_nil _).symm
  | cons c calls ih =>
    rw [acceptedNames, ← List.append_assoc, ← names_call, ← ih]
    rfl

/-! ### Positions and names agree -/

/-- **Positions and names agree**: the position of a route is the index path that leads to it from the
root, and the table gives this position for its name. -/
structure Ordered (site : Site) : Prop where
  root : site.root.position = []
  position : ∀ path route, site.root.routeAt? path = some route → route.position = path
  find : ∀ path route n, site.root.routeAt? path = some route → route.name? = some n →
    site.registry.names.find? n = some path

theorem ordered_empty : empty.Ordered := by
  refine ⟨rfl, fun path route h => ?_, fun path route n h => ?_⟩
  · rw [routeAt?_empty] at h
    cases h
  · rw [routeAt?_empty] at h
    cases h

variable {path : List Nat} {route : Route} {router : Router} {n : String}

/-- The position of a router of the tree is the index path that leads to it. -/
theorem Ordered.routerAt? (h : site.Ordered) (hrouter : site.root.routerAt? path = some router) :
    router.position = path := by
  rcases Router.routerAt?_eq_some hrouter with ⟨rfl, rfl⟩ | ⟨owner, howner, -, hposition⟩
  · exact h.root
  · rw [hposition, h.position path owner howner]

/-- **Each call keeps** positions and names in agreement. -/
theorem Ordered.call (h : site.Ordered) (c : Call) : (site.call c).2.Ordered := by
  -- every route of the new tree comes from one of the old tree, or is the added one
  refine ⟨?_, fun path route hroute => ?_, fun path route n hroute hname => ?_⟩
  · rw [position_call, h.root]
  · cases origin_call hroute with
    | kept hold hposition => rw [hposition, h.position path _ hold]
    | configured _ hold hposition => rw [hposition, h.position path _ hold]
    | added _ hrouter hpath hposition => rw [hposition, Router.next, h.routerAt? hrouter, hpath]
  · cases origin_call hroute with
    | kept hold _ hsettings =>
      rw [Route.name?, hsettings] at hname
      exact find?_call (h.find path _ n hold hname) c
    | @configured old d _ hold _ hsettings =>
      have hnaming := naming_apply old.position old.settings site.registry d
      rw [hsettings] at hnaming
      cases hnaming with
      | plain _ hkept _ =>
        rw [Route.name?, hkept] at hname
        exact find?_call (h.find path _ n hold hname) c
      | given _ hfree hgiven hnames =>
        -- the table gets the stored position, which is the path by the invariant
        rw [Route.name?, hgiven] at hname
        cases hname
        rw [hnames, NameTable.find?_insert_self hfree, h.position path _ hold]
    | @added below factory router _ hrouter hpath _ hsettings =>
      have hnaming := naming_settle router.next site.registry factory
      rw [hsettings] at hnaming
      cases hnaming with
      | plain _ hnone _ =>
        rw [Route.name?, hnone] at hname
        cases hname
      | given _ hfree hgiven hnames =>
        rw [Route.name?, hgiven] at hname
        cases hname
        rw [hnames, NameTable.find?_insert_self hfree, Router.next, h.routerAt? hrouter, hpath]

/-- **Any calls keep** positions and names in agreement, those that fail included. -/
theorem Ordered.afterCalls (h : site.Ordered) (calls : List Call) :
    (site.afterCalls calls).Ordered := by
  induction calls generalizing site with
  | nil => exact h
  | cons c calls ih => exact ih (h.call c)

/-! ### Looking up a name -/

theorem named?_eq_of_find {names : NameTable} (h : names.find? n = some path) :
    router.named? names n =
      if router.position.isPrefixOf path then router.routeAt? (path.drop router.position.length)
      else none := by
  have hbind : router.named? names n = (router.relative? path).bind router.routeAt? := by
    rw [Router.named?, h]
    rfl
  rw [hbind, Router.relative?]
  split <;> rfl

theorem named?_of_not_accepted {names : NameTable} (h : names.find? n = none) :
    router.named? names n = none := by
  rw [Router.named?, h]
  rfl

/-- A name leads to its route from a router that contains it. -/
theorem Ordered.named?_inside {above below : List Nat} (h : site.Ordered)
    (hname : route.name? = some n) (hrouter : site.root.routerAt? above = some router)
    (hbelow : router.routeAt? below = some route) :
    router.named? site.registry.names n = some route := by
  have hroute : site.root.routeAt? (above ++ below) = some route := by
    rw [← Router.routeAt?_of_routerAt? hrouter (Router.path_ne_nil hbelow), hbelow]
  have hstarts : above.isPrefixOf (above ++ below) = true :=
    List.isPrefixOf_iff_prefix.2 (List.prefix_append above below)
  rw [named?_eq_of_find (h.find _ route n hroute hname), h.routerAt? hrouter, if_pos hstarts,
    List.drop_left, hbelow]

/-- A name leads to nothing from a router that does not contain its route. -/
theorem Ordered.named?_outside {above : List Nat} (h : site.Ordered)
    (hroute : site.root.routeAt? path = some route) (hname : route.name? = some n)
    (hrouter : site.root.routerAt? above = some router)
    (hnone : ∀ below, router.routeAt? below ≠ some route) :
    router.named? site.registry.names n = none := by
  rw [named?_eq_of_find (h.find _ route n hroute hname), h.routerAt? hrouter]
  split
  · -- the path of the route starts with that of the router, so it leads to the route after all
    rename_i hstarts
    obtain ⟨below, rfl⟩ := List.isPrefixOf_iff_prefix.1 hstarts
    rw [List.drop_left]
    by_cases hbelow : below = []
    · rw [hbelow]
      rfl
    · have hsame := Router.routeAt?_of_routerAt? hrouter hbelow
      exact absurd (hsame.trans hroute) (hnone below)
  · rfl

/-- A name that was accepted is refused from then on. -/
theorem call_name_taken (h : (site.registry.names.find? n).isSome = true)
    (hroute : site.root.routeAt? path = some route) :
    (site.call (.configure path (.name n))).1 = .error (.duplicateRouteName n) := by
  rw [call_eq_of_map (edit_configure (.name n) hroute), run_apply_taken h]

/-- What the positions and the names of a tree say, given the names that were accepted. -/
structure NamesInOrder (site : Site) (accepted : List String) : Prop where
  /-- The position of a route is the index path that leads to it from the root. -/
  position : ∀ path route, site.root.routeAt? path = some route → route.position = path
  /-- No two routes have the same name. -/
  unique : ∀ path path' route route' n, site.root.routeAt? path = some route →
    site.root.routeAt? path' = some route' → route.name? = some n → route'.name? = some n →
      path = path'
  /-- The name of a route leads to it from every router that contains it, directly or deeper, and so
  from the root. -/
  inside : ∀ path route n, site.root.routeAt? path = some route → route.name? = some n →
    ∀ above router, site.root.routerAt? above = some router →
      (∃ below, router.routeAt? below = some route) →
        router.named? site.registry.names n = some route
  /-- From any other router of the tree it leads to nothing. -/
  outside : ∀ path route n, site.root.routeAt? path = some route → route.name? = some n →
    ∀ above router, site.root.routerAt? above = some router →
      (∀ below, router.routeAt? below ≠ some route) →
        router.named? site.registry.names n = none
  /-- A name that was never accepted leads to nothing from any router, and has no URL. -/
  unknown : ∀ n, n ∉ accepted → ∀ above router, site.root.routerAt? above = some router →
    router.named? site.registry.names n = none ∧
      ∀ values, router.urlFor site.registry.names n values = .error (.routeNotFound n)
  /-- A name that was accepted is refused for any route. -/
  taken : ∀ n ∈ accepted, ∀ path route, site.root.routeAt? path = some route →
    (site.call (.configure path (.name n))).1 = .error (.duplicateRouteName n)

/-- **Positions and names of a tree are in order** after any calls, whether they succeed or fail. -/
theorem names_in_order (calls : List Call) :
    (empty.afterCalls calls).NamesInOrder (empty.acceptedNames calls) := by
  have h := ordered_empty.afterCalls calls
  have hnames : (empty.afterCalls calls).registry.names.names = empty.acceptedNames calls :=
    names_afterCalls calls
  refine ⟨h.position, ?_, ?_, ?_, ?_, ?_⟩
  · -- one name has one entry of the table, and the entry is the path
    intro path path' route route' n hroute hroute' hname hname'
    have hfind := h.find path route n hroute hname
    rw [h.find path' route' n hroute' hname'] at hfind
    exact (Option.some.inj hfind).symm
  · intro path route n _ hname above router hrouter hinside
    obtain ⟨below, hbelow⟩ := hinside
    exact h.named?_inside hname hrouter hbelow
  · intro path route n hroute hname above router hrouter houtside
    exact h.named?_outside hroute hname hrouter houtside
  · intro n hn above router _
    rw [← hnames, ← NameTable.find?_eq_none] at hn
    have hnone : router.named? (empty.afterCalls calls).registry.names n = none :=
      named?_of_not_accepted hn
    refine ⟨hnone, fun values => ?_⟩
    rw [Router.urlFor, hnone]
  · intro n hn path route hroute
    rw [← hnames, ← NameTable.find?_isSome] at hn
    exact call_name_taken hn hroute

end Site

end RequestRouter
