import Mathlib.Tactic
import RequestRouter.Proofs.Routing.Calls

/-!
# Calls that fail

A call changes a route, the table of names and the log as it goes along, and what it has changed when
it fails is not taken back. Nothing has to be: every directive makes all its checks before its first
change, and a new route enters the tree after its directives.

* `Work`, `Directive.perform`: a directive, statement by statement, each of which stays done.
* `Directive.perform_eq`: **the statements do what the directive does**, and a directive that fails
  has not touched the settings of its route.
* `Site.perform`, `Site.perform_eq_call`: a call whose statements stay done is that call.
* `Directive.registry_of_error`, `Factory.registry_of_error`: a directive or a factory that fails has
  not touched the registry.
* `failed_call`: **a call that fails changes nothing**, now or later.
-/

namespace RequestRouter

/-! ### Statements that stay done -/

/-- What the statements of a directive work on: the settings of a route, and the registry. -/
structure Bench where
  settings : Settings
  registry : Registry

/-- Statements that may fail. What they have changed by then stays changed. -/
abbrev Work := ExceptT RouterError (StateM Bench)

namespace Work

/-- A computation that touches nothing. -/
def attempt {α : Type} (result : Except RouterError α) : Work α :=
  ExceptT.mk (pure result)

/-- Assigns to a setting. -/
def assign (f : Settings → Settings) : Work Unit :=
  modify fun bench => { bench with settings := f bench.settings }

/-- Puts a name into the table. -/
def enter (name : String) (position : Position) : Work Unit :=
  modify fun bench => { bench with registry := { bench.registry with
    names := bench.registry.names.insert name position } }

/-- Reports an event. -/
def report (event : Event) : Work Unit :=
  modify fun bench => { bench with registry := { bench.registry with
    events := bench.registry.events ++ [event] } }

/-- Compiles a path template and assigns it. -/
def setPath (template : String) (isPrefix : Bool) : Work Unit := do
  let reserved := Settings.varNames (← get).settings.host
  let path ← attempt (Template.compile template Template.defaultPathPattern isPrefix reserved)
  assign fun settings => { settings with path := some path }

/-- Adds a matcher, if it could be made. -/
def addMatcher (made : Except RouterError Matcher) : Work Unit := do
  let matcher ← attempt made
  assign (·.withMatcher matcher)

/-- What statements come to, given what is known without keeping track of changes: settings are there
only if nothing fails. -/
def outcome (settings : Settings) :
    Except RouterError Settings × Registry → Except RouterError Unit × Bench
  | (.ok settings', registry) => (.ok (), ⟨settings', registry⟩)
  | (.error e, registry) => (.error e, ⟨settings, registry⟩)

end Work

/-- The statements of a directive for the route at a position. -/
def Directive.perform (position : Position) : Directive → Work Unit
  | name n => do
    if ((← get).registry.names.find? n).isSome then throw (.duplicateRouteName n)
    Work.enter n position
    Work.report (.nameRegistered n position)
    Work.assign fun settings => { settings with name := some n }
  | host template => do
    if template.isEmpty then throw (.emptyHost template)
    let reserved := Settings.varNames (← get).settings.path
    let host ← Work.attempt (Template.compile template Template.defaultHostPattern false reserved)
    Work.assign fun settings => { settings with host := some host }
  | path template => do
    unless startsWithSlash template do throw (.invalidPath template)
    Work.setPath template false
  | pathPrefix template => do
    unless startsWithSlash template do throw (.invalidPathPrefix template)
    Work.setPath template true
  | methods names => Work.addMatcher (Matcher.ofMethods names)
  | schemes names => Work.addMatcher (Matcher.ofSchemes names)
  | headers args => Work.addMatcher (Matcher.ofHeaders args)
  | queries args => Work.addMatcher (Matcher.ofQueries args)
  | matcher m => Work.assign (·.withMatcher m)
  | handler h => Work.assign fun settings => { settings with handler := some h }

section Directive

variable {position : Position} {settings : Settings} {registry : Registry}

theorem Work.run_setPath (template : String) (isPrefix : Bool) :
    (Work.setPath template isPrefix).run ⟨settings, registry⟩ =
      Work.outcome settings (settings.withPath template isPrefix, registry) := by
  have h : (Work.setPath template isPrefix).run ⟨settings, registry⟩ = ((do
      let path ← Work.attempt (Template.compile template Template.defaultPathPattern isPrefix
        (Settings.varNames settings.host))
      Work.assign fun settings => { settings with path := some path }) : Work Unit).run
        ⟨settings, registry⟩ := rfl
  rw [h, Settings.withPath]
  cases Template.compile template Template.defaultPathPattern isPrefix
    (Settings.varNames settings.host) <;> rfl

theorem Work.run_addMatcher (made : Except RouterError Matcher) :
    (Work.addMatcher made).run ⟨settings, registry⟩ =
      Work.outcome settings (made.map settings.withMatcher, registry) := by
  cases made <;> rfl

/-- **The statements of a directive** do what the directive does, and leave the settings as they were
if it fails. -/
theorem Directive.perform_eq (d : Directive) : (d.perform position).run ⟨settings, registry⟩ =
    Work.outcome settings ((d.apply position settings).run registry) := by
  cases d with
  | name n =>
    rw [run_apply, claim, Setup.run_register]
    have h : ((name n).perform position).run ⟨settings, registry⟩ = ((do
        if (registry.names.find? n).isSome then throw (.duplicateRouteName n)
        Work.enter n position
        Work.report (.nameRegistered n position)
        Work.assign fun settings => { settings with name := some n }) : Work Unit).run
          ⟨settings, registry⟩ := rfl
    rw [h]
    split <;> rfl
  | host template =>
    rw [run_apply]
    have h : ((host template).perform position).run ⟨settings, registry⟩ = ((do
        if template.isEmpty then throw (.emptyHost template)
        let host ← Work.attempt (Template.compile template Template.defaultHostPattern false
          (Settings.varNames settings.path))
        Work.assign fun settings => { settings with host := some host }) : Work Unit).run
          ⟨settings, registry⟩ := by
      rw [perform]
      split <;> rfl
    rw [h]
    simp only [claim, Setup.run_pure, Settings.after, Settings.withHost]
    split
    · rfl
    · cases Template.compile template Template.defaultHostPattern false
        (Settings.varNames settings.path) <;> rfl
  | path template =>
    rw [run_apply, perform]
    simp only [claim, Setup.run_pure, Settings.after]
    split
    · exact Work.run_setPath template false
    · rfl
  | pathPrefix template =>
    rw [run_apply, perform]
    simp only [claim, Setup.run_pure, Settings.after]
    split
    · exact Work.run_setPath template true
    · rfl
  | methods names =>
    rw [run_apply]
    exact Work.run_addMatcher _
  | schemes names =>
    rw [run_apply]
    exact Work.run_addMatcher _
  | headers args =>
    rw [run_apply]
    exact Work.run_addMatcher _
  | queries args =>
    rw [run_apply]
    exact Work.run_addMatcher _
  | matcher m => rfl
  | handler h => rfl

/-- The statements of several directives for one route, one directive after the other. -/
def Directive.performAll (position : Position) (directives : List Directive) : Work Unit :=
  directives.forM (Directive.perform position)

theorem Directive.run_performAll_cons (d : Directive) (rest : List Directive) (bench : Bench) :
    (performAll position (d :: rest)).run bench =
      match (d.perform position).run bench with
      | (.ok _, bench') => (performAll position rest).run bench'
      | (.error e, bench') => (.error e, bench') := by
  have h : (performAll position (d :: rest)).run bench =
      StateT.bind (d.perform position).run
        (ExceptT.bindCont fun _ => performAll position rest) bench := rfl
  rw [h, StateT.bind]
  rcases (d.perform position).run bench with ⟨_ | _, _⟩ <;> rfl

/-- **The statements of several directives** do what the directives do. If one fails, those before it
have changed the settings. -/
theorem Directive.performAll_eq (directives : List Directive) :
    ∃ left, (performAll position directives).run ⟨settings, registry⟩ =
      Work.outcome left ((directives.foldlM (fun settings (d : Directive) =>
        d.apply position settings) settings).run registry) := by
  induction directives generalizing settings registry with
  | nil => exact ⟨settings, rfl⟩
  | cons d rest ih =>
    rw [run_performAll_cons, perform_eq, List.foldlM_cons, Setup.run_bind]
    rcases (d.apply position settings).run registry with ⟨e | settings', registry'⟩
    · exact ⟨settings, rfl⟩
    · exact ih

/-! ### What failing leaves behind -/

theorem Directive.run_apply_of_claim {d : Directive} (h : d.claim position = pure ()) :
    (d.apply position settings).run registry = (settings.after d, registry) := by
  rw [run_apply, h, Setup.run_pure]

/-- Directives that give no name leave the registry alone, whether they fail or not. -/
theorem Directive.run_foldlM_of_claim {directives : List Directive}
    (h : ∀ d ∈ directives, d.claim position = pure ()) :
    (directives.foldlM (fun settings (d : Directive) => d.apply position settings) settings).run
      registry = (directives.foldlM Settings.after settings, registry) := by
  induction directives generalizing settings with
  | nil => rfl
  | cons d rest ih =>
    rw [List.foldlM_cons, Setup.run_bind, run_apply_of_claim (h d List.mem_cons_self)]
    rw [List.foldlM_cons]
    cases settings.after d with
    | error e => rfl
    | ok settings' => exact ih fun d hd => h d (List.mem_cons_of_mem _ hd)

/-- **A directive that fails** leaves the registry as it was: a name is refused before it is entered,
and nothing else has to do with the registry. -/
theorem Directive.registry_of_error {d : Directive} {e : RouterError} {registry' : Registry}
    (h : (d.apply position settings).run registry = (.error e, registry')) :
    registry' = registry := by
  cases d with
  | name n =>
    rw [run_apply, claim, Setup.run_register] at h
    split at h
    · rename_i hclaim
      split at hclaim
      · cases hclaim
      · cases hclaim
        cases h
    · rename_i hclaim
      split at hclaim
      · cases hclaim
        cases h
        rfl
      · cases hclaim
  | _ =>
    rw [run_apply_of_claim rfl] at h
    exact (congrArg Prod.snd h).symm

/-- **A factory that fails** leaves the registry as it was: a factory that gives a name does nothing
else. -/
theorem Factory.registry_of_error {factory : Factory} {e : RouterError} {registry' : Registry}
    (h : (Router.settle position factory.directives).run registry = (.error e, registry')) :
    registry' = registry := by
  cases factory with
  | name n =>
    rw [directives, Router.settle, List.foldlM_cons] at h
    simp only [List.foldlM_nil, bind_pure] at h
    exact Directive.registry_of_error h
  | _ =>
    rw [Router.settle, Directive.run_foldlM_of_claim] at h
    · exact (congrArg Prod.snd h).symm
    · simp [directives, Directive.claim]

end Directive

theorem Route.withSettings_self (route : Route) : route.withSettings route.settings = route := by
  cases route
  rfl

/-! ### Calls, statement by statement -/

namespace Site

/-- A call whose statements stay done. A directive works on the route in the tree. The directives of a
factory work on a route that is not in the tree yet, and is dropped if one of them fails. -/
def perform (site : Site) : Call → Except RouterError Unit × Site
  | .add path factory =>
    match site.root.routerAt? path with
    | none => (.ok (), site)
    | some router =>
      match (Directive.performAll router.next factory.directives).run ⟨.empty, site.registry⟩ with
      | (.ok _, bench) =>
        (.ok (), ⟨site.root.push (.mk router.next bench.settings none) path, bench.registry⟩)
      | (.error e, bench) => (.error e, ⟨site.root, bench.registry⟩)
  | .configure path d =>
    match site.root.routeAt? path with
    | none => (.ok (), site)
    | some route =>
      let (result, bench) := (d.perform route.position).run ⟨route.settings, site.registry⟩
      (result, ⟨site.root.replaceAt (route.withSettings bench.settings) path, bench.registry⟩)
  | .openNested path =>
    match site.root.routeAt? path with
    | none => (.ok (), site)
    | some route =>
      match route.nested with
      | some _ => (.ok (), site)
      | none => (.ok (), ⟨site.root.replaceAt (route.withNested []) path,
          { site.registry with events := site.registry.events ++ [.nestedAttached route.position] }⟩)

variable {site : Site} {c : Call} {path : List Nat} {route : Route} {router : Router}

theorem perform_add (factory : Factory) :
    site.perform (.add path factory) = site.call (.add path factory) := by
  rw [perform]
  cases hrouter : site.root.routerAt? path with
  | none => exact (call_add_absent factory hrouter).symm
  | some router =>
    rw [call_eq_of_map (edit_add_push factory hrouter)]
    have hperform : ∃ left,
        (Directive.performAll router.next factory.directives).run ⟨.empty, site.registry⟩ =
          Work.outcome left ((Router.settle router.next factory.directives).run site.registry) :=
      Directive.performAll_eq factory.directives
    obtain ⟨left, hleft⟩ := hperform
    simp only [hleft]
    rcases (Router.settle router.next factory.directives).run site.registry with ⟨_ | _, _⟩ <;> rfl

theorem perform_configure (d : Directive) :
    site.perform (.configure path d) = site.call (.configure path d) := by
  rw [perform]
  cases hroute : site.root.routeAt? path with
  | none => exact (call_configure_absent d hroute).symm
  | some route =>
    rw [call_eq_of_map (edit_configure d hroute)]
    simp only [Directive.perform_eq]
    rcases (d.apply route.position route.settings).run site.registry with ⟨e | settings, registry⟩
    · -- the route is put back with the settings that it has
      simp only [Work.outcome, Route.withSettings_self, Router.replaceAt_self hroute]
    · rfl

theorem perform_openNested : site.perform (.openNested path) = site.call (.openNested path) := by
  rw [perform]
  cases hroute : site.root.routeAt? path with
  | none => exact (call_openNested_absent hroute).symm
  | some route =>
    rw [call_eq_of_map (edit_openNested hroute), Route.openNested]
    cases hnested : route.nested with
    | none =>
      simp only [hnested]
      rfl
    | some routes => simp only [hnested, Setup.run_pure, Router.replaceAt_self hroute]

/-- **A call whose statements stay done** is that call: there is never anything to take back. -/
theorem perform_eq_call (site : Site) (c : Call) : site.perform c = site.call c := by
  cases c with
  | add path factory => exact perform_add factory
  | configure path d => exact perform_configure d
  | openNested path => exact perform_openNested

/-! ### Calls that fail -/

theorem registry_of_map {x : Setup Settings} {f : Settings → Router} {e : RouterError}
    (hedit : c.edit site.root = f <$> x)
    (hx : ∀ registry', x.run site.registry = (.error e, registry') → registry' = site.registry)
    (h : (site.call c).1 = .error e) : site.call c = (.error e, site) := by
  rw [call_eq_of_map hedit] at h ⊢
  rcases hrun : x.run site.registry with ⟨e' | settings, registry'⟩
  · rw [hrun] at h
    cases h
    rw [hx registry' hrun]
  · rw [hrun] at h
    cases h

/-- A call that fails leaves the tree, the table of names and the log as they were. -/
theorem call_of_error {e : RouterError} (h : (site.call c).1 = .error e) :
    site.call c = (.error e, site) := by
  cases c with
  | add path factory =>
    cases hrouter : site.root.routerAt? path with
    | none =>
      rw [call_add_absent factory hrouter] at h
      cases h
    | some router =>
      exact registry_of_map (edit_add_push factory hrouter)
        (fun _ => Factory.registry_of_error) h
  | configure path d =>
    cases hroute : site.root.routeAt? path with
    | none =>
      rw [call_configure_absent d hroute] at h
      cases h
    | some route =>
      exact registry_of_map (edit_configure d hroute) (fun _ => Directive.registry_of_error) h
  | openNested path =>
    -- a nested router is opened or there already
    rw [← perform_openNested, perform] at h
    split at h
    · cases h
    · split at h <;> cases h

theorem afterCalls_append (site : Site) (before later : List Call) :
    site.afterCalls (before ++ later) = (site.afterCalls before).afterCalls later :=
  List.foldl_append

/-- **A call that fails changes nothing**, in any tree that calls lead to: the tree, the table of names
and the log are as they were before it, although what its statements have changed stays changed, and
after any further calls they are as if it had not been made. -/
theorem failed_call {before : List Call} {c : Call} {e : RouterError}
    (h : ((empty.afterCalls before).call c).1 = .error e) :
    (empty.afterCalls before).call c = (.error e, empty.afterCalls before) ∧
      (empty.afterCalls before).perform c = (.error e, empty.afterCalls before) ∧
      ∀ later, empty.afterCalls (before ++ c :: later) = empty.afterCalls (before ++ later) := by
  have hcall := call_of_error h
  refine ⟨hcall, ?_, fun later => ?_⟩
  · rw [perform_eq_call, hcall]
  · have hnext : (empty.afterCalls before).afterCalls (c :: later) =
        ((empty.afterCalls before).call c).2.afterCalls later := rfl
    rw [afterCalls_append, afterCalls_append, hnext, hcall]

/-- A taken name is refused for a route that has a path and a nested router. -/
theorem failed_call_of_taken_name :
    ((empty.afterCalls [.add [] (.name "a"), .add [] (.path "/"), .openNested [1]]).call
      (.configure [1] (.name "a"))).1 = .error (.duplicateRouteName "a") ∧
    ∀ later, empty.afterCalls ([.add [] (.name "a"), .add [] (.path "/"), .openNested [1]] ++
        .configure [1] (.name "a") :: later) =
      empty.afterCalls ([.add [] (.name "a"), .add [] (.path "/"), .openNested [1]] ++ later) := by
  have h : ((empty.afterCalls [.add [] (.name "a"), .add [] (.path "/"), .openNested [1]]).call
      (.configure [1] (.name "a"))).1 = .error (.duplicateRouteName "a") := by
    rfl
  exact ⟨h, (failed_call h).2.2⟩

end Site

end RequestRouter
