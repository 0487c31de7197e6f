import Mathlib.Tactic
import RequestRouter.Proofs.Routing.Calls
import RequestRouter.Proofs.Routing.FirstMatch
import RequestRouter.Proofs.Template.Building
import RequestRouter.Routing.Url

/-!
# Resolving a request, then building its URL

The variables of a match are those of all routes on the way, and the inner ones win. So the templates
of the route that a request is resolved to find their own values among them, and build what they were
matched against.

* `Settings.Sound`: the templates of a route are compiled ones, and share no variable.
* `sound_afterCalls`: every route of a tree has sound settings. `Sound.names_nodup`: no name occurs twice
  in them.
* `vars_of_resolve`: **a match has the values of its own route.**
* `build_of_resolve`: **resolving, then building, reproduces the request.**
-/

namespace RequestRouter

open Template

/-- Every variable of a template has a pattern that is an expression on its own, and of which `P`
holds. -/
def Template.HasPatterns (P : Regex → Prop) (default : String) (t : Template) : Prop :=
  ∀ pieces, Piece.split? t.text.toList = some pieces → PatternsSatisfy P default pieces

/-- Checks the patterns of a template, whose braces have to be balanced. -/
def Template.checkPatterns (P : Regex → Bool) (default : String) (t : Template) : Bool :=
  (Piece.split? t.text.toList).any fun pieces => (pieces.filterMap Piece.body?).all fun body =>
    (Regex.compile (nameAndPattern default body).2).toOption.any P

theorem Template.hasPatterns_of_check {P : Regex → Bool} {Q : Regex → Prop} {default : String}
    {t : Template} (hQ : ∀ regex, P regex = true → Q regex)
    (h : t.checkPatterns P default = true) : t.HasPatterns Q default := by
  intro pieces hsplit body hbody
  rw [checkPatterns, hsplit, Option.any_some, List.all_eq_true] at h
  obtain ⟨regex, hregex, hP⟩ := exists_ok_of_any (h body hbody)
  exact ⟨regex, hregex, hQ regex hP⟩

/-- **The templates of settings** are compiled ones, and no variable is in both. -/
structure Settings.Sound (settings : Settings) : Prop where
  host : ∀ t, settings.host = some t →
    ∃ reserved, Template.compile t.text defaultHostPattern false reserved = .ok t
  path : ∀ t, settings.path = some t →
    ∃ isPrefix reserved, Template.compile t.text defaultPathPattern isPrefix reserved = .ok t
  apart : ∀ name ∈ Settings.varNames settings.host, name ∉ Settings.varNames settings.path

namespace Settings

variable {settings settings' : Settings}

theorem sound_empty : empty.Sound := by
  refine ⟨fun t h => ?_, fun t h => ?_, fun name h => ?_⟩
  · cases h
  · cases h
  · cases h

/-- **Each directive** keeps settings sound. -/
theorem Sound.after {d : Directive} (h : settings.Sound) (hd : settings.after d = .ok settings') :
    settings'.Sound := by
  rcases templates_of_after hd with ⟨hhost, hpath⟩ | ⟨template, t, ht, rfl⟩ |
    ⟨template, isPrefix, t, -, ht, rfl⟩
  · refine ⟨fun t ht => h.host t (hhost ▸ ht), fun t ht => h.path t (hpath ▸ ht), ?_⟩
    rw [hhost, hpath]
    exact h.apart
  · obtain ⟨-, hfree⟩ := names_of_compile ht
    refine ⟨fun t' ht' => ?_, h.path, hfree⟩
    cases ht'
    exact ⟨_, by rw [text_of_compile ht]; exact ht⟩
  · obtain ⟨-, hfree⟩ := names_of_compile ht
    refine ⟨h.host, fun t' ht' => ?_, fun name hhost hpath => hfree name hpath hhost⟩
    cases ht'
    exact ⟨isPrefix, _, by rw [text_of_compile ht]; exact ht⟩

/-- The names of a template that is compiled, if there is one, differ from each other. -/
theorem varNames_nodup {template : Option Template}
    (h : ∀ t, template = some t → t.varNames.Nodup) : (varNames template).Nodup := by
  cases template with
  | none => exact List.nodup_nil
  | some t => exact h t rfl

/-- **No name occurs twice** in the templates of a route. -/
theorem Sound.names_nodup (h : settings.Sound) :
    (varNames settings.host ++ varNames settings.path).Nodup := by
  have hhost : (varNames settings.host).Nodup := by
    refine varNames_nodup fun t ht => ?_
    obtain ⟨reserved, hcompile⟩ := h.host t ht
    exact (names_of_compile hcompile).1
  have hpath : (varNames settings.path).Nodup := by
    refine varNames_nodup fun t ht => ?_
    obtain ⟨isPrefix, reserved, hcompile⟩ := h.path t ht
    exact (names_of_compile hcompile).1
  refine List.nodup_append.2 ⟨hhost, hpath, ?_⟩
  intro name hname name' hname' heq
  exact h.apart name hname (heq ▸ hname')

end Settings

/-- Every route of a tree has sound settings. -/
theorem sound_afterCalls (calls : List Call) (path : List Nat) (route : Route)
    (h : (Site.empty.afterCalls calls).root.routeAt? path = some route) : route.settings.Sound :=
  Site.settings_afterCalls Settings.sound_empty (fun _ _ _ => Settings.Sound.after) calls path route h

/-! ### The variables of a match -/

variable {request : Request} {route : Route} {router : Router} {t : Template} {name value : String}

/-- A template extracts nothing under names that it does not have. -/
theorem valueIn?_eq_none {template : Option Template} {text : String}
    (h : name ∉ Settings.varNames template) : valueIn? template text name = none := by
  cases template with
  | none => rfl
  | some t =>
    rw [valueIn?, Option.bind_some, Template.matchVars?]
    cases t.captures? text with
    | none => rfl
    | some caps =>
      have hnone : (t.extract caps).reverse.lookup name = none := by
        refine List.lookup_eq_none_iff.2 fun e he => bne_iff_ne.2 fun heq => h ?_
        obtain ⟨v, hv, hvalue⟩ := List.mem_filterMap.1 (List.mem_reverse.1 he)
        obtain ⟨x, -, rfl⟩ := Option.map_eq_some_iff.1 hvalue
        exact heq ▸ List.mem_map_of_mem hv
      rw [Option.map_some, Option.bind_some, Bindings.ofPairs, Bindings.get?_insertAll, hnone]
      rfl

theorem valueOf?_of_host (h : route.settings.Sound) (ht : route.settings.host = some t)
    (hname : name ∈ t.varNames)
    (hvalue : (t.matchVars? request.host).bind (·.get? name) = some value) :
    route.valueOf? request name = some value := by
  have hhost : name ∈ Settings.varNames route.settings.host := by
    rw [ht]
    exact hname
  rw [Route.valueOf?, valueIn?_eq_none (h.apart name hhost), Option.none_or, valueIn?, ht,
    Option.bind_some, hvalue]

theorem valueOf?_of_path (ht : route.settings.path = some t)
    (hvalue : (t.matchVars? request.path).bind (·.get? name) = some value) :
    route.valueOf? request name = some value := by
  rw [Route.valueOf?, valueIn?, ht, Option.bind_some, hvalue, Option.some_or]

/-- The end of a chain is where its indices lead. -/
theorem Route.Chain.at? {path : List Nat} {chain : List Route} (h : route.Chain path chain) :
    route.at? path = chain.getLast? := by
  induction h with
  | last => rfl
  | @inner route next routes i path chain hnested hi hnext ih =>
    obtain ⟨last, hlast⟩ : ∃ last, chain.getLast? = some last := by
      cases hnext <;> exact ⟨_, List.getLast?_cons⟩
    rw [Route.at?, hnested, Option.bind_some, Route.atIn?_cons, hi, Option.bind_some, ih,
      List.getLast?_cons, hlast]
    rfl

/-- **A match has the values of its own route**, whatever the routes around it extract, and its route
is in the tree and accepts the request. -/
theorem vars_of_resolve {m : Match} (h : (router.resolve request).found = some m) :
    (∃ path, router.routeAt? path = some m.route) ∧ m.route.Accepts request ∧
      ∀ name value, m.route.valueOf? request name = some value → m.vars.get? name = some value := by
  obtain ⟨hfirst, -⟩ := Route.resolveFirst_first request router.routes
  rw [Router.resolve] at h
  rw [h] at hfirst
  obtain ⟨path, chain, ⟨i, below, next, rfl, hi, hnext⟩, hall, -, hlast, hvars⟩ := hfirst
  obtain ⟨outer, rfl⟩ := List.getLast?_eq_some_iff.1 hlast
  refine ⟨⟨i :: below, ?_⟩, hall _ (by simp), fun name value hvalue => ?_⟩
  · rw [Router.routeAt?, Route.atIn?_cons, hi, Option.bind_some, hnext.at?, hlast]
  · -- the route is the innermost of its chain, so it is asked first
    rw [hvars, List.reverse_append, List.reverse_singleton, List.singleton_append,
      List.findSome?_cons, hvalue]

/-! ### Building what was resolved -/

/-- A compiled template with such patterns is laid out as its pieces say. -/
theorem exists_compiled {P : Regex → Prop} {default : String} {isPrefix : Bool}
    {reserved : List String} (ht : Template.compile t.text default isPrefix reserved = .ok t)
    (hpatterns : t.HasPatterns P default) :
    ∃ pieces parts, Compiled default reserved t pieces parts ∧ PatternsSatisfy P default pieces := by
  obtain ⟨pieces, -, -, -, hsplit, -⟩ := exists_of_compile ht
  have hvalid := hpatterns pieces hsplit
  obtain ⟨parts, hc⟩ := compiled_of_compile ht hsplit hvalid.valid
  exact ⟨pieces, parts, hc, hvalid⟩

/-- **Resolving, then building, reproduces the request.** In a tree after any calls, with the variables
of the match, the route that a request is resolved to gives the host of the request, and its path, or
the part of it that is consumed if the template is one for prefixes. The patterns of its variables have
to be expressions on their own, and for prefixes without assertions. -/
theorem build_of_resolve (calls : List Call) {above : List Nat} {m : Match}
    (hrouter : (Site.empty.afterCalls calls).root.routerAt? above = some router)
    (hfound : (router.resolve request).found = some m) :
    (∀ t, m.route.settings.host = some t → t.HasPatterns (fun _ => True) defaultHostPattern →
      m.route.urlHost m.vars = .ok ("http://" ++ request.host)) ∧
    (∀ t, m.route.settings.path = some t → t.isPrefix = false →
      t.HasPatterns (fun _ => True) defaultPathPattern →
        m.route.urlPath m.vars = .ok request.path) ∧
    (∀ t, m.route.settings.path = some t → t.isPrefix = true →
      t.HasPatterns (fun regex => regex.pattern.assertFree = true) defaultPathPattern →
        ∃ caps part, t.captures? request.path = some caps ∧ caps.get? 0 = some part ∧
          m.route.urlPath m.vars = .ok part) := by
  obtain ⟨⟨path, hpath⟩, haccepts, hvars⟩ := vars_of_resolve hfound
  have hsound : m.route.settings.Sound := by
    refine sound_afterCalls calls (above ++ path) m.route ?_
    rw [← Router.routeAt?_of_routerAt? hrouter (Router.path_ne_nil hpath), hpath]
  refine ⟨fun t ht hpatterns => ?_, fun t ht hwhole hpatterns => ?_, fun t ht _ hpatterns => ?_⟩
  · -- the values of the path would win over those of the host, but no variable is in both
    obtain ⟨reserved, hcompile⟩ := hsound.host t ht
    obtain ⟨pieces, parts, hc, -⟩ := exists_compiled hcompile hpatterns
    obtain ⟨caps, hcaps⟩ := Option.isSome_iff_exists.1 (haccepts.host t ht)
    have hwhole : t.isPrefix = false := isPrefix_of_compile hcompile
    have hbuild := build_of_captures hc hcaps hwhole fun v hv x hx =>
      hvars v.name x (valueOf?_of_host hsound ht (List.mem_map_of_mem hv) hx)
    rw [Route.urlHost, ht]
    simp only [Route.hostUrl, hbuild]
    rfl
  · obtain ⟨isPrefix, reserved, hcompile⟩ := hsound.path t ht
    obtain ⟨pieces, parts, hc, -⟩ := exists_compiled hcompile hpatterns
    obtain ⟨caps, hcaps⟩ := Option.isSome_iff_exists.1 (haccepts.path t ht)
    have hbuild := build_of_captures hc hcaps hwhole fun v hv x hx =>
      hvars v.name x (valueOf?_of_path ht hx)
    rw [Route.urlPath, ht]
    exact hbuild
  · obtain ⟨isPrefix, reserved, hcompile⟩ := hsound.path t ht
    obtain ⟨pieces, parts, hc, hfree⟩ := exists_compiled hcompile hpatterns
    obtain ⟨caps, hcaps⟩ := Option.isSome_iff_exists.1 (haccepts.path t ht)
    obtain ⟨part, hpart, hbuild⟩ :=
      build_of_captures_prefix hc (assertFree_of_patterns hc.laid hfree) hcaps fun v hv x hx =>
        hvars v.name x (valueOf?_of_path ht hx)
    refine ⟨caps, part, hcaps, hpart, ?_⟩
    rw [Route.urlPath, ht]
    exact hbuild

/-- A route in a nested router with a host and a path for prefixes, below a route whose host has a
variable of the same name. -/
theorem build_of_resolve_nested : ∃ router m,
    (Site.empty.afterCalls [.add [] (.host "{name}.org"), .openNested [0],
      .add [0] (.host "{sub}.{name}"),
      .configure [0, 0] (.pathPrefix "/{id:(c)+}")]).root.routerAt? [] = some router ∧
    (router.resolve (.new .get "http://www.org/ccd")).found = some m ∧
    m.route.urlHost m.vars = .ok "http://www.org" ∧
    ∃ t caps part, m.route.settings.path = some t ∧ t.captures? "/ccd" = some caps ∧
      caps.get? 0 = some part ∧ m.route.urlPath m.vars = .ok part := by
  have hsome : ((Site.empty.afterCalls [.add [] (.host "{name}.org"), .openNested [0],
      .add [0] (.host "{sub}.{name}"),
      .configure [0, 0] (.pathPrefix "/{id:(c)+}")]).root.resolve
        (.new .get "http://www.org/ccd")).found.any (fun m =>
      m.route.settings.host.any (checkPatterns (fun _ => true) defaultHostPattern) &&
      m.route.settings.path.any fun t =>
        t.isPrefix && t.checkPatterns (fun r => r.pattern.assertFree) defaultPathPattern) = true := by
    decide +kernel
  obtain ⟨m, hfound, hm⟩ := (Option.any_eq_true _ _).1 hsome
  rw [Bool.and_eq_true] at hm
  obtain ⟨host, hhost, hhostPatterns⟩ := (Option.any_eq_true _ _).1 hm.1
  obtain ⟨t, ht, hpath⟩ := (Option.any_eq_true _ _).1 hm.2
  rw [Bool.and_eq_true] at hpath
  have hroot (calls : List Call) : (Site.empty.afterCalls calls).root.routerAt? [] =
      some (Site.empty.afterCalls calls).root := rfl
  obtain ⟨hurlHost, -, hurlPath⟩ := build_of_resolve _ (hroot _) hfound
  obtain ⟨caps, part, hcaps, hpart, hurl⟩ := hurlPath t ht hpath.1
    (hasPatterns_of_check (fun _ h => h) hpath.2)
  refine ⟨_, m, hroot _, hfound, ?_, t, caps, part, ht, hcaps, hpart, hurl⟩
  exact hurlHost host hhost (hasPatterns_of_check (fun _ _ => trivial) hhostPatterns)

end RequestRouter
