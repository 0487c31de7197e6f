import Mathlib.Tactic
import RequestRouter.Proofs.Routing.RoundTrip

/-!
# The variables of a route

A call that sets a template checks its names against the other template as it stands at that moment, and
may replace a template that was there. The names of both stay apart all the same: what is checked is the
template that stays, and what is replaced is gone. So the values of a match are put together without one
replacing another, and since the group of every variable takes part in every match, none is left out.

* `names_of_extract`, `exists_value`: every variable of a template has a value in every match.
* `variables_apart`: **the variables of a match** are those of both templates, each with the value that its
  own template gives it.
-/

namespace RequestRouter

open Template

variable {name : String}

/-- A template, if there is one, is compiled, and the patterns of its variables are expressions on their
own. -/
def LaidOut (template : Option Template) : Prop :=
  ∀ t, template = some t → ∃ default reserved pieces parts, Compiled default reserved t pieces parts

theorem Settings.Sound.laidOut_host {settings : Settings} (h : settings.Sound)
    (hpatterns : ∀ t, settings.host = some t → t.HasPatterns (fun _ => True) defaultHostPattern) :
    LaidOut settings.host := by
  intro t ht
  obtain ⟨reserved, hcompile⟩ := h.host t ht
  obtain ⟨pieces, parts, hc, -⟩ := exists_compiled hcompile (hpatterns t ht)
  exact ⟨_, reserved, pieces, parts, hc⟩

theorem Settings.Sound.laidOut_path {settings : Settings} (h : settings.Sound)
    (hpatterns : ∀ t, settings.path = some t → t.HasPatterns (fun _ => True) defaultPathPattern) :
    LaidOut settings.path := by
  intro t ht
  obtain ⟨isPrefix, reserved, hcompile⟩ := h.path t ht
  obtain ⟨pieces, parts, hc, -⟩ := exists_compiled hcompile (hpatterns t ht)
  exact ⟨_, reserved, pieces, parts, hc⟩

/-- **Every variable has a value** in every match of its template. -/
theorem Template.names_of_extract {default : String} {reserved : List String} {pieces : List Piece}
    {parts : List Part} {t : Template} {input : String} {caps : Regex.Captures}
    (hc : Compiled default reserved t pieces parts) (h : t.captures? input = some caps) :
    (t.extract caps).map (·.1) = t.varNames := by
  obtain ⟨k, spans, -, -, -, hextract, hmatched⟩ := captures_tiles hc h
  have hlength : t.varNames.length ≤
      (spans.map fun span => String.ofList (slice input.toList span)).length := by
    rw [varNames, List.length_map, List.length_map, hc.validators.length_eq, hmatched.length_eq]
  rw [hextract, List.map_fst_zip hlength]

/-- What a template gives, if there is one, is a value for each of its names. -/
theorem names_of_pairsOf? {template : Option Template} {text : String}
    {pairs : List (String × String)} (hlaid : LaidOut template)
    (h : pairsOf? template text = some pairs) : pairs.map (·.1) = Settings.varNames template := by
  cases template with
  | none =>
    cases h
    rfl
  | some t =>
    obtain ⟨default, reserved, pieces, parts, hc⟩ := hlaid t rfl
    obtain ⟨caps, hcaps, rfl⟩ := Option.map_eq_some_iff.1 h
    exact names_of_extract hc hcaps

/-- A template that matches gives a value under each of its names. -/
theorem Template.exists_value {t : Template} {text : String} {pairs : List (String × String)}
    (hlaid : LaidOut (some t)) (h : pairsOf? (some t) text = some pairs) (hname : name ∈ t.varNames) :
    ∃ vars value, t.matchVars? text = some vars ∧ vars.get? name = some value := by
  obtain ⟨default, reserved, pieces, parts, hc⟩ := hlaid t rfl
  obtain ⟨caps, hcaps, rfl⟩ := Option.map_eq_some_iff.1 h
  have hnodup : ((t.extract caps).map (·.1)).Nodup := names_of_extract hc hcaps ▸ hc.names_nodup
  rw [← names_of_extract hc hcaps] at hname
  obtain ⟨⟨_, value⟩, hmem, rfl⟩ := List.mem_map.1 hname
  refine ⟨.ofPairs (t.extract caps), value, by rw [matchVars?, hcaps]; rfl, ?_⟩
  rw [← Bindings.entries_ofPairs hnodup] at hmem
  exact (Bindings.mem_entries_iff (Bindings.distinct_ofPairs _)).1 hmem

/-- **The variables of a route never collide.** After any calls, no name occurs twice in the templates of a
route. So if the route has no nested router, and the patterns of its variables are expressions on their
own, then each request that it matches gives as many values as the templates have variables, and each is
the one that its own template gives. -/
theorem variables_apart (calls : List Call) {path : List Nat} {route : Route}
    (h : (Site.empty.afterCalls calls).root.routeAt? path = some route) :
    (Settings.varNames route.settings.host).Nodup ∧ (Settings.varNames route.settings.path).Nodup ∧
    (∀ name ∈ Settings.varNames route.settings.host,
      name ∉ Settings.varNames route.settings.path) ∧
    (route.nested = none →
      (∀ t, route.settings.host = some t → t.HasPatterns (fun _ => True) defaultHostPattern) →
      (∀ t, route.settings.path = some t → t.HasPatterns (fun _ => True) defaultPathPattern) →
      ∀ request m, (route.resolve request).found = some m →
        m.vars.entries.map (·.1) =
          Settings.varNames route.settings.host ++ Settings.varNames route.settings.path ∧
        m.vars.size = (Settings.varNames route.settings.host).length +
          (Settings.varNames route.settings.path).length ∧
        (∀ t, route.settings.host = some t → ∀ name ∈ t.varNames, ∃ vars value,
          t.matchVars? request.host = some vars ∧ vars.get? name = some value ∧
            m.vars.get? name = some value) ∧
        ∀ t, route.settings.path = some t → ∀ name ∈ t.varNames, ∃ vars value,
          t.matchVars? request.path = some vars ∧ vars.get? name = some value ∧
            m.vars.get? name = some value) := by
  have hsound := sound_afterCalls calls path route h
  have hnodup := hsound.names_nodup
  obtain ⟨hhostNames, hpathNames, -⟩ := List.nodup_append.1 hnodup
  refine ⟨hhostNames, hpathNames, hsound.apart, ?_⟩
  intro hleaf hhostPatterns hpathPatterns request m hfound
  have hhostLaid := hsound.laidOut_host hhostPatterns
  have hpathLaid := hsound.laidOut_path hpathPatterns
  -- without a nested router, the variables are those that the templates extract
  rw [resolve_found, hleaf] at hfound
  obtain ⟨vars, hextract, hm⟩ := Option.bind_eq_some_iff.1 hfound
  obtain ⟨-, hm⟩ := Option.ite_none_right_eq_some.1 hm
  obtain rfl := Option.some.inj hm
  obtain ⟨-, hget⟩ := get?_of_extract? hextract
  obtain ⟨host, path', hhost, hpath, rfl⟩ := extract?_eq_some.1 hextract
  have hnames : (host ++ path').map (·.1) =
      Settings.varNames route.settings.host ++ Settings.varNames route.settings.path := by
    rw [List.map_append, names_of_pairsOf? hhostLaid hhost, names_of_pairsOf? hpathLaid hpath]
  have hentries : (Bindings.ofPairs (host ++ path')).entries = host ++ path' :=
    Bindings.entries_ofPairs (hnames ▸ hnodup)
  refine ⟨?_, ?_, ?_, ?_⟩
  · rw [hentries, hnames]
  · rw [Bindings.size, hentries, ← List.length_map (·.1), hnames, List.length_append]
  · intro t ht name hname
    rw [ht] at hhost hhostLaid
    obtain ⟨own, value, hown, hvalue⟩ := exists_value hhostLaid hhost hname
    refine ⟨own, value, hown, hvalue, ?_⟩
    rw [hget]
    exact valueOf?_of_host hsound ht hname (by rw [hown]; exact hvalue)
  · intro t ht name hname
    rw [ht] at hpath hpathLaid
    obtain ⟨own, value, hown, hvalue⟩ := exists_value hpathLaid hpath hname
    refine ⟨own, value, hown, hvalue, ?_⟩
    rw [hget]
    exact valueOf?_of_path ht (by rw [hown]; exact hvalue)

/-- A route whose templates have replaced others, after a call that failed: the name that it asked for is
free once the host has been replaced. -/
theorem variables_apart_replaced : ∃ route m,
    (Site.empty.afterCalls [.add [] (.path "/{a}"), .configure [0] (.host "{b}.{c}"),
      .configure [0] (.path "/{b}"), .configure [0] (.host "{c:x|(y)}.org"),
      .configure [0] (.path "/{b}/{a}")]).root.routeAt? [0] = some route ∧
    (route.resolve (.new .get "http://y.org/1/2")).found = some m ∧
    m.vars.entries.map (·.1) = ["c", "b", "a"] ∧ m.vars.size = 3 := by
  have hsome : ((Site.empty.afterCalls [.add [] (.path "/{a}"), .configure [0] (.host "{b}.{c}"),
      .configure [0] (.path "/{b}"), .configure [0] (.host "{c:x|(y)}.org"),
      .configure [0] (.path "/{b}/{a}")]).root.routeAt? [0]).any (fun route =>
        route.nested.isNone &&
        route.settings.host.all (checkPatterns (fun _ => true) defaultHostPattern) &&
        route.settings.path.all (checkPatterns (fun _ => true) defaultPathPattern) &&
        Settings.varNames route.settings.host == ["c"] &&
        Settings.varNames route.settings.path == ["b", "a"] &&
        (route.resolve (.new .get "http://y.org/1/2")).found.isSome) = true := by
    decide +kernel
  obtain ⟨route, hroute, hchecks⟩ := (Option.any_eq_true _ _).1 hsome
  simp only [Bool.and_eq_true, Option.isNone_iff_eq_none, beq_iff_eq] at hchecks
  obtain ⟨⟨⟨⟨⟨hleaf, hhost⟩, hpath⟩, hhostNames⟩, hpathNames⟩, hfound⟩ := hchecks
  obtain ⟨m, hm⟩ := Option.isSome_iff_exists.1 hfound
  obtain ⟨-, -, -, hmatch⟩ := variables_apart _ hroute
  obtain ⟨hnames, hsize, -⟩ := hmatch hleaf
    (fun t ht => hasPatterns_of_check (fun _ _ => trivial) (by rw [ht] at hhost; exact hhost))
    (fun t ht => hasPatterns_of_check (fun _ _ => trivial) (by rw [ht] at hpath; exact hpath)) _ m hm
  rw [hhostNames, hpathNames] at hnames hsize
  exact ⟨route, m, hroute, hm, hnames, hsize⟩

end RequestRouter
