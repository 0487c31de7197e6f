import Mathlib.Tactic
import RequestRouter.Proofs.Routing.RoundTrip
import RequestRouter.Proofs.Target
import RequestRouter.Proofs.Template.Delimited

/-!
# Building a URL, then resolving a request for it

A URL is put together from a host and a path, and a request for it is taken apart again at fixed
characters. Neither encodes nor decodes anything, and a variable without a pattern admits all
characters but its delimiter. So a value may contain a character at which the URL is cut, and then
another host or another path is matched than was built.

* `avoids_of_build`: **a text that was built** has only characters of the literal text and the values.
* `Settings.Rooted`, `rooted_afterCalls`: every path template of a tree starts with a slash.
* `Route.Delimited`: a route with a host and a path of delimited values.
* `resolve_iff_of_build`: such a route is resolved with the values exactly by requests for the host
  and the path that were built from them.
* `resolve_url_iff`: **when a request for a URL that was built gives the values back.**
-/

namespace RequestRouter

open Target Template

variable {values : Bindings} {hostPieces pathPieces pieces : List Piece} {t host path : Template}

/-! ### What is built -/

namespace Template

variable {text default built : String} {isPrefix : Bool} {reserved : List String} {c : Char}
  {marks : List Char}

/-- **A text that was built** has only characters of the literal text and of the values. -/
theorem avoids_of_build (h : compile text default isPrefix reserved = .ok t)
    (hsplit : Piece.split? text.toList = some pieces) (hbuild : t.build values = .ok built) :
    Avoids marks built.toList ↔ (∀ cs, Piece.literal cs ∈ pieces → Avoids marks cs) ∧
      ∀ name ∈ t.varNames, ∀ x, values.get? name = some x → Avoids marks x.toList := by
  obtain ⟨xs, hsupplies, rfl, -⟩ := build_eq_ok.1 hbuild
  obtain ⟨hsegments, hdeclared⟩ := declared_of_compile h hsplit
  have hlength : (xs.map String.toList).length ≤ (pieces.filterMap Piece.body?).length := by
    rw [List.length_map, ← hsupplies.length_eq, hdeclared.length_eq]
  have hmem (c : Char) : c ∈ (t.fill xs).toList ↔
      (∃ cs, Piece.literal cs ∈ pieces ∧ c ∈ cs) ∨
        ∃ name ∈ t.varNames, ∃ x, values.get? name = some x ∧ c ∈ x.toList := by
    rw [toList_fill hsegments, mem_weave hlength]
    simp only [List.mem_map, exists_exists_and_eq_and, hsupplies.mem_iff]
    grind
  unfold Avoids
  simp only [hmem]
  grind

/-- What is woven starts as the pieces do, unless that is with a variable. -/
theorem head?_weave (h : (pieces.flatMap Piece.text).head? = some c) (hc : c ≠ '{')
    (xs : List (List Char)) : (Piece.weave pieces xs).head? = some c := by
  induction pieces with
  | nil => cases h
  | cons piece pieces ih =>
    cases piece with
    | literal text =>
      cases text with
      | nil => exact ih h
      | cons d text => exact h
    | braced body => exact absurd (Option.some.inj h).symm hc

theorem head?_of_build (h : compile text default isPrefix reserved = .ok t)
    (hrooted : text.toList.head? = some '/') (hbuild : t.build values = .ok built) :
    built.toList.head? = some '/' := by
  obtain ⟨pieces, -, -, -, hsplit, -⟩ := exists_of_compile h
  obtain ⟨xs, -, rfl, -⟩ := build_eq_ok.1 hbuild
  rw [toList_fill (declared_of_compile h hsplit).1]
  rw [← Piece.flatMap_text_of_split? hsplit] at hrooted
  exact head?_weave hrooted (by decide) _

end Template

/-! ### Path templates -/

/-- The path template, if there is one, starts with a slash. -/
def Settings.Rooted (settings : Settings) : Prop :=
  ∀ t, settings.path = some t → startsWithSlash t.text = true

/-- **Each directive** keeps path templates such. -/
theorem Settings.Rooted.after {settings settings' : Settings} {d : Directive}
    (h : settings.Rooted) (hd : settings.after d = .ok settings') : settings'.Rooted := by
  rcases templates_of_after hd with ⟨-, hpath⟩ | ⟨template, t, -, rfl⟩ |
    ⟨template, isPrefix, t, hslash, ht, rfl⟩
  · exact fun t ht => h t (hpath ▸ ht)
  · exact h
  · -- the text of the template that is set is the one that was checked
    rintro _ ⟨⟩
    rw [text_of_compile ht]
    exact hslash

/-- Every path template of a tree starts with a slash. -/
theorem rooted_afterCalls (calls : List Call) (path : List Nat) (route : Route)
    (h : (Site.empty.afterCalls calls).root.routeAt? path = some route) : route.settings.Rooted :=
  Site.settings_afterCalls (by rintro _ ⟨⟩) (fun _ _ _ => Settings.Rooted.after) calls path route h

/-! ### Routes of delimited values -/

/-- **A route of delimited values**: without matchers and nested router, with a host and a path whose
variables have no patterns and are each followed by the delimiter or by the end of the template. The
literal text has none of the characters at which a target is cut. -/
structure Route.Delimited (route : Route) (host path : Template)
    (hostPieces pathPieces : List Piece) : Prop where
  leaf : route.nested = none
  bare : route.settings.matchers = []
  hasHost : route.settings.host = some host
  hasPath : route.settings.path = some path
  whole : path.isPrefix = false
  hostSplit : Piece.split? host.text.toList = some hostPieces
  pathSplit : Piece.split? path.text.toList = some pathPieces
  hostDelimited : Piece.delimited '.' hostPieces = true
  pathDelimited : Piece.delimited '/' pathPieces = true
  hostLiteral : ∀ cs, Piece.literal cs ∈ hostPieces → Avoids hostMarks cs
  pathLiteral : ∀ cs, Piece.literal cs ∈ pathPieces → Avoids pathMarks cs

variable {route : Route} {request : Request} {hostText pathText : String}

theorem Template.pairsOf?_of_matchVars? {input : String} {vars : Vars} (hnodup : t.varNames.Nodup)
    (h : t.matchVars? input = some vars) : pairsOf? (some t) input = some vars.entries := by
  obtain ⟨caps, hcaps, rfl⟩ := Option.map_eq_some_iff.1 h
  have hnames : ((t.extract caps).map (·.1)).Sublist t.varNames :=
    Bindings.names_filterMap t.vars (·.name) fun v => caps.get? v.group
  rw [pairsOf?, hcaps, Option.map_some, Bindings.entries_ofPairs (hnames.nodup hnodup)]

namespace Route.Delimited

variable (hd : route.Delimited host path hostPieces pathPieces)
include hd

theorem url_eq_ok {url : String} : route.url values = .ok url ↔ ∃ hostText pathText,
    host.build values = .ok hostText ∧ path.build values = .ok pathText ∧
      "http://" ++ hostText ++ pathText = url := by
  simp only [Route.url, hd.hasHost, hd.hasPath, hostUrl, bind, Except.bind, pure, Except.pure]
  cases host.build values <;> cases path.build values <;> simp

theorem resolve_found : (route.resolve request).found =
    (route.settings.extract? request).map fun vars => ⟨route, vars⟩ := by
  rw [RequestRouter.resolve_found, hd.leaf, hd.bare]
  cases route.settings.extract? request <;> rfl

variable (hsound : route.settings.Sound)
include hsound

/-- The templates of such a route are templates of delimited values. -/
theorem exists_plain : ∃ reserved parts reserved' parts',
    Plain '.' defaultHostPattern reserved host hostPieces parts ∧
    Plain '/' defaultPathPattern reserved' path pathPieces parts' := by
  obtain ⟨reserved, hhost⟩ := hsound.host host hd.hasHost
  obtain ⟨isPrefix, reserved', hpath⟩ := hsound.path path hd.hasPath
  obtain rfl : isPrefix = false := (isPrefix_of_compile hpath).symm.trans hd.whole
  obtain ⟨parts, hhost⟩ := plain_of_compile .host hhost hd.hostSplit hd.hostDelimited
  obtain ⟨parts', hpath⟩ := plain_of_compile .path hpath hd.pathSplit hd.pathDelimited
  exact ⟨reserved, parts, reserved', parts', hhost, hpath⟩

theorem names_nodup : (host.varNames ++ path.varNames).Nodup := by
  have hnodup := hsound.names_nodup
  rw [hd.hasHost, hd.hasPath] at hnodup
  exact hnodup

/-- **What is extracted builds** the host and the path of the request again. -/
theorem build_of_extract? (h : route.settings.extract? request =
    some (values.restrict (host.varNames ++ path.varNames))) :
    host.build values = .ok request.host ∧ path.build values = .ok request.path := by
  obtain ⟨reserved, parts, reserved', parts', hplain, hplain'⟩ := hd.exists_plain hsound
  obtain ⟨hhost, hpath⟩ := extract?_isSome.1 ⟨_, h⟩
  obtain ⟨-, hget⟩ := get?_of_extract? h
  -- what the route extracts under a name of its own is what was given
  have hvalue : ∀ name ∈ host.varNames ++ path.varNames, ∀ x,
      route.valueOf? request name = some x → values.get? name = some x := by
    intro name hname x hx
    rwa [← hget, Bindings.get?_restrict, if_pos hname] at hx
  constructor
  · obtain ⟨caps, hcaps⟩ := Option.isSome_iff_exists.1 (hhost host hd.hasHost)
    refine build_of_captures hplain.compiled hcaps hplain.whole fun v hv x hx => ?_
    have hname : v.name ∈ host.varNames := List.mem_map_of_mem hv
    exact hvalue _ (List.mem_append_left _ hname) x (valueOf?_of_host hsound hd.hasHost hname hx)
  · obtain ⟨caps, hcaps⟩ := Option.isSome_iff_exists.1 (hpath path hd.hasPath)
    refine build_of_captures hplain'.compiled hcaps hplain'.whole fun v hv x hx => ?_
    have hname : v.name ∈ path.varNames := List.mem_map_of_mem hv
    exact hvalue _ (List.mem_append_right _ hname) x (valueOf?_of_path hd.hasPath hx)

/-- **What was built is extracted** from requests for the host and the path. -/
theorem extract?_of_build (hhost : host.build values = .ok request.host)
    (hpath : path.build values = .ok request.path) : route.settings.extract? request =
      some (values.restrict (host.varNames ++ path.varNames)) := by
  obtain ⟨reserved, parts, reserved', parts', hplain, hplain'⟩ := hd.exists_plain hsound
  have hpairs := pairsOf?_of_matchVars? hplain.compiled.names_nodup
    (hplain.matchVars?_of_build hhost)
  have hpairs' := pairsOf?_of_matchVars? hplain'.compiled.names_nodup
    (hplain'.matchVars?_of_build hpath)
  rw [← hd.hasHost] at hpairs
  rw [← hd.hasPath] at hpairs'
  refine extract?_eq_some.2 ⟨_, _, hpairs, hpairs', ?_⟩
  -- no name is in both templates, so nothing is replaced when the values are put together
  rw [← Bindings.restrict_append, Bindings.ofPairs_entries]
  exact Bindings.distinct_restrict values (hd.names_nodup hsound)

/-- **Which requests have the values**: if a host and a path are built from them, those for this host
and this path. -/
theorem resolve_iff_of_build (hhost : host.build values = .ok hostText)
    (hpath : path.build values = .ok pathText) :
    (route.resolve request).found =
        some ⟨route, values.restrict (host.varNames ++ path.varNames)⟩ ↔
      request.host = hostText ∧ request.path = pathText := by
  rw [hd.resolve_found, Option.map_eq_some_iff]
  constructor
  · rintro ⟨vars, hextract, hvars⟩
    obtain rfl : vars = values.restrict (host.varNames ++ path.varNames) :=
      congrArg Match.vars hvars
    obtain ⟨hhost', hpath'⟩ := hd.build_of_extract? hsound hextract
    rw [hhost] at hhost'
    rw [hpath] at hpath'
    exact ⟨(Except.ok.inj hhost').symm, (Except.ok.inj hpath').symm⟩
  · rintro ⟨rfl, rfl⟩
    exact ⟨_, hd.extract?_of_build hsound hhost hpath, rfl⟩

end Route.Delimited

/-- **When a request for a URL that was built gives the values back.** In a tree after any calls, the
URL of a route of delimited values is resolved by the route with exactly the values of its variables
if and only if no value contains a character at which a target is cut: in the host a slash, a question
mark or a number sign, and in the path a question mark or a number sign. -/
theorem resolve_url_iff (calls : List Call) {indices : List Nat}
    (hroute : (Site.empty.afterCalls calls).root.routeAt? indices = some route)
    (hd : route.Delimited host path hostPieces pathPieces) (pairs : List (String × String))
    {url : String} (hurl : route.url (.ofPairs pairs) = .ok url) :
    (route.resolve (.new .get url)).found =
        some ⟨route, (Bindings.ofPairs pairs).restrict (host.varNames ++ path.varNames)⟩ ↔
      (∀ name ∈ host.varNames, ∀ x, (Bindings.ofPairs pairs).get? name = some x →
        Avoids hostMarks x.toList) ∧
      (∀ name ∈ path.varNames, ∀ x, (Bindings.ofPairs pairs).get? name = some x →
        Avoids pathMarks x.toList) := by
  have hsound := sound_afterCalls calls indices route hroute
  have hslash := rooted_afterCalls calls indices route hroute path hd.hasPath
  obtain ⟨hostText, pathText, hhost, hpath, rfl⟩ := hd.url_eq_ok.1 hurl
  obtain ⟨reserved, hcompile⟩ := hsound.host host hd.hasHost
  obtain ⟨isPrefix, reserved', hcompile'⟩ := hsound.path path hd.hasPath
  have hrooted := head?_of_build hcompile' (beq_iff_eq.1 hslash) hpath
  -- the literal text has no mark, so the host and the path have those of the values
  have havoids : Avoids hostMarks hostText.toList ↔ ∀ name ∈ host.varNames, ∀ x,
      (Bindings.ofPairs pairs).get? name = some x → Avoids hostMarks x.toList := by
    rw [avoids_of_build hcompile hd.hostSplit hhost, and_iff_right hd.hostLiteral]
  have havoids' : Avoids pathMarks pathText.toList ↔ ∀ name ∈ path.varNames, ∀ x,
      (Bindings.ofPairs pairs).get? name = some x → Avoids pathMarks x.toList := by
    rw [avoids_of_build hcompile' hd.pathSplit hpath, and_iff_right hd.pathLiteral]
  rw [hd.resolve_iff_of_build hsound hhost hpath, ← havoids, ← havoids', ← parse_http_iff hrooted]
  rfl

/-- A route of delimited values in a tree, with the URLs of some values. What is after a question mark
is no part of the path that is matched. -/
theorem exists_delimited_route : ∃ route host path,
    (Site.empty.afterCalls [.add [] (.host "{user}.org"),
      .configure [0] (.path "/{file}")]).root.routeAt? [0] = some route ∧
    route.Delimited host path [.braced "user".toList, .literal ".org".toList]
      [.literal ['/'], .braced "file".toList] ∧
    route.url (.ofPairs [("file", "b c"), ("user", "a")]) = .ok "http://a.org/b c" ∧
    route.url (.ofPairs [("file", "b?c"), ("user", "a")]) = .ok "http://a.org/b?c" ∧
    ∃ m, (route.resolve (.new .get "http://a.org/b?c")).found = some m ∧
      m.vars.get? "file" = some "b" := by
  have hsome : ((Site.empty.afterCalls [.add [] (.host "{user}.org"),
      .configure [0] (.path "/{file}")]).root.routeAt? [0]).any (fun route =>
        route.nested.isNone && route.settings.matchers.isEmpty &&
        route.settings.host.any (fun t => t.text == "{user}.org") &&
        route.settings.path.any (fun t => t.text == "/{file}" && !t.isPrefix) &&
        (route.url (.ofPairs [("file", "b c"), ("user", "a")])).toOption == some "http://a.org/b c" &&
        (route.url (.ofPairs [("file", "b?c"), ("user", "a")])).toOption == some "http://a.org/b?c" &&
        (route.resolve (.new .get "http://a.org/b?c")).found.any fun m =>
          m.vars.get? "file" == some "b") = true := by
    decide +kernel
  obtain ⟨route, hroute, hfacts⟩ := (Option.any_eq_true _ _).1 hsome
  simp only [Bool.and_eq_true, Option.isNone_iff_eq_none, List.isEmpty_iff, Option.any_eq_true,
    beq_iff_eq, Bool.not_eq_true'] at hfacts
  obtain ⟨⟨⟨⟨⟨⟨hleaf, hbare⟩, host, hhost, hhostText⟩, path, hpath, hpathText, hwhole⟩, hurl⟩,
    hurl'⟩, hfound⟩ := hfacts
  refine ⟨route, host, path, hroute, ⟨hleaf, hbare, hhost, hpath, hwhole, ?_, ?_, ?_, ?_, ?_, ?_⟩,
    ?_, ?_, hfound⟩
  · rw [hhostText]
    decide +kernel
  · rw [hpathText]
    decide +kernel
  · decide
  · decide
  · intro cs hcs
    obtain rfl : cs = ".org".toList := by simpa using hcs
    decide +kernel
  · intro cs hcs
    obtain rfl : cs = ['/'] := by simpa using hcs
    decide +kernel
  · exact eq_ok_of_toOption hurl
  · exact eq_ok_of_toOption hurl'

/-- **A value with a question mark** is cut where the URL is parsed. -/
theorem resolve_url_of_marked_value : ∃ route host path,
    (Site.empty.afterCalls [.add [] (.host "{user}.org"),
      .configure [0] (.path "/{file}")]).root.routeAt? [0] = some route ∧
    route.Delimited host path [.braced "user".toList, .literal ".org".toList]
      [.literal ['/'], .braced "file".toList] ∧
    route.url (.ofPairs [("file", "b?c"), ("user", "a")]) = .ok "http://a.org/b?c" ∧
    ∀ m, (route.resolve (.new .get "http://a.org/b?c")).found = some m →
      m.vars.get? "file" ≠ (Bindings.ofPairs [("file", "b?c"), ("user", "a")]).get? "file" := by
  obtain ⟨route, host, path, hroute, hd, -, hurl, m, hfound, hfile⟩ := exists_delimited_route
  refine ⟨route, host, path, hroute, hd, hurl, fun m' hm' => ?_⟩
  obtain rfl : m = m' := Option.some.inj (hfound.symm.trans hm')
  rw [hfile]
  decide

/-- Values with a space are not cut. -/
theorem resolve_url_of_plain_values : ∃ route host path,
    (Site.empty.afterCalls [.add [] (.host "{user}.org"),
      .configure [0] (.path "/{file}")]).root.routeAt? [0] = some route ∧
    route.Delimited host path [.braced "user".toList, .literal ".org".toList]
      [.literal ['/'], .braced "file".toList] ∧
    route.url (.ofPairs [("file", "b c"), ("user", "a")]) = .ok "http://a.org/b c" ∧
    ((route.resolve (.new .get "http://a.org/b c")).found =
        some ⟨route, (Bindings.ofPairs [("file", "b c"), ("user", "a")]).restrict
          (host.varNames ++ path.varNames)⟩ ↔
      (∀ name ∈ host.varNames, ∀ x,
        (Bindings.ofPairs [("file", "b c"), ("user", "a")]).get? name = some x →
          Avoids hostMarks x.toList) ∧
      (∀ name ∈ path.varNames, ∀ x,
        (Bindings.ofPairs [("file", "b c"), ("user", "a")]).get? name = some x →
          Avoids pathMarks x.toList)) := by
  obtain ⟨route, host, path, hroute, hd, hurl, -⟩ := exists_delimited_route
  exact ⟨route, host, path, hroute, hd, hurl, resolve_url_iff _ hroute hd _ hurl⟩

end RequestRouter
