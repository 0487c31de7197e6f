import Mathlib.Tactic
import RequestRouter.Proofs.Routing.Names

/-!
# The names that routes were given

A route has the name that it was given last. The table keeps every name that was given, so a route
that was given several is found by each of them.

* `Site.given?`, `Site.given`: the names that calls give, with the places of the routes.
* `lastGiven`: the last name given at a place.
* `KeepsNames`, `KeepsNames.call`: what the table and the routes say of the names given so far, which
  each call keeps.
* `names_given`: **the table is the list of names given**, a name leads to the route that it was given,
  and that route has it unless it was given another one since.
-/

namespace RequestRouter

/-- The last name that was given at a place. -/
def lastGiven (given : List (String × Position)) (path : List Nat) : Option String :=
  (given.reverse.find? fun e => e.2 = path).map (·.1)

section lastGiven

variable {given : List (String × Position)} {path : List Nat} {n : String}

theorem lastGiven_concat (e : String × Position) :
    lastGiven (given ++ [e]) path = if e.2 = path then some e.1 else lastGiven given path := by
  unfold lastGiven
  rw [List.reverse_append, List.reverse_singleton, List.singleton_append, List.find?_cons]
  by_cases h : e.2 = path <;> simp [h]

/-- Nothing was given at a place without an entry. -/
theorem lastGiven_eq_none (h : ∀ e ∈ given, e.2 ≠ path) : lastGiven given path = none := by
  unfold lastGiven
  rw [Option.map_eq_none_iff, List.find?_eq_none]
  intro e he
  have hne : e.2 ≠ path := h e (List.mem_reverse.1 he)
  simpa using hne

/-- The last name given at a place was given there. -/
theorem mem_of_lastGiven (h : lastGiven given path = some n) : (n, path) ∈ given := by
  unfold lastGiven at h
  obtain ⟨⟨m, p⟩, hfind, hm⟩ := Option.map_eq_some_iff.1 h
  have hp := List.find?_some hfind
  have hmem := List.mem_reverse.1 (List.mem_of_find?_eq_some hfind)
  simp only [decide_eq_true_eq] at hp hm
  rwa [← hm, ← hp]

/-- Something was given last at each place where something was given. -/
theorem exists_lastGiven (h : (n, path) ∈ given) : ∃ m, lastGiven given path = some m := by
  unfold lastGiven
  have hsome : (given.reverse.find? fun e => e.2 = path).isSome := by
    rw [List.find?_isSome]
    exact ⟨(n, path), List.mem_reverse.2 h, by simp⟩
  obtain ⟨e, he⟩ := Option.isSome_iff_exists.1 hsome
  rw [he]
  exact ⟨e.1, rfl⟩

/-- Where one name was given, it was given last. -/
theorem lastGiven_of_nodup (hplaces : (given.map (·.2)).Nodup) (h : (n, path) ∈ given) :
    lastGiven given path = some n := by
  obtain ⟨m, hm⟩ := exists_lastGiven h
  have hsame : (m, path) = (n, path) :=
    List.inj_on_of_nodup_map hplaces (mem_of_lastGiven hm) h rfl
  rw [hm, (Prod.mk.inj hsame).1]

end lastGiven

namespace Site

variable {site : Site} {c : Call} {path above : List Nat} {route : Route} {router : Router} {n : String}

/-- The name that a call gives, if it succeeds, and the place of the route that it is given to. -/
def given? (site : Site) (c : Call) : Option (String × Position) :=
  match c with
  | .add path factory =>
    match site.root.routerAt? path with
    | none => none
    | some router =>
      if (site.call c).1.isOk then factory.name?.map (·, path ++ [router.routes.length]) else none
  | .configure path d =>
    if (site.root.routeAt? path).isSome && (site.call c).1.isOk then d.name?.map (·, path) else none
  | .openNested _ => none

/-- The names that calls give, in order, and the places of the routes that they are given to. -/
def given (site : Site) : List Call → List (String × Position)
  | [] => []
  | c :: calls => (site.given? c).toList ++ (site.call c).2.given calls

/-- What the table and the routes say of the names that were given. -/
structure KeepsNames (site : Site) (given : List (String × Position)) : Prop where
  /-- Positions are index paths. -/
  ordered : site.Ordered
  /-- The table has the names in the order in which they were given. -/
  table : site.registry.names.entries = given
  /-- No name was given twice. -/
  distinct : (given.map (·.1)).Nodup
  /-- The routes that were given names are in their places. -/
  present : ∀ e ∈ given, (site.root.routeAt? e.2).isSome
  /-- A route has the name that it was given last. -/
  last : ∀ path route, site.root.routeAt? path = some route → route.name? = lastGiven given path

variable {given : List (String × Position)}

theorem keepsNames_empty : empty.KeepsNames [] := by
  refine ⟨ordered_empty, rfl, List.nodup_nil, ?_, ?_⟩
  · intro e he
    cases he
  · intro path route h
    rw [routeAt?_empty] at h
    cases h

/-! ### What a call does to names -/

/-- What a call does to names: it gives none, or it gives one that is free to a route. -/
inductive Renaming (site : Site) (c : Call) : Prop
  | nothing (hgiven : site.given? c = none)
    (htable : (site.call c).2.registry.names = site.registry.names)
    (hname : ∀ path route, (site.call c).2.root.routeAt? path = some route →
      (∃ old, site.root.routeAt? path = some old ∧ route.name? = old.name?) ∨
        site.root.routeAt? path = none ∧ route.name? = none)
  | gives {n : String} {place : List Nat} {named : Route} (hgiven : site.given? c = some (n, place))
    (hfree : site.registry.names.find? n = none)
    (htable : (site.call c).2.registry.names = site.registry.names.insert n place)
    (hplace : (site.call c).2.root.routeAt? place = some named) (hnamed : named.name? = some n)
    (helsewhere : ∀ path route, path ≠ place → (site.call c).2.root.routeAt? path = some route →
      ∃ old, site.root.routeAt? path = some old ∧ route.name? = old.name?)

/-- A call that carries out directives at a place does to names what they do. -/
theorem renaming_of_naming {f : Settings → Router} {x : Setup Settings} {name? old : Option String}
    {place : Position} (hedit : c.edit site.root = f <$> x)
    (hnaming : Naming name? place old site.registry.names (x.run site.registry))
    (hgiven : site.given? c = if (site.call c).1.isOk then name?.map (·, place) else none)
    (hplace : ∀ settings, ∃ new, (f settings).routeAt? place = some new ∧
      new.name? = settings.name)
    (hold : (∃ r, site.root.routeAt? place = some r ∧ old = r.name?) ∨
      site.root.routeAt? place = none ∧ old = none)
    (helsewhere : ∀ path route, path ≠ place → (site.call c).2.root.routeAt? path = some route →
      ∃ old, site.root.routeAt? path = some old ∧ route.name? = old.name?) : site.Renaming c := by
  have hcall := call_eq_of_map hedit
  generalize x.run site.registry = outcome at hnaming hcall
  cases hnaming with
  | failed hnames =>
    -- the tree is as it was
    refine .nothing ?_ ?_ ?_
    · rw [hgiven, hcall]
      rfl
    · rw [hcall]
      exact hnames
    · intro path route hroute
      rw [hcall] at hroute
      exact Or.inl ⟨route, hroute, rfl⟩
  | @plain settings after hname hsettings hnames =>
    refine .nothing ?_ ?_ ?_
    · rw [hgiven, hname]
      simp
    · rw [hcall]
      exact hnames
    · intro path route hroute
      by_cases hpath : path = place
      · obtain ⟨new, hnew, hnewname⟩ := hplace settings
        have hsame : new = route := by
          rw [hcall, hpath] at hroute
          exact Option.some.inj (hnew.symm.trans hroute)
        rw [← hsame, hnewname, hsettings, hpath]
        exact hold
      · exact Or.inl (helsewhere path route hpath hroute)
  | @given settings after n hname hfree hsettings hnames =>
    obtain ⟨new, hnew, hnewname⟩ := hplace settings
    refine .gives ?_ hfree ?_ ?_ (hnewname.trans hsettings) helsewhere
    · rw [hgiven, hcall, hname]
      rfl
    · rw [hcall]
      exact hnames
    · rw [hcall]
      exact hnew

theorem renaming_add (h : site.Ordered) (path : List Nat) (factory : Factory) :
    site.Renaming (.add path factory) := by
  cases hrouter : site.root.routerAt? path with
  | none =>
    refine .nothing ?_ ?_ ?_
    · rw [given?, hrouter]
    · rw [call_add_absent factory hrouter]
    · intro below route hroute
      rw [call_add_absent factory hrouter] at hroute
      exact Or.inl ⟨route, hroute, rfl⟩
  | some router =>
    have hnext : router.next = path ++ [router.routes.length] := by
      rw [Router.next, h.routerAt? hrouter]
    refine renaming_of_naming (edit_add_push factory hrouter)
      (naming_settle router.next site.registry factory) ?_ ?_ ?_ ?_
    · rw [given?, hrouter, hnext]
    · intro settings
      rw [hnext]
      exact ⟨_, Router.routeAt?_push_self hrouter, rfl⟩
    · rw [hnext]
      exact Or.inr ⟨Router.routeAt?_length hrouter, rfl⟩
    · intro below route hne hroute
      rw [hnext] at hne
      cases origin_call hroute with
      | kept hold _ hsettings => exact ⟨_, hold, congrArg Settings.name hsettings⟩
      | configured hc => cases hc
      | added hc hrouter' hpath =>
        cases hc
        rw [hrouter] at hrouter'
        cases hrouter'
        exact absurd hpath hne

theorem renaming_configure (h : site.Ordered) (path : List Nat) (d : Directive) :
    site.Renaming (.configure path d) := by
  cases hold : site.root.routeAt? path with
  | none =>
    refine .nothing ?_ ?_ ?_
    · rw [given?, hold]
      rfl
    · rw [call_configure_absent d hold]
    · intro below route hroute
      rw [call_configure_absent d hold] at hroute
      exact Or.inl ⟨route, hroute, rfl⟩
  | some old =>
    have hposition : old.position = path := h.position path old hold
    have hnaming := naming_apply old.position old.settings site.registry d
    rw [hposition] at hnaming
    have hedit := edit_configure d hold
    rw [hposition] at hedit
    refine renaming_of_naming hedit hnaming ?_ ?_ ?_ ?_
    · rw [given?, hold]
      simp
    · intro settings
      refine ⟨_, Router.routeAt?_replaceAt_self hold, ?_⟩
      rw [Route.name?, Route.settings_withSettings]
    · exact Or.inl ⟨old, hold, rfl⟩
    · intro below route hne hroute
      cases origin_call hroute with
      | kept hkept _ hsettings => exact ⟨_, hkept, congrArg Settings.name hsettings⟩
      | configured hc =>
        cases hc
        exact absurd rfl hne
      | added hc => cases hc

theorem renaming_openNested (path : List Nat) : site.Renaming (.openNested path) := by
  refine .nothing rfl ?_ ?_
  · obtain ⟨position, hentries⟩ := site.entries_call (.openNested path)
    rw [accepted?, Option.map_none, Option.toList_none, List.append_nil] at hentries
    exact congrArg NameTable.mk hentries
  · intro below route hroute
    cases origin_call hroute with
    | kept hold _ hsettings => exact Or.inl ⟨_, hold, congrArg Settings.name hsettings⟩
    | configured hc => cases hc
    | added hc => cases hc

/-- **Each call** gives no name, or gives a free one to a route. -/
theorem renaming_call (h : site.Ordered) (c : Call) : site.Renaming c := by
  cases c with
  | add path factory => exact renaming_add h path factory
  | configure path d => exact renaming_configure h path d
  | openNested path => exact renaming_openNested path

/-! ### The names given so far -/

/-- **Each call keeps** the table and the routes in agreement with the names given. -/
theorem KeepsNames.call (h : site.KeepsNames given) (c : Call) :
    (site.call c).2.KeepsNames (given ++ (site.given? c).toList) := by
  cases site.renaming_call h.ordered c with
  | nothing hgiven htable hname =>
    rw [hgiven, Option.toList_none, List.append_nil]
    refine ⟨h.ordered.call c, ?_, h.distinct, ?_, ?_⟩
    · rw [htable, h.table]
    · intro e he
      exact isSome_routeAt?_call (h.present e he) c
    · intro path route hroute
      rcases hname path route hroute with ⟨old, hold, hsame⟩ | ⟨habsent, hnone⟩
      · rw [hsame, h.last path old hold]
      · -- no name was given where there was no route
        rw [hnone, lastGiven_eq_none]
        intro e he hpath
        have hpresent := h.present e he
        rw [hpath, habsent] at hpresent
        cases hpresent
  | @gives n place named hgiven hfree htable hplace hnamed helsewhere =>
    rw [hgiven, Option.toList_some]
    refine ⟨h.ordered.call c, ?_, ?_, ?_, ?_⟩
    · rw [htable, NameTable.insert, h.table]
    · have hnew : n ∉ given.map (·.1) := by
        rw [NameTable.find?_eq_none, NameTable.names, h.table] at hfree
        exact hfree
      rw [List.map_append, List.map_singleton, ← List.concat_eq_append]
      exact List.nodup_concat _ _ |>.2 ⟨hnew, h.distinct⟩
    · intro e he
      rcases List.mem_append.1 he with he | he
      · exact isSome_routeAt?_call (h.present e he) c
      · rw [List.mem_singleton.1 he, hplace]
        rfl
    · intro path route hroute
      rw [lastGiven_concat]
      by_cases hpath : place = path
      · subst hpath
        rw [hplace] at hroute
        cases hroute
        rw [if_pos rfl, hnamed]
      · obtain ⟨old, hold, hsame⟩ := helsewhere path route (Ne.symm hpath) hroute
        rw [if_neg hpath, hsame, h.last path old hold]

/-- **Any calls keep** them in agreement, those that fail included. -/
theorem KeepsNames.afterCalls (h : site.KeepsNames given) (calls : List Call) :
    (site.afterCalls calls).KeepsNames (given ++ site.given calls) := by
  induction calls generalizing site given with
  | nil =>
    rw [Site.given, List.append_nil]
    exact h
  | cons c calls ih =>
    have hnext := ih (h.call c)
    rw [List.append_assoc] at hnext
    exact hnext

/-! ### Looking up a name -/

/-- The table leads to the place where a name was given. -/
theorem KeepsNames.find?_iff (h : site.KeepsNames given) :
    site.registry.names.find? n = some path ↔ (n, path) ∈ given := by
  have hfind : site.registry.names.find? n = given.lookup n := by
    rw [NameTable.find?, h.table]
  rw [hfind]
  constructor
  · intro hlookup
    obtain ⟨before, later, hsplit, -⟩ := List.lookup_eq_some_iff.1 hlookup
    rw [hsplit]
    simp
  · intro hmem
    cases hlookup : given.lookup n with
    | none =>
      rw [List.lookup_eq_none_iff] at hlookup
      have hne := hlookup (n, path) hmem
      simp at hne
    | some path' =>
      obtain ⟨before, later, hsplit, -⟩ := List.lookup_eq_some_iff.1 hlookup
      have hmem' : (n, path') ∈ given := by
        rw [hsplit]
        simp
      have hsame := List.inj_on_of_nodup_map h.distinct hmem' hmem rfl
      rw [(Prod.mk.inj hsame).2]

/-- **A name leads to the route that it was given**, if that is below the router that is asked. -/
theorem KeepsNames.named?_iff (h : site.KeepsNames given)
    (hrouter : site.root.routerAt? above = some router) :
    router.named? site.registry.names n = some route ↔
      ∃ below, router.routeAt? below = some route ∧ (n, above ++ below) ∈ given := by
  constructor
  · intro hnamed
    cases hfind : site.registry.names.find? n with
    | none =>
      rw [named?_of_not_accepted hfind] at hnamed
      cases hnamed
    | some path =>
      rw [named?_eq_of_find hfind, h.ordered.routerAt? hrouter] at hnamed
      split at hnamed
      · rename_i hstarts
        obtain ⟨below, rfl⟩ := List.isPrefixOf_iff_prefix.1 hstarts
        rw [List.drop_left] at hnamed
        exact ⟨below, hnamed, h.find?_iff.1 hfind⟩
      · cases hnamed
  · rintro ⟨below, hroute, hmem⟩
    have hstarts : above.isPrefixOf (above ++ below) = true :=
      List.isPrefixOf_iff_prefix.2 (List.prefix_append above below)
    rw [named?_eq_of_find (h.find?_iff.2 hmem), h.ordered.routerAt? hrouter, if_pos hstarts,
      List.drop_left, hroute]

/-- If every name that was given is the last at its place, no place has two. -/
theorem KeepsNames.nodup_places (h : site.KeepsNames given)
    (hlast : ∀ n path, (n, path) ∈ given → lastGiven given path = some n) :
    (given.map (·.2)).Nodup := by
  refine List.Nodup.map_on ?_ (List.Nodup.of_map _ h.distinct)
  rintro ⟨n, path⟩ hmem ⟨n', path'⟩ hmem' hsame
  have hpath : path = path' := hsame
  subst hpath
  have hn := hlast n path hmem
  rw [hlast n' path hmem'] at hn
  rw [Option.some.inj hn]

/-- The table has exactly the current names of the routes. -/
def TableCurrent (site : Site) : Prop :=
  ∀ n path, (n, path) ∈ site.registry.names.entries ↔
    ∃ route, site.root.routeAt? path = some route ∧ route.name? = some n

/-- What is found by a name has this name, whatever router of the tree is asked. -/
def FindsNamed (site : Site) : Prop :=
  ∀ above router, site.root.routerAt? above = some router →
    ∀ n route, router.named? site.registry.names n = some route → route.name? = some n

/-- The table has exactly the current names if no route was given two. -/
theorem KeepsNames.tableCurrent_iff (h : site.KeepsNames given) :
    site.TableCurrent ↔ (given.map (·.2)).Nodup := by
  unfold TableCurrent
  rw [h.table]
  constructor
  · intro hcurrent
    refine h.nodup_places fun n path hmem => ?_
    obtain ⟨route, hroute, hname⟩ := (hcurrent n path).1 hmem
    rw [← h.last path route hroute, hname]
  · intro hplaces n path
    constructor
    · intro hmem
      obtain ⟨route, hroute⟩ := Option.isSome_iff_exists.1 (h.present (n, path) hmem)
      refine ⟨route, hroute, ?_⟩
      rw [h.last path route hroute, lastGiven_of_nodup hplaces hmem]
    · rintro ⟨route, hroute, hname⟩
      rw [h.last path route hroute] at hname
      exact mem_of_lastGiven hname

/-- What is found by a name has it if no route was given two. -/
theorem KeepsNames.findsNamed_iff (h : site.KeepsNames given) :
    site.FindsNamed ↔ (given.map (·.2)).Nodup := by
  constructor
  · intro hfinds
    refine h.nodup_places fun n path hmem => ?_
    obtain ⟨route, hroute⟩ := Option.isSome_iff_exists.1 (h.present (n, path) hmem)
    have hroot : site.root.routerAt? [] = some site.root := rfl
    have hnamed := (h.named?_iff hroot).2 ⟨path, hroute, hmem⟩
    rw [← h.last path route hroute, hfinds [] site.root hroot n route hnamed]
  · intro hplaces above router hrouter n route hnamed
    obtain ⟨below, hbelow, hmem⟩ := (h.named?_iff hrouter).1 hnamed
    have hroute : site.root.routeAt? (above ++ below) = some route := by
      rw [← Router.routeAt?_of_routerAt? hrouter (Router.path_ne_nil hbelow), hbelow]
    rw [h.last _ route hroute, lastGiven_of_nodup hplaces hmem]

/-- **What the table and lookups say**, given the names that were given to routes. -/
structure NamesGiven (site : Site) (given : List (String × Position)) : Prop where
  /-- The table has one entry for each name given, and no others. -/
  table : site.registry.names.entries = given
  /-- No name was given twice. -/
  distinct : (given.map (·.1)).Nodup
  /-- Every place where a name was given has a route. -/
  present : ∀ e ∈ given, (site.root.routeAt? e.2).isSome
  /-- A route has the name that it was given last, and none if it was given none. -/
  last : ∀ path route, site.root.routeAt? path = some route → route.name? = lastGiven given path
  /-- A router finds by a name the route below it that was given the name. -/
  named_iff : ∀ above router, site.root.routerAt? above = some router → ∀ n route,
    router.named? site.registry.names n = some route ↔
      ∃ below, router.routeAt? below = some route ∧ (n, above ++ below) ∈ given
  /-- What is found by a name has it, for all names, exactly if no route was given two. -/
  findsNamed_iff : site.FindsNamed ↔ (given.map (·.2)).Nodup
  /-- The table has exactly the current names of the routes under the same condition. -/
  tableCurrent_iff : site.TableCurrent ↔ (given.map (·.2)).Nodup

/-- **The table is the list of names given**, after any calls: a name leads to the route that it was
given, whose name is the last that it was given. -/
theorem names_given (calls : List Call) :
    (empty.afterCalls calls).NamesGiven (empty.given calls) := by
  have h : (empty.afterCalls calls).KeepsNames (empty.given calls) :=
    keepsNames_empty.afterCalls calls
  refine ⟨h.table, h.distinct, h.present, h.last, ?_, h.findsNamed_iff, h.tableCurrent_iff⟩
  intro above router hrouter n route
  exact h.named?_iff hrouter

/-- A route that is given a second name is still found by the first, which it does not have. -/
theorem named_by_replaced_name :
    ¬ (empty.afterCalls [.add [] (.name "a"), .configure [0] (.name "b")]).FindsNamed := by
  intro hfinds
  have hname := hfinds [] _ rfl "a" _ rfl
  revert hname
  decide

end Site

end RequestRouter
