import Mathlib.Tactic
import RequestRouter.Proofs.Routing.GivenNames
import RequestRouter.Proofs.Routing.Nesting

/-!
# The log of a configuration

What is done to a tree is told three times: by the log, by the table of names and by the tree itself. A
route that a factory makes reports its name before it is in the tree, and a nested router knows its place
by a copy. The three agree after any calls, those that fail included.

* `NameTable.replay`: the table that a log tells of.
* `Registry.Reports`, `reports_foldlM`: **directives report the names that they enter**, and nothing else.
* `Site.Reporting`, `reporting_call`: what a call reports, which is one event at most.
* `KeepsLog`, `KeepsLog.call`: what the log says of the tree, which each call keeps.
* `log_is_faithful`: **the log is a faithful history** of the tree.
-/

namespace RequestRouter

/-! ### What events say -/

namespace Event

/-- The name that an event reports, with the position. -/
def naming? : Event → Option (String × Position)
  | nameRegistered name position => some (name, position)
  | _ => none

/-- The position of the route that an event of a configuration is about. -/
def place? : Event → Option Position
  | nameRegistered _ position | nestedAttached position => some position
  | _ => none

/-- The later event does not open a nested router in which the earlier one is. -/
def InOrder (earlier later : Event) : Prop :=
  ∀ place below, later = nestedAttached place → earlier.place? = some below → place <+: below →
    place = below

/-- The names that a log reports, in order. -/
def namings (log : List Event) : List (String × Position) :=
  log.filterMap naming?

end Event

namespace NameTable

/-- A table after an event: it has one more name if the event reports one. -/
def note (table : NameTable) : Event → NameTable
  | .nameRegistered name position => table.insert name position
  | _ => table

/-- The table that a log tells of. -/
def replay (log : List Event) : NameTable :=
  log.foldl note ⟨[]⟩

theorem foldl_note (table : NameTable) (log : List Event) :
    log.foldl note table = ⟨table.entries ++ Event.namings log⟩ := by
  induction log generalizing table with
  | nil => simp [Event.namings]
  | cons event log ih =>
    rw [List.foldl_cons, ih]
    cases event with
    | nameRegistered name position => simp [note, insert, Event.namings, Event.naming?]
    | _ => rfl

theorem replay_eq (log : List Event) : replay log = ⟨Event.namings log⟩ :=
  foldl_note ⟨[]⟩ log

end NameTable

/-! ### Directives -/

namespace Registry

/-- The names that were entered into the table are those that were reported, and nothing else was. -/
def Reports (before after : Registry) : Prop :=
  ∃ added : List (String × Position), after.names.entries = before.names.entries ++ added ∧
    after.events = before.events ++ added.map fun e => .nameRegistered e.1 e.2

variable {before between after registry : Registry}

theorem Reports.refl (registry : Registry) : registry.Reports registry :=
  ⟨[], by simp⟩

theorem Reports.trans (h : before.Reports between) (h' : between.Reports after) :
    before.Reports after := by
  obtain ⟨added, hnames, hevents⟩ := h
  obtain ⟨added', hnames', hevents'⟩ := h'
  refine ⟨added ++ added', ?_, ?_⟩
  · rw [hnames', hnames, List.append_assoc]
  · rw [hevents', hevents, List.append_assoc, List.map_append]

/-- **Each directive** reports the name that it enters. -/
theorem reports_apply (position : Position) (settings : Settings) (registry : Registry)
    (d : Directive) : registry.Reports ((d.apply position settings).run registry).2 := by
  rw [Directive.run_apply]
  cases d with
  | name n =>
    rw [Directive.claim, Setup.run_register]
    split
    · next hclaim =>
      split at hclaim
      · cases hclaim
      · cases hclaim
        exact ⟨[(n, position)], rfl, rfl⟩
    · next hclaim =>
      -- a name that is taken is neither entered nor reported
      split at hclaim
      · cases hclaim
        exact .refl registry
      · cases hclaim
  | _ => exact .refl registry

/-- **Directives** report the names that they enter, whether one of them fails or not. -/
theorem reports_foldlM (position : Position) (settings : Settings) (registry : Registry)
    (directives : List Directive) : registry.Reports ((directives.foldlM
      (fun settings (d : Directive) => d.apply position settings) settings).run registry).2 := by
  induction directives generalizing settings registry with
  | nil => exact .refl registry
  | cons d rest ih =>
    rw [List.foldlM_cons, Setup.run_bind]
    have hfirst := reports_apply position settings registry d
    rcases hrun : (d.apply position settings).run registry with ⟨e | settings', registry'⟩
    · rw [hrun] at hfirst
      exact hfirst
    · rw [hrun] at hfirst
      exact hfirst.trans (ih settings' registry')

end Registry

/-! ### A call -/

namespace Site

variable {site : Site} {c : Call} {given : List (String × Position)}

/-- What a call reports: the name that it gives, or the nested router that it adds, or nothing. -/
inductive Reporting (site : Site) (c : Call) : Prop
  | nothing (hgiven : site.given? c = none) (hopened : site.opened? c = none)
    (hevents : (site.call c).2.registry.events = site.registry.events)
  | name {n : String} {place : Position} (hgiven : site.given? c = some (n, place))
    (hopened : site.opened? c = none) (hevents : (site.call c).2.registry.events =
      site.registry.events ++ [.nameRegistered n place])
  | attached {place : Position} (hgiven : site.given? c = none)
    (hopened : site.opened? c = some place) (hevents : (site.call c).2.registry.events =
      site.registry.events ++ [.nestedAttached place])

theorem reports_call_of_map {f : Settings → Router} {x : Setup Settings}
    (hedit : c.edit site.root = f <$> x) (hx : site.registry.Reports (x.run site.registry).2) :
    site.registry.Reports (site.call c).2.registry := by
  rw [call_eq_of_map hedit]
  rcases hrun : x.run site.registry with ⟨e | settings, registry⟩
  · rw [hrun] at hx
    exact hx
  · rw [hrun] at hx
    exact hx

/-- The table tells which name it is that was reported. -/
theorem reporting_of_reports (h : site.KeepsNames given)
    (hreports : site.registry.Reports (site.call c).2.registry) (hopened : site.opened? c = none) :
    site.Reporting c := by
  obtain ⟨added, hnames, hevents⟩ := hreports
  rw [(h.call c).table, h.table] at hnames
  rw [← List.append_cancel_left hnames] at hevents
  cases hgiven : site.given? c with
  | none =>
    rw [hgiven] at hevents
    exact .nothing hgiven hopened (by simpa using hevents)
  | some e =>
    rw [hgiven] at hevents
    exact .name hgiven hopened (by simpa using hevents)

theorem reporting_openNested (h : site.Ordered) (path : List Nat) :
    site.Reporting (.openNested path) := by
  cases hroute : site.root.routeAt? path with
  | none =>
    refine .nothing rfl ?_ ?_
    · rw [opened?, hroute, Option.bind_none]
    · rw [call_openNested_absent hroute]
  | some route =>
    cases hnested : route.nested with
    | some routes =>
      refine .nothing rfl ?_ ?_
      · rw [opened?, hroute, Option.bind_some, hnested]
        rfl
      · rw [call_openNested_of_some hroute hnested]
    | none =>
      have hopened : site.opened? (.openNested path) = some path := by
        rw [opened?, hroute, Option.bind_some, hnested]
        rfl
      refine .attached rfl hopened ?_
      -- the position that is reported is the copy that the route has
      rw [call_openNested_of_none hroute hnested, h.position path route hroute]

/-- **Each call** reports the name that it gives or the nested router that it adds. -/
theorem reporting_call (h : site.KeepsNames given) (c : Call) : site.Reporting c := by
  cases c with
  | add path factory =>
    refine reporting_of_reports h ?_ rfl
    cases hrouter : site.root.routerAt? path with
    | none =>
      rw [call_add_absent factory hrouter]
      exact .refl site.registry
    | some router =>
      exact reports_call_of_map (edit_add_push factory hrouter)
        (Registry.reports_foldlM router.next .empty site.registry factory.directives)
  | configure path d =>
    refine reporting_of_reports h ?_ rfl
    cases hold : site.root.routeAt? path with
    | none =>
      rw [call_configure_absent d hold]
      exact .refl site.registry
    | some old =>
      exact reports_call_of_map (edit_configure d hold)
        (Registry.reports_apply old.position old.settings site.registry d)
  | openNested path => exact reporting_openNested h.ordered path

/-! ### The log so far -/

/-- What the log says of the tree and of the names that were given. -/
structure KeepsLog (site : Site) (given : List (String × Position)) : Prop where
  names : site.KeepsNames given
  /-- The names are reported as they are given. -/
  namings : Event.namings site.registry.events = given
  /-- Every event is about a route of the tree. -/
  placed : ∀ event ∈ site.registry.events, ∃ place, event.place? = some place ∧
    (site.root.routeAt? place).isSome = true
  /-- The nested routers are reported. -/
  attached_iff : ∀ place, .nestedAttached place ∈ site.registry.events ↔ site.root.OpensAt place
  attached_once : ∀ place, site.registry.events.count (.nestedAttached place) ≤ 1
  order : site.registry.events.Pairwise Event.InOrder

theorem keepsLog_empty : empty.KeepsLog [] := by
  refine ⟨keepsNames_empty, rfl, nofun, fun place => iff_of_false List.not_mem_nil ?_,
    fun _ => Nat.zero_le 1, .nil⟩
  rintro ⟨route, hroute, -⟩
  rw [routeAt?_empty] at hroute
  cases hroute

theorem KeepsLog.placed_call (h : site.KeepsLog given) (c : Call) :
    ∀ event ∈ site.registry.events, ∃ place, event.place? = some place ∧
      ((site.call c).2.root.routeAt? place).isSome = true := by
  intro event hevent
  obtain ⟨place, hplace, hroute⟩ := h.placed event hevent
  exact ⟨place, hplace, isSome_routeAt?_call hroute c⟩

/-- A call that reports nothing. -/
theorem KeepsLog.call_nothing (h : site.KeepsLog given) (hgiven : site.given? c = none)
    (hopened : site.opened? c = none)
    (hevents : (site.call c).2.registry.events = site.registry.events) :
    (site.call c).2.KeepsLog given := by
  have hnames := h.names.call c
  rw [hgiven, Option.toList_none, List.append_nil] at hnames
  refine ⟨hnames, ?_, ?_, fun place => ?_, fun place => ?_, ?_⟩
  · rw [hevents, h.namings]
  · rw [hevents]
    exact h.placed_call c
  · rw [hevents, h.attached_iff, opensAt_call, hopened]
    simp
  · rw [hevents]
    exact h.attached_once place
  · rw [hevents]
    exact h.order

/-- A call that reports the name that it gives. -/
theorem KeepsLog.call_name {n : String} {place : Position} (h : site.KeepsLog given)
    (hgiven : site.given? c = some (n, place)) (hopened : site.opened? c = none)
    (hevents : (site.call c).2.registry.events =
      site.registry.events ++ [.nameRegistered n place]) :
    (site.call c).2.KeepsLog (given ++ [(n, place)]) := by
  have hnames := h.names.call c
  rw [hgiven, Option.toList_some] at hnames
  refine ⟨hnames, ?_, ?_, fun path => ?_, fun path => ?_, ?_⟩
  · rw [hevents, Event.namings, List.filterMap_append, ← Event.namings, h.namings]
    rfl
  · rw [hevents, List.forall_mem_append]
    refine ⟨h.placed_call c, ?_⟩
    rw [List.forall_mem_singleton]
    exact ⟨place, rfl, hnames.present (n, place) (List.mem_append_right _ List.mem_cons_self)⟩
  · rw [hevents, opensAt_call, hopened, ← h.attached_iff]
    simp
  · rw [hevents, List.count_append]
    simpa using h.attached_once path
  · rw [hevents, List.pairwise_append]
    refine ⟨h.order, List.pairwise_singleton _ _, ?_⟩
    -- an event of a name opens nothing
    rintro _ _ _ hlater path _ rfl
    cases List.mem_singleton.1 hlater

/-- A call that reports the nested router that it adds. -/
theorem KeepsLog.call_attached {place : Position} (h : site.KeepsLog given)
    (hgiven : site.given? c = none) (hopened : site.opened? c = some place)
    (hevents : (site.call c).2.registry.events =
      site.registry.events ++ [.nestedAttached place]) :
    (site.call c).2.KeepsLog given := by
  have hnames := h.names.call c
  rw [hgiven, Option.toList_none, List.append_nil] at hnames
  obtain ⟨hplace, hnew⟩ := of_opened? hopened
  refine ⟨hnames, ?_, ?_, fun path => ?_, fun path => ?_, ?_⟩
  · rw [hevents, Event.namings, List.filterMap_append, ← Event.namings, h.namings]
    exact List.append_nil given
  · rw [hevents, List.forall_mem_append]
    refine ⟨h.placed_call c, ?_⟩
    rw [List.forall_mem_singleton]
    obtain ⟨route, hroute, -⟩ := (opensAt_call c).2 (Or.inr hopened)
    refine ⟨place, rfl, ?_⟩
    rw [hroute, Option.isSome_some]
  · rw [hevents, opensAt_call, hopened, ← h.attached_iff]
    simp [eq_comm]
  · rw [hevents, List.count_append]
    by_cases hpath : path = place
    · have hzero : site.registry.events.count (.nestedAttached path) = 0 :=
        List.count_eq_zero.2 fun hmem => hnew (hpath ▸ (h.attached_iff path).1 hmem)
      rw [hzero, Nat.zero_add]
      exact List.count_le_length
    · have hzero : [Event.nestedAttached place].count (.nestedAttached path) = 0 :=
        List.count_eq_zero.2 (by simpa using hpath)
      rw [hzero]
      exact h.attached_once path
  · rw [hevents, List.pairwise_append]
    refine ⟨h.order, List.pairwise_singleton _ _, ?_⟩
    -- a route that something is below has its nested router already
    rintro event hevent _ hlater path below rfl hbelow hstarts
    cases List.mem_singleton.1 hlater
    obtain ⟨below', hbelow', hroute⟩ := h.placed event hevent
    cases hbelow.symm.trans hbelow'
    by_contra hne
    exact hnew (.of_longer hroute hplace hstarts hne)

/-- **Each call keeps** the log in agreement with the tree and the names given. -/
theorem KeepsLog.call (h : site.KeepsLog given) (c : Call) :
    (site.call c).2.KeepsLog (given ++ (site.given? c).toList) := by
  cases site.reporting_call h.names c with
  | nothing hgiven hopened hevents =>
    rw [hgiven, Option.toList_none, List.append_nil]
    exact h.call_nothing hgiven hopened hevents
  | name hgiven hopened hevents =>
    rw [hgiven, Option.toList_some]
    exact h.call_name hgiven hopened hevents
  | attached hgiven hopened hevents =>
    rw [hgiven, Option.toList_none, List.append_nil]
    exact h.call_attached hgiven hopened hevents

/-- **Any calls keep** them in agreement, those that fail included. -/
theorem KeepsLog.afterCalls (h : site.KeepsLog given) (calls : List Call) :
    (site.afterCalls calls).KeepsLog (given ++ site.given calls) := by
  induction calls generalizing site given with
  | nil =>
    rw [Site.given, List.append_nil]
    exact h
  | cons c calls ih =>
    have hnext := ih (h.call c)
    rw [List.append_assoc] at hnext
    exact hnext

/-- **What the log says of a tree** whose routes were given these names. -/
structure FaithfulLog (site : Site) (given : List (String × Position)) : Prop where
  /-- Only names and nested routers are reported. -/
  kinds : ∀ event ∈ site.registry.events,
    (∃ n place, event = .nameRegistered n place) ∨ ∃ place, event = .nestedAttached place
  /-- The names are reported as they were given, each with the place of its route. -/
  namings : Event.namings site.registry.events = given
  /-- No name is reported twice. -/
  distinct : ((Event.namings site.registry.events).map (·.1)).Nodup
  /-- The log tells of the table that there is. -/
  replay : NameTable.replay site.registry.events = site.registry.names
  /-- The position that is reported with a name is that of the route that is found by it. -/
  named : ∀ n place, .nameRegistered n place ∈ site.registry.events →
    ∃ route, site.root.routeAt? place = some route ∧ route.position = place ∧
      site.root.named? site.registry.names n = some route
  /-- A route has the last name that was reported with its position. -/
  current : ∀ place route, site.root.routeAt? place = some route →
    route.name? = lastGiven (Event.namings site.registry.events) place
  /-- Exactly the routes with a nested router are reported to have one, with their positions. -/
  attached_iff : ∀ place, .nestedAttached place ∈ site.registry.events ↔
    ∃ route, site.root.routeAt? place = some route ∧ route.position = place ∧
      route.nested.isSome = true
  attached_once : ∀ place, site.registry.events.count (.nestedAttached place) ≤ 1
  /-- A nested router is reported before everything in it. -/
  attached_first : ∀ (i j : Nat) event place below,
    site.registry.events[i]? = some (.nestedAttached place) →
    site.registry.events[j]? = some event → event.place? = some below →
    place <+: below → place ≠ below → i < j
  /-- Everything in a nested router is reported after the router was. -/
  attached_before : ∀ (j : Nat) event place below, site.registry.events[j]? = some event →
    event.place? = some below → place ≠ [] → place <+: below → place ≠ below →
    ∃ i < j, site.registry.events[i]? = some (.nestedAttached place)

theorem KeepsLog.attached_first (h : site.KeepsLog given) {i j : Nat} {event : Event}
    {place below : Position} (hi : site.registry.events[i]? = some (.nestedAttached place))
    (hj : site.registry.events[j]? = some event) (hbelow : event.place? = some below)
    (hstarts : place <+: below) (hne : place ≠ below) : i < j := by
  rcases Nat.lt_trichotomy i j with hlt | rfl | hgt
  · exact hlt
  · -- the event of a route is not about a route below it
    cases hi.symm.trans hj
    exact absurd (Option.some.inj hbelow) hne
  · obtain ⟨hilt, hi⟩ := List.getElem?_eq_some_iff.1 hi
    obtain ⟨hjlt, hj⟩ := List.getElem?_eq_some_iff.1 hj
    have horder := List.pairwise_iff_getElem.1 h.order j i hjlt hilt hgt
    exact absurd (horder place below hi (hj ▸ hbelow) hstarts) hne

theorem KeepsLog.faithful (h : site.KeepsLog given) : site.FaithfulLog given := by
  have hposition := h.names.ordered.position
  refine ⟨fun event hevent => ?_, h.namings, ?_, ?_, fun n place hevent => ?_, ?_, fun place => ?_,
    h.attached_once, fun _ _ _ _ _ => h.attached_first, ?_⟩
  · obtain ⟨place, hplace, -⟩ := h.placed event hevent
    cases event with
    | nameRegistered n place => exact Or.inl ⟨n, place, rfl⟩
    | nestedAttached place => exact Or.inr ⟨place, rfl⟩
    | _ => cases hplace
  · rw [h.namings]
    exact h.names.distinct
  · rw [NameTable.replay_eq, h.namings, ← h.names.table]
  · have hgiven : (n, place) ∈ given := by
      rw [← h.namings]
      exact List.mem_filterMap.2 ⟨_, hevent, rfl⟩
    obtain ⟨route, hroute⟩ := Option.isSome_iff_exists.1 (h.names.present _ hgiven)
    have hroot : site.root.routerAt? [] = some site.root := rfl
    exact ⟨route, hroute, hposition place route hroute,
      (h.names.named?_iff hroot).2 ⟨place, hroute, hgiven⟩⟩
  · rw [h.namings]
    exact h.names.last
  · rw [h.attached_iff]
    constructor
    · rintro ⟨route, hroute, hsome⟩
      exact ⟨route, hroute, hposition place route hroute, hsome⟩
    · rintro ⟨route, hroute, -, hsome⟩
      exact ⟨route, hroute, hsome⟩
  · intro j event place below hj hbelow hplace hstarts hne
    obtain ⟨below', hbelow', hroute⟩ := h.placed event (List.mem_of_getElem? hj)
    cases hbelow.symm.trans hbelow'
    have hopens : site.root.OpensAt place := .of_longer hroute hplace hstarts hne
    obtain ⟨i, hi⟩ := List.getElem?_of_mem ((h.attached_iff place).2 hopens)
    exact ⟨i, h.attached_first hi hj hbelow hstarts hne, hi⟩

/-- **The log is a faithful history**, after any calls, those that fail included. The names in it are
those that were given, each once and with the place of its route, and read as a table they are the table
of the tree. Every route with a nested router is reported once to have it, before everything that is
reported of the routes in it, and no other route is. -/
theorem log_is_faithful (calls : List Call) :
    (empty.afterCalls calls).FaithfulLog (empty.given calls) := by
  have h : (empty.afterCalls calls).KeepsLog (empty.given calls) := keepsLog_empty.afterCalls calls
  exact h.faithful

example : (empty.afterCalls [.add [] .empty, .openNested [0], .add [0] (.name "a"),
    .add [] (.name "a"), .configure [0] (.name "b"), .openNested [0]]).registry.events =
      [.nestedAttached [0], .nameRegistered "a" [0, 0], .nameRegistered "b" [0]] := by
  rfl

end Site

end RequestRouter
