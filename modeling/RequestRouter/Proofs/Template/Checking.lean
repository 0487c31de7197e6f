import Mathlib.Tactic
import RequestRouter.Proofs.Template.MatchLanguage

/-!
# What building checks

A text is built in two steps. The values of all variables are looked up, and the first that is
missing is reported. Then the whole text is matched, and only if that fails are the values checked
one by one, to report the first that is to blame.

So the check of the whole can let pass what the checks of single values would not: a value may spill
into what follows it. And a value may pass its own check that is not matched in its place, where an
anchor in its pattern asks for the start or the end of the text.

* `toList_fill`: **filling the segments weaves the pieces.**
* `Supplies`, `Admits`: the values of the variables in order, and that each validator admits its own.
* `build_eq_ok`, `build_eq_error`: when a text is built, and what is reported otherwise.
* `build_outcome`: **what building comes to**, for all templates and all values.
* `captures_of_admits`: values that are admitted one by one make a text that is matched, if the
  patterns have no assertions.
* `build_matched_iff`: **when a template matches all that it builds.**
-/

namespace RequestRouter.Template

open Regex

/-- Bindings have a value for each variable of a template: these, in order. -/
def Supplies (t : Template) (bindings : Bindings) (values : List String) : Prop :=
  List.Forall₂ (fun v x => bindings.get? v.name = some x) t.vars values

/-- Each value is admitted by the validator of its variable. -/
def Admits (t : Template) (values : List String) : Prop :=
  List.Forall₂ (fun v x => v.validator.isMatch x = true) t.vars values

/-- A variable is the first without a value, which is what building reports. -/
def Missing (t : Template) (bindings : Bindings) (e : RouterError) : Prop :=
  ∃ before v after, t.vars = before ++ v :: after ∧
    (∀ w ∈ before, (bindings.get? w.name).isSome = true) ∧ bindings.get? v.name = none ∧
    e = .missingRouteVariable v.name

/-- A variable is the first whose validator does not admit its value, which is what building
reports. -/
def Invalid (t : Template) (values : List String) (e : RouterError) : Prop :=
  ∃ before v x after, t.vars.zip values = before ++ (v, x) :: after ∧
    (∀ p ∈ before, p.1.validator.isMatch p.2 = true) ∧ v.validator.isMatch x = false ∧
    e = .invalidRouteVariable v.name x v.validator.source

variable {default : String} {reserved : List String} {isPrefix : Bool} {pieces : List Piece}
  {parts : List Part} {t : Template} {bindings : Bindings} {values : List String}
  {text built : String} {e : RouterError}

/-! ### Filling the segments -/

theorem weave_segmentsFrom (n : Nat) (pieces : List Piece) (values : List String) :
    ((segmentsFrom n pieces).map (Segment.fill values)).flatMap String.toList =
      Piece.weave pieces ((values.drop n).map String.toList) := by
  induction pieces generalizing n with
  | nil => rfl
  | cons piece pieces ih =>
    cases piece with
    | literal text =>
      rw [segmentsFrom, List.map_cons, List.flatMap_cons, ih, Segment.fill, String.toList_ofList]
      rfl
    | braced body =>
      rw [segmentsFrom, List.map_cons, List.flatMap_cons, ih, Segment.fill]
      rw [List.getD_eq_getElem?_getD]
      by_cases hn : n < values.length
      · rw [List.drop_eq_getElem_cons hn, List.map_cons, Piece.weave, List.getElem?_eq_getElem hn]
        rfl
      · -- a variable without a value counts as empty on both sides
        rw [List.drop_eq_nil_of_le (by omega), List.drop_eq_nil_of_le (by omega),
          List.getElem?_eq_none (by omega)]
        rfl

/-- **Filling the segments weaves the pieces.** -/
theorem toList_fill (h : t.segments = segmentsFrom 0 pieces) (values : List String) :
    (t.fill values).toList = Piece.weave pieces (values.map String.toList) := by
  rw [fill, h, String.toList_join, weave_segmentsFrom, List.drop_zero]

/-! ### Looking up the values -/

/-- The first failure ends the mapping of a list. -/
theorem mapM_of_failure {α β ε : Type} {f : α → Except ε β} {before after : List α} {x : α} {e : ε}
    (hbefore : ∀ y ∈ before, ∃ z, f y = .ok z) (hx : f x = .error e) :
    (before ++ x :: after).mapM f = .error e := by
  induction before with
  | nil =>
    rw [List.nil_append, List.mapM_cons, hx]
    rfl
  | cons y before ih =>
    obtain ⟨⟨z, hz⟩, hrest⟩ := List.forall_mem_cons.1 hbefore
    rw [List.cons_append, List.mapM_cons, hz, ih hrest]
    rfl

/-- **The mapping of a list fails** exactly as the first of its members does that fails. -/
theorem mapM_eq_error {α β ε : Type} {f : α → Except ε β} {xs : List α} {e : ε} :
    xs.mapM f = .error e ↔ ∃ before x after, xs = before ++ x :: after ∧
      (∀ y ∈ before, ∃ z, f y = .ok z) ∧ f x = .error e := by
  constructor
  · intro h
    induction xs with
    | nil => cases h
    | cons x xs ih =>
      rw [List.mapM_cons] at h
      cases hx : f x with
      | error e' =>
        rw [hx] at h
        cases h
        exact ⟨[], x, xs, rfl, nofun, hx⟩
      | ok z =>
        have hrest : xs.mapM f = .error e := by
          rw [hx] at h
          cases hxs : xs.mapM f with
          | error e' =>
            rw [hxs] at h
            cases h
            rfl
          | ok zs =>
            rw [hxs] at h
            cases h
        obtain ⟨before, y, after, rfl, hbefore, hy⟩ := ih hrest
        exact ⟨x :: before, y, after, rfl, List.forall_mem_cons.2 ⟨⟨z, hx⟩, hbefore⟩, hy⟩
  · rintro ⟨before, x, after, rfl, hbefore, hx⟩
    exact mapM_of_failure hbefore hx

/-- The value of a variable, or that it is missing. -/
theorem valuesIn_eq_mapM : t.valuesIn bindings = t.vars.mapM fun v =>
    (bindings.get? v.name).elim (.error (.missingRouteVariable v.name)) .ok := by
  unfold valuesIn
  congr 1
  funext v
  cases bindings.get? v.name <;> rfl

theorem valuesIn_eq_ok : t.valuesIn bindings = .ok values ↔ t.Supplies bindings values := by
  have hfound (v : Variable) (x : String) : (bindings.get? v.name).elim
      (.error (.missingRouteVariable v.name)) Except.ok = Except.ok (ε := RouterError) x ↔
      bindings.get? v.name = some x := by
    cases bindings.get? v.name <;> simp
  rw [valuesIn_eq_mapM, mapM_eq_ok]
  simp only [hfound]
  rfl

theorem valuesIn_eq_error : t.valuesIn bindings = .error e ↔ t.Missing bindings e := by
  have hfound (v : Variable) : (∃ x, (bindings.get? v.name).elim
      (.error (.missingRouteVariable v.name)) Except.ok = Except.ok (ε := RouterError) x) ↔
      (bindings.get? v.name).isSome = true := by
    cases bindings.get? v.name <;> simp
  have hfails (v : Variable) : (bindings.get? v.name).elim
      (.error (.missingRouteVariable v.name)) Except.ok = Except.error (α := String) e ↔
      bindings.get? v.name = none ∧ e = .missingRouteVariable v.name := by
    cases bindings.get? v.name <;> simp [eq_comm]
  rw [valuesIn_eq_mapM, mapM_eq_error]
  simp only [hfound, hfails]
  rfl

theorem Supplies.unique {values' : List String} (h : t.Supplies bindings values)
    (h' : t.Supplies bindings values') : values = values' := by
  rw [← valuesIn_eq_ok] at h h'
  rw [h] at h'
  exact Except.ok.inj h'

/-- The values that are supplied are those that the names of the variables are bound to. -/
theorem Supplies.mem_iff (h : t.Supplies bindings values) (x : String) :
    x ∈ values ↔ ∃ name ∈ t.varNames, bindings.get? name = some x := by
  have heq : t.varNames.map bindings.get? = values.map some := by
    rw [← List.forall₂_eq_eq_eq, varNames, List.map_map, List.forall₂_map_left_iff,
      List.forall₂_map_right_iff]
    exact h
  rw [← List.mem_map_of_injective (Option.some_injective _), ← heq, List.mem_map]

theorem exists_forall₂ {α β : Type} {R : α → β → Prop} {xs : List α} :
    (∃ ys, List.Forall₂ R xs ys) ↔ ∀ x ∈ xs, ∃ y, R x y := by
  induction xs with
  | nil => simp
  | cons x xs ih =>
    rw [List.forall_mem_cons, ← ih]
    constructor
    · rintro ⟨_, hR⟩
      cases hR with
      | cons hx hxs => exact ⟨⟨_, hx⟩, _, hxs⟩
    · rintro ⟨⟨y, hx⟩, ys, hxs⟩
      exact ⟨y :: ys, .cons hx hxs⟩

/-- Bindings that supply values of which something holds have such a value for every variable. -/
theorem supplies_and_iff {P : Variable → String → Prop} :
    (∃ values, t.Supplies bindings values ∧ List.Forall₂ P t.vars values) ↔
      ∀ v ∈ t.vars, ∃ x, bindings.get? v.name = some x ∧ P v x := by
  rw [← exists_forall₂]
  constructor
  · rintro ⟨values, hsupplies, hP⟩
    refine ⟨values, List.forall₂_iff_get.2 ⟨hP.length_eq, fun i h1 h2 => ?_⟩⟩
    exact ⟨hsupplies.get h1 h2, hP.get h1 h2⟩
  · rintro ⟨values, h⟩
    exact ⟨values, h.imp fun v x hx => hx.1, h.imp fun v x hx => hx.2⟩

theorem lookup_zip {names xs : List String} (h : names.Nodup) (hlength : names.length = xs.length) :
    List.Forall₂ (fun n x => (names.zip xs).lookup n = some x) names xs := by
  induction names generalizing xs with
  | nil =>
    rw [List.length_eq_zero_iff.1 hlength.symm]
    exact .nil
  | cons n names ih =>
    cases xs with
    | nil => cases hlength
    | cons x xs =>
      rw [List.nodup_cons] at h
      refine .cons (by simp) ?_
      have hrest := (List.forall₂_and_left _ _).2 ⟨fun m hm => hm, ih h.2 (Nat.succ_injective hlength)⟩
      refine hrest.imp fun m y hm => ?_
      have hne : (m == n) = false := beq_eq_false_iff_ne.2 fun heq => h.1 (heq ▸ hm.1)
      rw [List.zip_cons_cons, List.lookup_cons, hne]
      exact hm.2

/-- The variables of a template, bound to values in order. -/
theorem supplies_zip (hnodup : t.varNames.Nodup) (hlength : t.vars.length = values.length) :
    t.Supplies ⟨t.varNames.zip values⟩ values := by
  have hnames : t.varNames.length = values.length := by rw [varNames, List.length_map, hlength]
  have hzip := lookup_zip hnodup hnames
  rw [varNames, List.forall₂_map_left_iff] at hzip
  exact hzip

/-- Either a variable is missing, or all values are there. -/
theorem missing_or_supplies (t : Template) (bindings : Bindings) :
    (∃ e, t.Missing bindings e) ∨ ∃ values, t.Supplies bindings values := by
  cases h : t.valuesIn bindings with
  | error e => exact Or.inl ⟨e, valuesIn_eq_error.1 h⟩
  | ok values => exact Or.inr ⟨values, valuesIn_eq_ok.1 h⟩

/-! ### Checking the whole, then the single values -/

theorem culprit?_eq_none (h : t.vars.length = values.length) :
    t.culprit? values = none ↔ t.Admits values := by
  rw [culprit?, List.find?_eq_none, Admits, List.forall₂_iff_zip]
  constructor
  · intro hnone
    refine ⟨h, fun {v x} hmem => ?_⟩
    simpa using hnone (v, x) hmem
  · rintro ⟨-, hall⟩ ⟨v, x⟩ hmem
    simpa using hall hmem

theorem culprit?_eq_some {v : Variable} {x : String} : t.culprit? values = some (v, x) ↔
    ∃ before after, t.vars.zip values = before ++ (v, x) :: after ∧
      (∀ p ∈ before, p.1.validator.isMatch p.2 = true) ∧ v.validator.isMatch x = false := by
  rw [culprit?, List.find?_eq_some_iff_append]
  constructor
  · rintro ⟨hfails, before, after, hzip, hbefore⟩
    exact ⟨before, after, hzip, fun p hp => by simpa using hbefore p hp, by simpa using hfails⟩
  · rintro ⟨before, after, hzip, hbefore, hfails⟩
    exact ⟨by simpa using hfails, before, after, hzip, fun p hp => by simpa using hbefore p hp⟩

/-- What is reported of a missing variable. -/
theorem build_of_missing (h : t.Missing bindings e) : t.build bindings = .error e := by
  rw [build, valuesIn_eq_error.2 h]
  rfl

/-- What is built from values that are all there. -/
theorem build_of_supplies (h : t.Supplies bindings values) : t.build bindings =
    if t.regex.isMatch (t.fill values) then .ok (t.fill values)
    else match t.culprit? values with
      | some (v, x) => .error (.invalidRouteVariable v.name x v.validator.source)
      | none => .ok (t.fill values) := by
  rw [build, valuesIn_eq_ok.2 h]
  rfl

/-- **When a text is built**: all values are there, and the template matches it as a whole, or each
validator admits its own value. -/
theorem build_eq_ok : t.build bindings = .ok built ↔
    ∃ values, t.Supplies bindings values ∧ t.fill values = built ∧
      (t.regex.isMatch built = true ∨ t.Admits values) := by
  constructor
  · intro h
    rcases missing_or_supplies t bindings with ⟨e, hmissing⟩ | ⟨values, hsupplies⟩
    · rw [build_of_missing hmissing] at h
      cases h
    rw [build_of_supplies hsupplies] at h
    refine ⟨values, hsupplies, ?_⟩
    split at h
    · rename_i hmatch
      obtain rfl := Except.ok.inj h
      exact ⟨rfl, Or.inl hmatch⟩
    · split at h
      · cases h
      · rename_i hnone
        exact ⟨Except.ok.inj h, Or.inr ((culprit?_eq_none hsupplies.length_eq).1 hnone)⟩
  · rintro ⟨values, hsupplies, rfl, hchecked⟩
    rw [build_of_supplies hsupplies]
    rcases hchecked with hmatch | hadmits
    · rw [if_pos hmatch]
    · rw [(culprit?_eq_none hsupplies.length_eq).2 hadmits]
      simp

/-- **What is reported otherwise**: the first variable that is missing; and if there is none and the
template does not match the whole, the first whose validator does not admit its value. -/
theorem build_eq_error : t.build bindings = .error e ↔ t.Missing bindings e ∨
    ∃ values, t.Supplies bindings values ∧ t.regex.isMatch (t.fill values) = false ∧
      t.Invalid values e := by
  constructor
  · intro h
    rcases missing_or_supplies t bindings with ⟨e', hmissing⟩ | ⟨values, hsupplies⟩
    · rw [build_of_missing hmissing] at h
      cases h
      exact Or.inl hmissing
    rw [build_of_supplies hsupplies] at h
    refine Or.inr ⟨values, hsupplies, ?_⟩
    split at h
    · cases h
    · rename_i hmatch
      split at h
      · rename_i v x hculprit
        cases h
        obtain ⟨before, after, hzip, hbefore, hfails⟩ := culprit?_eq_some.1 hculprit
        exact ⟨by simpa using hmatch, before, v, x, after, hzip, hbefore, hfails, rfl⟩
      · cases h
  · rintro (hmissing | ⟨values, hsupplies, hmatch, before, v, x, after, hzip, hbefore, hfails, rfl⟩)
    · exact build_of_missing hmissing
    · have hculprit := culprit?_eq_some.2 ⟨before, after, hzip, hbefore, hfails⟩
      rw [build_of_supplies hsupplies, hmatch, hculprit]
      rfl

/-! ### Templates that compile -/

/-- The variables of a template are those of its parts in braces, in order, and its segments are its
pieces, whatever the patterns are. -/
theorem declared_of_compile (h : compile text default isPrefix reserved = .ok t)
    (hsplit : Piece.split? text.toList = some pieces) :
    t.segments = segmentsFrom 0 pieces ∧
      List.Forall₂ (fun v body => Declares default (v.name, v.validator) body) t.vars
        (pieces.filterMap Piece.body?) := by
  obtain ⟨pieces', draft, regex, groups, hsplit', hdraft, -, hgroups, rfl⟩ := exists_of_compile h
  rw [hsplit] at hsplit'
  cases hsplit'
  obtain ⟨-, hsegments, ⟨added, hvars, hdeclares⟩, -⟩ := foldlM_add hdraft
  have hvars : draft.vars = added := hvars
  have hlength : groups.length = draft.vars.length := by
    simpa using (mapM_eq_ok.1 hgroups).length_eq.symm
  refine ⟨hsegments, ?_⟩
  rw [← hvars, ← (map_zipWith_vars hlength).1, List.forall₂_map_left_iff] at hdeclares
  exact hdeclares

theorem source_of_compile {source : String} {regex : Regex}
    (h : Regex.compile source = .ok regex) : regex.source = source := by
  unfold Regex.compile at h
  obtain ⟨parsed, -, h⟩ := Regex.of_bind_ok h
  simp only at h
  split at h
  · cases h
    rfl
  · cases h

/-- **What building comes to**, whatever the patterns are. A text is built if and only if every
variable has a value and the template matches the text as a whole or every value is admitted by its
own validator. Otherwise the first variable that is missing is reported, and if none is, the first
whose validator does not admit its value. The validator of a variable is that of its pattern. -/
theorem build_outcome (h : compile text default isPrefix reserved = .ok t)
    (hsplit : Piece.split? text.toList = some pieces) (bindings : Bindings) :
    (∀ built, t.build bindings = .ok built ↔ ∃ values, t.Supplies bindings values ∧
      built.toList = Piece.weave pieces (values.map String.toList) ∧
      ((t.captures? built).isSome = true ∨ t.Admits values)) ∧
    (∀ e, t.build bindings = .error e ↔ t.Missing bindings e ∨
      ∃ values, t.Supplies bindings values ∧ t.captures? (t.fill values) = none ∧
        t.Invalid values e) ∧
    List.Forall₂ (fun v body => v.name = (nameAndPattern default body).1 ∧
      v.validator.source = validatorText (nameAndPattern default body).2) t.vars
        (pieces.filterMap Piece.body?) := by
  obtain ⟨hsegments, hdeclared⟩ := declared_of_compile h hsplit
  have hcaptures (built : String) : (t.captures? built).isSome = t.regex.isMatch built :=
    Regex.captures?_isSome t.regex built
  refine ⟨fun built => ?_, fun e => ?_, ?_⟩
  · rw [build_eq_ok]
    refine exists_congr fun values => and_congr_right fun _ => ?_
    rw [hcaptures, ← toList_fill hsegments, String.toList_inj, eq_comm]
  · rw [build_eq_error]
    refine or_congr_right (exists_congr fun values => and_congr_right fun _ => and_congr_left fun _ => ?_)
    rw [← hcaptures, Option.isSome_eq_false_iff, Option.isNone_iff_eq_none]
  · exact hdeclared.imp fun v body hv => ⟨hv.1, source_of_compile hv.2⟩

/-- **A value that spills** into what a template for prefixes leaves open is built, although its
validator does not admit it. -/
theorem build_of_spilling_value : ∃ t,
    compile "/files/{name}" defaultPathPattern true [] = .ok t ∧
      ¬ ((∃ built, t.build (.ofPairs [("name", "a/b")]) = .ok built) ↔ ∀ v ∈ t.vars, ∃ x,
        (Bindings.ofPairs [("name", "a/b")]).get? v.name = some x ∧
          v.validator.isMatch x = true) := by
  have hok : (compile "/files/{name}" defaultPathPattern true []).toOption.any (fun t =>
      (t.build (.ofPairs [("name", "a/b")])).toOption.isSome &&
        t.vars.any fun v => v.name == "name" && !v.validator.isMatch "a/b") = true := by
    decide +kernel
  obtain ⟨t, ht, hfacts⟩ := exists_ok_of_any hok
  rw [Bool.and_eq_true, List.any_eq_true] at hfacts
  obtain ⟨hbuilt, v, hv, hfails⟩ := hfacts
  rw [Bool.and_eq_true, beq_iff_eq] at hfails
  refine ⟨t, ht, fun hiff => ?_⟩
  have hexists : ∃ built, t.build (.ofPairs [("name", "a/b")]) = .ok built := by
    cases hbuild : t.build (.ofPairs [("name", "a/b")]) with
    | ok built => exact ⟨built, rfl⟩
    | error e =>
      rw [hbuild] at hbuilt
      cases hbuilt
  obtain ⟨x, hx, hmatch⟩ := hiff.1 hexists v hv
  have hvalue : (Bindings.ofPairs [("name", "a/b")]).get? "name" = some "a/b" := by decide
  rw [hfails.1, hvalue] at hx
  obtain rfl := Option.some.inj hx
  simp [hmatch] at hfails

/-- A template for prefixes, asked for a value that its validator does not admit. -/
theorem build_outcome_prefix : ∃ t,
    compile "/files/{name}" defaultPathPattern true [] = .ok t ∧
    Piece.split? "/files/{name}".toList =
      some [.literal "/files/".toList, .braced "name".toList] ∧
    (∀ built, t.build (.ofPairs [("name", "a/b")]) = .ok built ↔ ∃ values,
      t.Supplies (.ofPairs [("name", "a/b")]) values ∧ built.toList =
        Piece.weave [.literal "/files/".toList, .braced "name".toList]
          (values.map String.toList) ∧
      ((t.captures? built).isSome = true ∨ t.Admits values)) ∧
    (∀ e, t.build (.ofPairs [("name", "a/b")]) = .error e ↔
      t.Missing (.ofPairs [("name", "a/b")]) e ∨
      ∃ values, t.Supplies (.ofPairs [("name", "a/b")]) values ∧
        t.captures? (t.fill values) = none ∧ t.Invalid values e) ∧
    List.Forall₂ (fun v body => v.name = (nameAndPattern defaultPathPattern body).1 ∧
      v.validator.source = validatorText (nameAndPattern defaultPathPattern body).2) t.vars
        ["name".toList] := by
  have hok : (compile "/files/{name}" defaultPathPattern true []).toOption.any
      (fun _ => true) = true := by decide +kernel
  obtain ⟨t, ht, -⟩ := exists_ok_of_any hok
  have hsplit : Piece.split? "/files/{name}".toList =
      some [.literal "/files/".toList, .braced "name".toList] := by decide +kernel
  exact ⟨t, ht, hsplit, build_outcome ht hsplit _⟩

/-! ### What is built and what is matched -/

/-- **Values that are admitted one by one** make a text that the template matches, if the patterns
have no assertions. -/
theorem captures_of_admits (hc : Compiled default reserved t pieces parts)
    (hfree : ∀ p ∈ parts.filterMap Part.pattern?, p.assertFree = true) (h : t.Admits values) :
    (t.captures? (t.fill values)).isSome = true :=
  captures_of_decomposes hc hfree
    ⟨List.prefix_rfl, fun _ => rfl, toList_fill hc.segments values, h⟩

/-- **When a template matches all that it builds.** It does so exactly if values that are admitted
one by one always make a text that it matches. This is the case if the patterns of its variables are
expressions on their own without assertions. -/
theorem build_matched_iff (h : compile text default isPrefix reserved = .ok t)
    (hsplit : Piece.split? text.toList = some pieces) :
    ((∀ bindings built, t.build bindings = .ok built → (t.captures? built).isSome = true) ↔
      ∀ values, t.Admits values → (t.captures? (t.fill values)).isSome = true) ∧
    (PatternsSatisfy (fun regex => regex.pattern.assertFree = true) default pieces →
      ∀ bindings built, t.build bindings = .ok built → (t.captures? built).isSome = true) := by
  have hmatched : (∀ values, t.Admits values → (t.captures? (t.fill values)).isSome = true) →
      ∀ bindings built, t.build bindings = .ok built → (t.captures? built).isSome = true := by
    intro hadmits bindings built hbuild
    obtain ⟨values, -, rfl, hmatch | hall⟩ := build_eq_ok.1 hbuild
    · rwa [captures?, Regex.captures?_isSome]
    · exact hadmits values hall
  refine ⟨⟨fun hbuild values hadmits => ?_, hmatched⟩, fun hvalid => ?_⟩
  · -- the values are built from bindings of the variables to them
    have hsupplies := supplies_zip (names_of_compile h).1 hadmits.length_eq
    exact hbuild _ _ (build_eq_ok.2 ⟨values, hsupplies, rfl, Or.inr hadmits⟩)
  · obtain ⟨parts, hc⟩ := compiled_of_compile h hsplit hvalid.valid
    have hfree := assertFree_of_patterns hc.laid hvalid
    exact hmatched fun values hadmits => captures_of_admits hc hfree hadmits

/-- **A value with an anchor of its own** passes its check alone, and the text that is built from it
is not matched. -/
theorem build_of_anchored_value : ∃ t, compile "/{a:^x}" defaultPathPattern false [] = .ok t ∧
    t.build (.ofPairs [("a", "x")]) = .ok "/x" ∧ t.captures? "/x" = none := by
  have hok : (compile "/{a:^x}" defaultPathPattern false []).toOption.any (fun t =>
      (t.build (.ofPairs [("a", "x")])).toOption == some "/x" &&
        (t.captures? "/x").isNone) = true := by
    decide +kernel
  obtain ⟨t, ht, hfacts⟩ := exists_ok_of_any hok
  rw [Bool.and_eq_true, beq_iff_eq, Option.isNone_iff_eq_none] at hfacts
  exact ⟨t, ht, eq_ok_of_toOption hfacts.1, hfacts.2⟩

/-- A template with an alternative in one variable and a group in another matches all it builds. -/
theorem build_matched_iff_alternative : ∃ t,
    compile "/{name:a|b}/{id:(c)+}" defaultPathPattern false [] = .ok t ∧
    ((∀ bindings built, t.build bindings = .ok built → (t.captures? built).isSome = true) ↔
      ∀ values, t.Admits values → (t.captures? (t.fill values)).isSome = true) ∧
    ∀ bindings built, t.build bindings = .ok built → (t.captures? built).isSome = true := by
  have hok : (compile "/{name:a|b}/{id:(c)+}" defaultPathPattern false []).toOption.any
      (fun _ => true) = true := by decide +kernel
  obtain ⟨t, ht, -⟩ := exists_ok_of_any hok
  have hsplit : Piece.split? "/{name:a|b}/{id:(c)+}".toList = some [.literal ['/'],
      .braced "name:a|b".toList, .literal ['/'], .braced "id:(c)+".toList] := by decide +kernel
  have hvalid : PatternsSatisfy (fun regex => regex.pattern.assertFree = true) defaultPathPattern
      [.literal ['/'], .braced "name:a|b".toList, .literal ['/'], .braced "id:(c)+".toList] := by
    intro body hbody
    refine exists_ok_of_any (P := fun regex : Regex => regex.pattern.assertFree) ?_
    rcases List.mem_cons.1 hbody with rfl | hbody
    · decide +kernel
    · rw [List.mem_singleton.1 hbody]
      decide +kernel
  have hmatched := build_matched_iff ht hsplit
  exact ⟨t, ht, hmatched.1, hmatched.2 hvalid⟩

end RequestRouter.Template
