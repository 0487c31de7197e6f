import Mathlib.Tactic
import RequestRouter.Proofs.Template.Building

/-!
# Templates of delimited values

The pattern of a variable without one of its own admits what is not empty and does not contain the
delimiter, which is a dot in hosts and a slash in paths. If every variable is also followed by the
delimiter, or by the end of the template, its value ends where the next delimiter is, so nothing is
left to choose.

Building checks the text as a whole first, which may also be what values make that are not admitted.
That they make no text that is matched is seen by counting: such values would have to contain a
delimiter that admitted values do not.

* `Delimits.isMatch_validator`: **what a variable without a pattern admits.**
* `weave_inj_of_not_mem`: **values without the delimiter are determined by what is woven from them**,
  even among values that may contain it.
* `Plain`: a template of this kind, and what its validators admit.
* `match_build_inverse`: **matching and building are inverse to each other.**
-/

namespace RequestRouter.Template

open Regex

/-- The delimiter of a kind of templates, and the pattern of the variables that have none of their
own: up to the next delimiter. -/
inductive Delimits : Char → String → Prop
  | host : Delimits '.' defaultHostPattern
  | path : Delimits '/' defaultPathPattern

/-- What follows is the delimiter, or nothing. -/
def Piece.stopsAt (delimiter : Char) : List Piece → Bool
  | [] => true
  | .literal (c :: _) :: _ => c == delimiter
  | _ => false

/-- All variables are without a pattern, and each of them is followed by the delimiter or by the end
of the template. -/
def Piece.delimited (delimiter : Char) : List Piece → Bool
  | [] => true
  | .literal _ :: pieces => delimited delimiter pieces
  | .braced body :: pieces =>
    !body.contains ':' && stopsAt delimiter pieces && delimited delimiter pieces

/-- The characters other than a delimiter. -/
def others (delimiter : Char) : CharSet :=
  (CharSet.single delimiter).joined.compl

variable {default : String} {delimiter : Char} {pieces : List Piece} {xs ys : List (List Char)}

theorem Delimits.contains_others (h : Delimits delimiter default) (c : Char) :
    (others delimiter).contains c = true ↔ c ≠ delimiter := by
  have hmeets : (CharSet.single delimiter).joined.meetsAtSurrogates = false := by
    cases h <;> decide +kernel
  have hjoined : (CharSet.single delimiter).joined = CharSet.single delimiter := by
    cases h <;> decide +kernel
  rw [others, CharSet.contains_compl, hmeets, hjoined]
  simp

theorem Delimits.compile (h : Delimits delimiter default) : ∃ regex,
    Regex.compile default = .ok regex ∧
      regex.pattern = .times 1 none true (.one false (others delimiter)) := by
  have hok : (Regex.compile default).toOption.any (fun regex =>
      regex.pattern = .times 1 none true (.one false (others delimiter))) = true := by
    cases h <;> decide +kernel
  obtain ⟨regex, hregex, hpattern⟩ := exists_ok_of_any hok
  exact ⟨regex, hregex, of_decide_eq_true hpattern⟩

/-- **The validator of a variable without a pattern** admits the values that are not empty and do
not contain the delimiter. -/
theorem Delimits.isMatch_validator (h : Delimits delimiter default) {validator : Regex}
    (hvalidator : Regex.compile (validatorText default) = .ok validator) (x : String) :
    validator.isMatch x = true ↔ x ≠ "" ∧ delimiter ∉ x.toList := by
  obtain ⟨regex, hregex, hpattern⟩ := h.compile
  obtain ⟨s, hs, hnode, -⟩ := Parser.finished_of_compile hregex
  have hall : (∀ c ∈ x.toList, (others delimiter).contains c = true) ↔ delimiter ∉ x.toList := by
    simp only [h.contains_others]
    exact ⟨fun h hmem => h _ hmem rfl, fun h c hc heq => h (heq ▸ hc)⟩
  rw [(validator_spec hs hvalidator).2, ← hnode, hpattern, matches_some_of_set, hall, ne_eq, ne_eq,
    String.toList_eq_nil_iff]

/-! ### Weaving -/

/-- How often a character is in a woven text: as often as in the literal text and in the values. -/
theorem count_weave (c : Char) (h : xs.length ≤ (pieces.filterMap Piece.body?).length) :
    (Piece.weave pieces xs).count c = (Piece.weave pieces []).count c + xs.flatten.count c := by
  induction pieces generalizing xs with
  | nil =>
    obtain rfl : xs = [] := List.length_eq_zero_iff.1 (Nat.le_zero.1 h)
    simp
  | cons piece pieces ih =>
    cases piece with
    | literal text => simp only [Piece.weave, List.count_append, ih h, Nat.add_assoc]
    | braced body =>
      cases xs with
      | nil => simp
      | cons x xs =>
        have := ih (Nat.le_of_succ_le_succ h)
        simp only [Piece.weave, List.count_append, List.flatten_cons] at this ⊢
        omega

/-- A character of a woven text is in the literal text or in a value. -/
theorem mem_weave {c : Char} (h : xs.length ≤ (pieces.filterMap Piece.body?).length) :
    c ∈ Piece.weave pieces xs ↔
      (∃ cs, Piece.literal cs ∈ pieces ∧ c ∈ cs) ∨ ∃ x ∈ xs, c ∈ x := by
  induction pieces generalizing xs with
  | nil =>
    obtain rfl : xs = [] := List.length_eq_zero_iff.1 (Nat.le_zero.1 h)
    simp [Piece.weave]
  | cons piece pieces ih =>
    cases piece with
    | literal text =>
      rw [Piece.weave, List.mem_append, ih h, ← or_assoc]
      simp
    | braced body =>
      cases xs with
      | nil =>
        rw [Piece.weave, @ih [] (Nat.zero_le _)]
        simp
      | cons x xs =>
        rw [Piece.weave, List.mem_append, ih (Nat.le_of_succ_le_succ h)]
        simp [or_left_comm]

/-- A text up to the first delimiter, and what follows it, are determined. -/
theorem append_delimiter_inj {x y rest rest' : List Char} (hx : delimiter ∉ x) (hy : delimiter ∉ y)
    (h : x ++ delimiter :: rest = y ++ delimiter :: rest') : x = y ∧ rest = rest' := by
  induction x generalizing y with
  | nil =>
    cases y with
    | nil => exact ⟨rfl, (List.cons.inj h).2⟩
    | cons c y =>
      obtain ⟨rfl, -⟩ := List.cons.inj h
      exact absurd List.mem_cons_self hy
  | cons c x ih =>
    cases y with
    | nil =>
      obtain ⟨rfl, -⟩ := List.cons.inj h
      exact absurd List.mem_cons_self hx
    | cons d y =>
      obtain ⟨rfl, htail⟩ := List.cons.inj h
      obtain ⟨heq, hrest⟩ := ih (fun hmem => hx (List.mem_cons_of_mem _ hmem))
        (fun hmem => hy (List.mem_cons_of_mem _ hmem)) htail
      exact ⟨by rw [heq], hrest⟩

theorem weave_of_stopsAt (h : Piece.stopsAt delimiter pieces = true) : pieces = [] ∨
    ∃ after, ∀ values, Piece.weave pieces values = delimiter :: Piece.weave after values := by
  cases pieces with
  | nil => exact Or.inl rfl
  | cons piece pieces =>
    cases piece with
    | literal text =>
      cases text with
      | nil => cases h
      | cons c text =>
        obtain rfl := beq_iff_eq.1 h
        exact Or.inr ⟨.literal text :: pieces, fun values => rfl⟩
    | braced body => cases h

/-- **The values are determined by what is woven from them**, if they do not contain the
delimiter. -/
theorem weave_inj (hdelimited : Piece.delimited delimiter pieces = true)
    (hlength : xs.length = (pieces.filterMap Piece.body?).length)
    (hlength' : ys.length = (pieces.filterMap Piece.body?).length)
    (hxs : ∀ x ∈ xs, delimiter ∉ x) (hys : ∀ y ∈ ys, delimiter ∉ y)
    (h : Piece.weave pieces xs = Piece.weave pieces ys) : xs = ys := by
  induction pieces generalizing xs ys with
  | nil =>
    rw [List.length_eq_zero_iff.1 hlength, List.length_eq_zero_iff.1 hlength']
  | cons piece pieces ih =>
    cases piece with
    | literal text => exact ih hdelimited hlength hlength' hxs hys (List.append_cancel_left h)
    | braced body =>
      cases xs with
      | nil => cases hlength
      | cons x xs =>
        cases ys with
        | nil => cases hlength'
        | cons y ys =>
          simp only [Piece.delimited, Bool.and_eq_true] at hdelimited
          have hlength := Nat.succ.inj hlength
          have hlength' := Nat.succ.inj hlength'
          rw [List.forall_mem_cons] at hxs hys
          -- both values end at the next delimiter, or where the text ends
          have hrest : x = y ∧ Piece.weave pieces xs = Piece.weave pieces ys := by
            rcases weave_of_stopsAt hdelimited.1.2 with rfl | ⟨after, hafter⟩
            · simpa [Piece.weave] using h
            · rw [Piece.weave, Piece.weave, hafter, hafter] at h
              rw [hafter, hafter, List.cons.injEq, and_iff_right rfl]
              exact append_delimiter_inj hxs.1 hys.1 h
          rw [hrest.1, ih hdelimited.2 hlength hlength' hxs.2 hys.2 hrest.2]

/-- **No other values make a text** that values without the delimiter make: together they would have
to contain it as often. -/
theorem weave_inj_of_not_mem (hdelimited : Piece.delimited delimiter pieces = true)
    (hlength : xs.length = (pieces.filterMap Piece.body?).length)
    (hlength' : ys.length = (pieces.filterMap Piece.body?).length)
    (hys : ∀ y ∈ ys, delimiter ∉ y) (h : Piece.weave pieces xs = Piece.weave pieces ys) :
    xs = ys := by
  -- the literal text has the same delimiters on both sides, so the values have as many: none
  have hzero : ys.flatten.count delimiter = 0 := by
    rw [List.count_eq_zero, List.mem_flatten]
    rintro ⟨y, hy, hmem⟩
    exact hys y hy hmem
  have hcount := count_weave delimiter hlength'.le
  rw [← h, count_weave delimiter hlength.le] at hcount
  have hxs : ∀ x ∈ xs, delimiter ∉ x := by
    intro x hx hmem
    have : 0 < xs.flatten.count delimiter := List.count_pos_iff.2 (List.mem_flatten.2 ⟨x, hx, hmem⟩)
    omega
  exact weave_inj hdelimited hlength hlength' hxs hys h

/-! ### Templates without patterns -/

theorem nameAndPattern_of_not_mem {body : List Char} (h : ':' ∉ body) :
    nameAndPattern default body = (.ofList body, default) := by
  rw [nameAndPattern, Text.splitFirst_of_not_mem h]
  rfl

theorem nameAndPattern_of_delimited (default : String)
    (h : Piece.delimited delimiter pieces = true) : ∀ body ∈ pieces.filterMap Piece.body?,
      nameAndPattern default body = (.ofList body, default) := by
  induction pieces with
  | nil => simp
  | cons piece pieces ih =>
    cases piece with
    | literal text => exact ih h
    | braced body =>
      simp only [Piece.delimited, Bool.and_eq_true, Bool.not_eq_true', List.contains_eq_mem,
        decide_eq_false_iff_not] at h
      exact List.forall_mem_cons.2 ⟨nameAndPattern_of_not_mem h.1.1, ih h.2⟩

/-- **A template of delimited values**: it is laid out as its pieces say, and its validators admit the
values that are not empty and do not contain the delimiter. -/
structure Plain (delimiter : Char) (default : String) (reserved : List String) (t : Template)
    (pieces : List Piece) (parts : List Part) : Prop where
  compiled : Compiled default reserved t pieces parts
  free : ∀ p ∈ parts.filterMap Part.pattern?, p.assertFree = true
  whole : t.isPrefix = false
  delimited : Piece.delimited delimiter pieces = true
  admits : ∀ v ∈ t.vars, ∀ x : String,
    v.validator.isMatch x = true ↔ x ≠ "" ∧ delimiter ∉ x.toList

variable {isPrefix : Bool} {reserved : List String} {text built input : String} {t : Template}
  {parts : List Part} {bindings : Bindings} {values : List String}

theorem plain_of_compile (hkind : Delimits delimiter default)
    (h : compile text default false reserved = .ok t)
    (hsplit : Piece.split? text.toList = some pieces)
    (hdelimited : Piece.delimited delimiter pieces = true) :
    ∃ parts, Plain delimiter default reserved t pieces parts := by
  have hbodies := nameAndPattern_of_delimited default hdelimited
  obtain ⟨regex, hregex, hpattern⟩ := hkind.compile
  have hvalid : PatternsSatisfy (fun regex => regex.pattern.assertFree = true) default pieces := by
    intro body hbody
    rw [hbodies body hbody]
    refine ⟨regex, hregex, ?_⟩
    simp only [hpattern]
    rfl
  obtain ⟨parts, hc⟩ := compiled_of_compile h hsplit hvalid.valid
  refine ⟨parts, hc, assertFree_of_patterns hc.laid hvalid, isPrefix_of_compile h, hdelimited, ?_⟩
  -- the validator of every variable is that of the default pattern
  intro v hv x
  obtain ⟨i, hi, rfl⟩ := List.getElem_of_mem hv
  have hdeclared := (declared_of_compile h hsplit).2
  have hlt : i < (pieces.filterMap Piece.body?).length := hdeclared.length_eq ▸ hi
  obtain ⟨-, hvalidator⟩ := hdeclared.get hi hlt
  rw [List.get_eq_getElem, hbodies _ (List.getElem_mem hlt)] at hvalidator
  exact hkind.isMatch_validator hvalidator x

namespace Plain

variable (hp : Plain delimiter default reserved t pieces parts)
include hp

theorem length_vars : t.vars.length = (pieces.filterMap Piece.body?).length := by
  have := congrArg List.length hp.compiled.names
  simpa [varNames] using this

/-- **The values of a text** are those that are extracted from it, if they are admitted. -/
theorem values_eq {values' : List String} (hadmits : t.Admits values)
    (hlength : t.vars.length = values'.length)
    (h : Piece.weave pieces (values'.map String.toList) =
      Piece.weave pieces (values.map String.toList)) :
    values' = values := by
  refine List.map_injective_iff.2 (fun _ _ => String.toList_inj.1) ?_
  refine weave_inj_of_not_mem hp.delimited ?_ ?_ ?_ h
  · rw [List.length_map, ← hlength, hp.length_vars]
  · rw [List.length_map, ← hadmits.length_eq, hp.length_vars]
  · intro y hy
    obtain ⟨x, hx, rfl⟩ := List.mem_map.1 hy
    obtain ⟨i, hi, rfl⟩ := List.getElem_of_mem hx
    have hlt : i < t.vars.length := hadmits.length_eq ▸ hi
    exact ((hp.admits _ (List.getElem_mem hlt) _).1 (hadmits.get hlt hi)).2

/-- What is matched is woven from admitted values, which are extracted. -/
theorem of_captures {caps : Captures} (h : t.captures? input = some caps) : ∃ values,
    t.Admits values ∧ Piece.weave pieces (values.map String.toList) = input.toList ∧
      t.matchVars? input = some ⟨t.varNames.zip values⟩ := by
  obtain ⟨part, values, ⟨entries⟩, ⟨-, hwhole, hwoven, hadmits⟩, -, hvars, rfl⟩ :=
    values_of_captures hp.compiled hp.free h
  exact ⟨values, hadmits, by rw [← hwoven, hwhole hp.whole], hvars⟩

/-- **A text is built** exactly from values that are admitted one by one. -/
theorem build_eq_ok : t.build bindings = .ok built ↔ ∃ values, t.Supplies bindings values ∧
    t.fill values = built ∧ t.Admits values := by
  rw [Template.build_eq_ok]
  constructor
  · rintro ⟨values, hsupplies, hfill, hmatch | hadmits⟩
    · rw [← Regex.captures?_isSome] at hmatch
      obtain ⟨caps, hcaps⟩ := Option.isSome_iff_exists.1 hmatch
      obtain ⟨values', hadmits, hweave, -⟩ := hp.of_captures hcaps
      -- the values that were matched are those that were filled in
      rw [← hfill, toList_fill hp.compiled.segments] at hweave
      obtain rfl := hp.values_eq hadmits hsupplies.length_eq hweave.symm
      exact ⟨values, hsupplies, hfill, hadmits⟩
    · exact ⟨values, hsupplies, hfill, hadmits⟩
  · rintro ⟨values, hsupplies, hfill, hadmits⟩
    exact ⟨values, hsupplies, hfill, Or.inr hadmits⟩

/-- **What was built gives its values back.** -/
theorem matchVars?_of_build (h : t.build bindings = .ok built) :
    t.matchVars? built = some (bindings.restrict t.varNames) := by
  obtain ⟨values, hsupplies, rfl, hadmits⟩ := hp.build_eq_ok.1 h
  have hsome := captures_of_admits hp.compiled hp.free hadmits
  obtain ⟨caps, hcaps⟩ := Option.isSome_iff_exists.1 hsome
  obtain ⟨values', hadmits', hweave, hvars⟩ := hp.of_captures hcaps
  rw [toList_fill hp.compiled.segments] at hweave
  -- another way to cut the text would give other values that make it
  obtain rfl := hp.values_eq hadmits hadmits'.length_eq hweave
  rw [hvars, Bindings.restrict, varNames, List.filterMap_map]
  exact congrArg _ (congrArg _ (filterMap_eq_zip hsupplies).symm)

/-- **What was matched is built again** from its values. -/
theorem build_of_matchVars? {vars : Vars} (h : t.matchVars? input = some vars) :
    t.build vars = .ok input := by
  obtain ⟨caps, hcaps, -⟩ := Option.map_eq_some_iff.1 h
  refine build_of_captures hp.compiled hcaps hp.whole fun v hv x hx => ?_
  rw [h] at hx
  exact hx

end Plain

theorem weave_of_no_variable (h : pieces.filterMap Piece.body? = []) :
    Piece.weave pieces xs = pieces.flatMap Piece.text := by
  induction pieces with
  | nil => rfl
  | cons piece pieces ih =>
    cases piece with
    | literal text => rw [Piece.weave, ih h, List.flatMap_cons, Piece.text]
    | braced body => cases h

/-- A template without variables builds its own text. -/
theorem build_of_no_variable (h : compile text default isPrefix reserved = .ok t)
    (hvars : t.vars = []) (bindings : Bindings) : t.build bindings = .ok text := by
  obtain ⟨pieces, -, -, -, hsplit, -⟩ := exists_of_compile h
  obtain ⟨hsegments, hdeclared⟩ := declared_of_compile h hsplit
  rw [hvars, List.forall₂_nil_left_iff] at hdeclared
  refine build_eq_ok.2 ⟨[], by rw [Supplies, hvars]; exact .nil, ?_, Or.inr ?_⟩
  · rw [← String.toList_inj, toList_fill hsegments, weave_of_no_variable hdeclared,
      Piece.flatMap_text_of_split? hsplit]
  · rw [Admits, hvars]
    exact .nil

/-- **Matching and building are inverse to each other** for templates whose variables have no
patterns and are each followed by the delimiter or by the end of the template. A text is built exactly
if every variable has a value that is not empty and does not contain the delimiter, and is then
matched with these values alone; and what is matched is built again from the values extracted. So a
template without variables matches its own text alone, and builds it. -/
theorem match_build_inverse (hkind : Delimits delimiter default)
    (h : compile text default false reserved = .ok t)
    (hsplit : Piece.split? text.toList = some pieces)
    (hdelimited : Piece.delimited delimiter pieces = true) :
    t.varNames = (pieces.filterMap Piece.body?).map String.ofList ∧
    (∀ bindings, (∃ built, t.build bindings = .ok built) ↔ ∀ name ∈ t.varNames, ∃ value,
      bindings.get? name = some value ∧ value ≠ "" ∧ delimiter ∉ value.toList) ∧
    (∀ bindings built, t.build bindings = .ok built →
      t.matchVars? built = some (bindings.restrict t.varNames)) ∧
    (∀ input vars, t.matchVars? input = some vars → t.build vars = .ok input) ∧
    (t.vars = [] → (∀ input, (t.matchVars? input).isSome = true ↔ input = text) ∧
      ∀ bindings, t.build bindings = .ok text) := by
  obtain ⟨parts, hp⟩ := plain_of_compile hkind h hsplit hdelimited
  refine ⟨?_, fun bindings => ?_, fun bindings built => hp.matchVars?_of_build,
    fun input vars => hp.build_of_matchVars?, fun hvars => ?_⟩
  · rw [hp.compiled.names]
    refine List.map_congr_left fun body hbody => ?_
    rw [nameAndPattern_of_delimited default hdelimited body hbody]
  · have hadmitted : (∃ built, t.build bindings = .ok built) ↔
        ∃ values, t.Supplies bindings values ∧ t.Admits values := by
      simp only [hp.build_eq_ok]
      exact ⟨fun ⟨_, values, h⟩ => ⟨values, h.1, h.2.2⟩, fun ⟨values, h⟩ => ⟨_, values, h.1, rfl, h.2⟩⟩
    unfold Admits at hadmitted
    rw [hadmitted, supplies_and_iff, varNames, List.forall_mem_map]
    refine forall₂_congr fun v hv => exists_congr fun x => and_congr_right fun _ => hp.admits v hv x
  · have hbuild := build_of_no_variable h hvars
    refine ⟨fun input => ⟨fun hsome => ?_, ?_⟩, hbuild⟩
    · obtain ⟨vars, hmatch⟩ := Option.isSome_iff_exists.1 hsome
      have := hp.build_of_matchVars? hmatch
      rw [hbuild] at this
      exact (Except.ok.inj this).symm
    · rintro rfl
      rw [hp.matchVars?_of_build (hbuild .empty)]
      rfl

/-- A path with characters that mean something in patterns, and with two variables. -/
theorem match_build_inverse_dotted : ∃ t,
    compile "/a.b+c/{x}/{y}" defaultPathPattern false [] = .ok t ∧ t.varNames = ["x", "y"] ∧
    (∀ bindings, (∃ built, t.build bindings = .ok built) ↔ ∀ name ∈ t.varNames, ∃ value,
      bindings.get? name = some value ∧ value ≠ "" ∧ '/' ∉ value.toList) ∧
    (∀ bindings built, t.build bindings = .ok built →
      t.matchVars? built = some (bindings.restrict t.varNames)) ∧
    (∀ input vars, t.matchVars? input = some vars → t.build vars = .ok input) := by
  have hok : (compile "/a.b+c/{x}/{y}" defaultPathPattern false []).toOption.any
      (fun _ => true) = true := by decide +kernel
  obtain ⟨t, ht, -⟩ := exists_ok_of_any hok
  have hsplit : Piece.split? "/a.b+c/{x}/{y}".toList = some [.literal "/a.b+c/".toList,
      .braced ['x'], .literal ['/'], .braced ['y']] := by decide +kernel
  have hdelimited : Piece.delimited '/' [.literal "/a.b+c/".toList, .braced ['x'], .literal ['/'],
      .braced ['y']] = true := by decide
  obtain ⟨hnames, hbuilt, hmatched, hrebuilt, -⟩ :=
    match_build_inverse .path ht hsplit hdelimited
  exact ⟨t, ht, hnames, hbuilt, hmatched, hrebuilt⟩

end RequestRouter.Template
