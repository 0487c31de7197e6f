import Mathlib.Tactic
import RequestRouter.Proofs.Template.Reading

/-!
# What a compiled template is

A template that compiles and whose variables have patterns that can be read on their own is its
pieces, laid out as parts of one sequence. All that is said of what it matches and gives rests on
this.

* `foldlM_add`: the draft of a template, piece by piece.
* `groupNamesOf_eq_iff`, `findGroup_eq`: the group of a variable is found by its name.
* `Compiled`, `compiled_of_read`: **a template is laid out as its pieces say.**
-/

namespace RequestRouter.Template

open Regex Regex.Parser

/-- What is between the braces of a piece. -/
def Piece.body? : Piece → Option (List Char)
  | literal _ => none
  | braced body => some body

/-- The segments of a template, when `n` variables are before its pieces. -/
def segmentsFrom : Nat → List Piece → List Segment
  | _, [] => []
  | n, .literal text :: pieces => .literal (.ofList text) :: segmentsFrom n pieces
  | n, .braced _ :: pieces => .placeholder n :: segmentsFrom (n + 1) pieces

variable {default template : String} {reserved : List String} {pieces : List Piece}
  {draft next : Draft}

theorem compile_of_compileRegex {source : String} {regex : Regex}
    (h : compileRegex template source = .ok regex) : Regex.compile source = .ok regex := by
  unfold compileRegex at h
  split at h
  · rename_i heq
    cases h
    exact heq
  · cases h

/-- **A part in braces** adds a group, a placeholder and a variable to a draft, unless it fails a check. -/
theorem add_eq (template default : String) (reserved : List String) (draft : Draft) (body : List Char) :
    Draft.add template default reserved draft (.braced body) =
      if (nameAndPattern default body).1 = "" ∨ (nameAndPattern default body).2 = "" then
        .error (.badTemplatePart (.ofList (Piece.braced body).text))
      else if (nameAndPattern default body).1 ∈ reserved ++ draft.vars.map (·.1) then
        .error (.duplicateVariable (nameAndPattern default body).1)
      else (compileRegex template (validatorText (nameAndPattern default body).2)).map fun validator =>
        ⟨draft.pattern ++ groupText draft.vars.length (nameAndPattern default body).2,
          draft.segments ++ [.placeholder draft.vars.length],
          draft.vars ++ [((nameAndPattern default body).1, validator)]⟩ := by
  unfold Draft.add
  simp only [Bool.or_eq_true, String.isEmpty_iff, List.contains_iff_mem, List.mem_append]
  cases compileRegex template (validatorText (nameAndPattern default body).2) <;> rfl

/-- What a variable adds to a draft. -/
theorem add_braced {body : List Char}
    (h : Draft.add template default reserved draft (.braced body) = .ok next) :
    ∃ validator, Regex.compile (validatorText (nameAndPattern default body).2) = .ok validator ∧
      (nameAndPattern default body).1 ∉ reserved ∧
      (nameAndPattern default body).1 ∉ draft.vars.map (·.1) ∧
      next = ⟨draft.pattern ++ groupText draft.vars.length (nameAndPattern default body).2,
        draft.segments ++ [.placeholder draft.vars.length],
        draft.vars ++ [((nameAndPattern default body).1, validator)]⟩ := by
  rw [add_eq] at h
  split at h
  · cases h
  split at h
  · cases h
  rename_i hfree
  rw [List.mem_append, not_or] at hfree
  cases hv : compileRegex template (validatorText (nameAndPattern default body).2) with
  | error e =>
    rw [hv] at h
    cases h
  | ok validator =>
    rw [hv] at h
    cases h
    exact ⟨validator, compile_of_compileRegex hv, hfree.1, hfree.2, rfl⟩

/-- A variable of a draft is that of a part in braces. -/
def Declares (default : String) (v : String × Regex) (body : List Char) : Prop :=
  v.1 = (nameAndPattern default body).1 ∧
    Regex.compile (validatorText (nameAndPattern default body).2) = .ok v.2

theorem map_eq_map {α β γ : Type} {f : α → γ} {g : β → γ} {xs : List α} {ys : List β}
    (h : List.Forall₂ (fun x y => f x = g y) xs ys) : xs.map f = ys.map g := by
  induction h with
  | nil => rfl
  | cons hhead _ ih => rw [List.map_cons, List.map_cons, hhead, ih]

theorem names_of_declares {vars : List (String × Regex)} {bodies : List (List Char)}
    (h : List.Forall₂ (Declares default) vars bodies) :
    vars.map (·.1) = bodies.map fun body => (nameAndPattern default body).1 :=
  map_eq_map (h.imp fun _ _ hv => hv.1)

/-- **The draft of a template**, from any point on. -/
theorem foldlM_add (h : pieces.foldlM (Draft.add template default reserved) draft = .ok next) :
    next.pattern.toList =
        draft.pattern.toList ++ expressionText default draft.vars.length pieces ∧
      next.segments = draft.segments ++ segmentsFrom draft.vars.length pieces ∧
      (∃ added, next.vars = draft.vars ++ added ∧
        List.Forall₂ (Declares default) added (pieces.filterMap Piece.body?)) ∧
      ((draft.vars.map (·.1)).Nodup → (∀ v ∈ draft.vars, v.1 ∉ reserved) →
        (next.vars.map (·.1)).Nodup ∧ ∀ v ∈ next.vars, v.1 ∉ reserved) := by
  induction pieces generalizing draft with
  | nil =>
    cases h
    exact ⟨by simp [expressionText], by simp [segmentsFrom], ⟨[], by simp, .nil⟩,
      fun hnodup hfree => ⟨hnodup, hfree⟩⟩
  | cons piece pieces ih =>
    rw [List.foldlM_cons] at h
    obtain ⟨mid, hadd, h⟩ := of_bind_ok h
    obtain ⟨htext, hsegments, ⟨added, hvars, hdeclares⟩, hnames⟩ := ih h
    cases piece with
    | literal text =>
      cases hadd
      refine ⟨?_, ?_, ⟨added, hvars, hdeclares⟩, hnames⟩
      · simp [htext, expressionText, Regex.escape]
      · simp [hsegments, segmentsFrom]
    | braced body =>
      obtain ⟨validator, hvalidator, hreserved, hnew, rfl⟩ := add_braced hadd
      refine ⟨?_, ?_, ⟨_ :: added, by rw [hvars, List.append_assoc]; rfl,
        .cons ⟨rfl, hvalidator⟩ hdeclares⟩, fun hnodup hfree => hnames ?_ ?_⟩
      · simp [htext, expressionText]
      · simp [hsegments, segmentsFrom]
      · rw [List.map_append]
        refine List.nodup_append.2 ⟨hnodup, List.nodup_singleton _, fun x hx y hy hxy => ?_⟩
        rw [List.map_singleton, List.mem_singleton] at hy
        exact hnew (hy ▸ hxy ▸ hx)
      · intro v hv
        rcases List.mem_append.1 hv with hv | hv
        · exact hfree v hv
        · rw [List.mem_singleton.1 hv]
          exact hreserved

/-! ### The groups of the variables -/

theorem lt_groupCount {p : Pattern} {g : Nat} (h : g ∈ p.groups) : g < p.groupCount := by
  have hfold : ∀ (gs : List Nat) (n : Nat), n ≤ gs.foldl Nat.max n ∧
      ∀ g ∈ gs, g ≤ gs.foldl Nat.max n := by
    intro gs
    induction gs with
    | nil => exact fun n => ⟨le_rfl, fun g hg => by cases hg⟩
    | cons g' gs ih =>
      intro n
      obtain ⟨h1, h2⟩ := ih (Nat.max n g')
      rw [List.foldl_cons]
      refine ⟨le_trans (Nat.le_max_left n g') h1, fun g hg => ?_⟩
      rcases List.mem_cons.1 hg with rfl | hg
      · exact le_trans (Nat.le_max_right n g) h1
      · exact h2 g hg
  exact Nat.lt_succ_of_le ((hfold p.groups 0).2 g h)

theorem nameOf_eq_some {names : List (String × Nat)} {name : String} {g : Nat}
    (h : nameOf names g = some name) : (name, g) ∈ names := by
  obtain ⟨e, he, rfl⟩ := Option.map_eq_some_iff.1 h
  have hg := List.find?_some he
  simp only [decide_eq_true_eq] at hg
  exact hg ▸ List.mem_of_find?_eq_some he

theorem nameOf_of_mem {names : List (String × Nat)} {name : String} {g : Nat}
    (hnodup : (names.map (·.2)).Nodup) (h : (name, g) ∈ names) : nameOf names g = some name := by
  cases hfound : names.find? (·.2 = g) with
  | none => exact absurd (List.find?_eq_none.1 hfound _ h) (by simp)
  | some e =>
    have hg := List.find?_some hfound
    simp only [decide_eq_true_eq] at hg
    have he := List.inj_on_of_nodup_map hnodup (List.mem_of_find?_eq_some hfound) h hg
    rw [nameOf, hfound, he]
    rfl

/-- A group that has a name is one of the pattern. -/
theorem of_groupNamesOf {p : Pattern} {names : List (String × Nat)} {name : String} {g : Nat}
    (h : (groupNamesOf p names)[g]? = some (some name)) : g ∈ p.groups ∧ (name, g) ∈ names := by
  rw [groupNamesOf, List.getElem?_map, Option.map_eq_some_iff] at h
  obtain ⟨j, hj, hnamed⟩ := h
  obtain ⟨hlt, hj⟩ := List.getElem?_eq_some_iff.1 hj
  rw [List.getElem_range] at hj
  subst hj
  split at hnamed
  · rename_i hgroup
    exact ⟨List.contains_iff_mem.1 hgroup, nameOf_eq_some hnamed⟩
  · cases hnamed

/-- **A name is that of one group only**, if the indices and names are in order. -/
theorem groupNamesOf_eq_iff {r : Parser} {name : String} {g k : Nat} (hr : r.Numbered)
    (hname : (name, g) ∈ r.names) (hgroup : g ∈ r.node.pattern.groups) :
    (groupNamesOf r.node.pattern r.names)[k]? = some (some name) ↔ k = g := by
  constructor
  · intro h
    -- a group of the same name would be the same one
    have hmem := (of_groupNamesOf h).2
    exact (Prod.mk.inj (List.inj_on_of_nodup_map hr.names_nodup hmem hname rfl)).2
  · rintro rfl
    rw [groupNamesOf, List.getElem?_map, List.getElem?_range (lt_groupCount hgroup), Option.map_some,
      if_pos (List.contains_iff_mem.2 hgroup), nameOf_of_mem hr.indices_nodup hname]

/-- **The group of a variable** is the one that has its name: no other group has it. -/
theorem findGroup_eq {regex : Regex} {r : Parser} {i g : Nat} (hr : r.Numbered)
    (hnames : regex.groupNames = groupNamesOf r.node.pattern r.names)
    (hname : (groupName i, g) ∈ r.names) (hgroup : g ∈ r.node.pattern.groups) :
    findGroup template regex i = .ok g := by
  have hnamed : ∀ k, regex.groupNames[k]? = some (some (groupName i)) ↔ k = g := fun k => by
    rw [hnames, groupNamesOf_eq_iff hr hname hgroup]
  have hfind : regex.groupNames.findIdx? (· == some (groupName i)) = some g := by
    obtain ⟨hlt, hat⟩ := List.getElem?_eq_some_iff.1 ((hnamed g).2 rfl)
    refine List.findIdx?_eq_some_iff_getElem.2 ⟨hlt, beq_iff_eq.2 hat, fun j hj hj' => ?_⟩
    have := (hnamed j).1 (List.getElem?_eq_some_iff.2 ⟨hj.trans hlt, beq_iff_eq.1 hj'⟩)
    omega
  unfold findGroup
  rw [hfind]

/-- A list is mapped exactly if each of its members is. -/
theorem mapM_eq_ok {α β ε : Type} {f : α → Except ε β} {xs : List α} {ys : List β} :
    xs.mapM f = .ok ys ↔ List.Forall₂ (fun x y => f x = .ok y) xs ys := by
  constructor
  · intro h
    induction xs generalizing ys with
    | nil =>
      cases h
      exact .nil
    | cons x xs ih =>
      rw [List.mapM_cons] at h
      obtain ⟨y, hx, h⟩ := of_bind_ok h
      obtain ⟨ys', hxs, h⟩ := of_bind_ok h
      cases h
      exact .cons hx (ih hxs)
  · intro h
    induction h with
    | nil => rfl
    | cons hx _ ih =>
      rw [List.mapM_cons, hx, ih]
      rfl

/-- The variables of a template, without and with their groups. -/
theorem map_zipWith_vars {vars : List (String × Regex)} {groups : List Nat}
    (h : groups.length = vars.length) :
    (vars.zipWith (fun v group => (⟨v.1, v.2, group⟩ : Variable)) groups).map
        (fun v => (v.name, v.validator)) = vars ∧
      (vars.zipWith (fun v group => (⟨v.1, v.2, group⟩ : Variable)) groups).map (·.group) =
        groups := by
  induction vars generalizing groups with
  | nil =>
    rw [List.length_eq_zero_iff.1 h]
    exact ⟨rfl, rfl⟩
  | cons v vars ih =>
    cases groups with
    | nil => cases h
    | cons g groups =>
      obtain ⟨h1, h2⟩ := ih (Nat.succ_injective h)
      rw [List.zipWith_cons_cons, List.map_cons, List.map_cons, h1, h2]
      exact ⟨rfl, rfl⟩

theorem varNames_zipWith {vars : List (String × Regex)} {groups : List Nat}
    (h : groups.length = vars.length) :
    (vars.zipWith (fun v group => (⟨v.1, v.2, group⟩ : Variable)) groups).map (·.name) =
      vars.map (·.1) := by
  rw [← (map_zipWith_vars h).1, List.map_map, (map_zipWith_vars h).1]
  rfl

/-- How a template is compiled whose pieces are known. -/
theorem compile_of_split? {text : String} {isPrefix : Bool}
    (hsplit : Piece.split? text.toList = some pieces) :
    compile text default isPrefix reserved = (do
      let draft ← pieces.foldlM (Draft.add text default reserved) .start
      let regex ← compileRegex text (if isPrefix then draft.pattern else draft.pattern ++ "$")
      let groups ← (List.range draft.vars.length).mapM (findGroup text regex)
      return {
        text
        regex
        segments := draft.segments
        vars := draft.vars.zipWith (fun v group => ⟨v.1, v.2, group⟩) groups
        isPrefix }) := by
  unfold compile
  rw [hsplit]
  rfl

/-- What a template that compiles was compiled from, step by step. -/
theorem exists_of_compile {text : String} {isPrefix : Bool} {t : Template}
    (h : compile text default isPrefix reserved = .ok t) :
    ∃ pieces draft regex groups, Piece.split? text.toList = some pieces ∧
      pieces.foldlM (Draft.add text default reserved) .start = .ok draft ∧
      compileRegex text (if isPrefix then draft.pattern else draft.pattern ++ "$") = .ok regex ∧
      (List.range draft.vars.length).mapM (findGroup text regex) = .ok groups ∧
      t = ⟨text, regex, draft.segments,
        draft.vars.zipWith (fun v group => ⟨v.1, v.2, group⟩) groups, isPrefix⟩ := by
  cases hsplit : Piece.split? text.toList with
  | none =>
    unfold compile at h
    rw [hsplit] at h
    cases h
  | some pieces =>
    rw [compile_of_split? hsplit] at h
    obtain ⟨draft, hdraft, h⟩ := of_bind_ok h
    obtain ⟨regex, hregex, h⟩ := of_bind_ok h
    obtain ⟨groups, hgroups, h⟩ := of_bind_ok h
    exact ⟨pieces, draft, regex, groups, rfl, hdraft, hregex, hgroups, (Except.ok.inj h).symm⟩

theorem text_of_compile {text : String} {isPrefix : Bool} {t : Template}
    (h : compile text default isPrefix reserved = .ok t) : t.text = text := by
  obtain ⟨pieces, draft, regex, groups, -, -, -, -, rfl⟩ := exists_of_compile h
  rfl

theorem isPrefix_of_compile {text : String} {isPrefix : Bool} {t : Template}
    (h : compile text default isPrefix reserved = .ok t) : t.isPrefix = isPrefix := by
  obtain ⟨pieces, draft, regex, groups, -, -, -, -, rfl⟩ := exists_of_compile h
  rfl

/-- **The names of a template** are different from each other and from those that are reserved,
whatever the patterns are. -/
theorem names_of_compile {text : String} {isPrefix : Bool} {t : Template}
    (h : compile text default isPrefix reserved = .ok t) :
    t.varNames.Nodup ∧ ∀ name ∈ t.varNames, name ∉ reserved := by
  obtain ⟨pieces, draft, regex, groups, -, hdraft, -, hgroups, rfl⟩ := exists_of_compile h
  obtain ⟨-, -, -, hnames⟩ := foldlM_add hdraft
  obtain ⟨hnodup, hfree⟩ := hnames List.nodup_nil fun v hv => by cases hv
  have hlength : groups.length = draft.vars.length := by
    simpa using (mapM_eq_ok.1 hgroups).length_eq.symm
  have hnames : varNames ⟨text, regex, draft.segments, draft.vars.zipWith (fun v group =>
      (⟨v.1, v.2, group⟩ : Variable)) groups, isPrefix⟩ = draft.vars.map (·.1) :=
    varNames_zipWith hlength
  rw [hnames]
  refine ⟨hnodup, fun name hname => ?_⟩
  obtain ⟨v, hv, rfl⟩ := List.mem_map.1 hname
  exact hfree v hv

/-! ### Whole templates -/

/-- The pattern of a part that is a variable. -/
def Part.pattern? : Part → Option Pattern
  | literal _ => none
  | group _ pattern => some pattern

theorem length_index? (parts : List Part) :
    (parts.filterMap Part.index?).length = (parts.filterMap Part.pattern?).length := by
  induction parts with
  | nil => rfl
  | cons part parts ih =>
    cases part with
    | literal text => exact ih
    | group index pattern => exact congrArg Nat.succ ih

/-- Every variable of a template has a pattern that is an expression on its own, and of which `P`
holds. -/
def PatternsSatisfy (P : Regex → Prop) (default : String) (pieces : List Piece) : Prop :=
  ∀ body ∈ pieces.filterMap Piece.body?,
    ∃ regex, Regex.compile (nameAndPattern default body).2 = .ok regex ∧ P regex

theorem PatternsSatisfy.valid {P : Regex → Prop} {default : String} {pieces : List Piece}
    (h : PatternsSatisfy P default pieces) : PatternsSatisfy (fun _ => True) default pieces :=
  fun body hbody => (h body hbody).imp fun _ hregex => ⟨hregex.1, trivial⟩

/-- Every variable of a template has a pattern that can be read on its own. -/
def PatternsRead (default : String) (pieces : List Piece) : Prop :=
  ∀ body ∈ pieces.filterMap Piece.body?, ∃ s, Finished (nameAndPattern default body).2.toList s

theorem PatternsSatisfy.read {P : Regex → Prop} {default : String} {pieces : List Piece}
    (h : PatternsSatisfy P default pieces) : PatternsRead default pieces := by
  intro body hbody
  obtain ⟨regex, hregex, -⟩ := h body hbody
  obtain ⟨s, hs, -⟩ := finished_of_compile hregex
  exact ⟨s, hs⟩

/-- **A template is laid out as its pieces say.** -/
structure Compiled (default : String) (reserved : List String) (t : Template)
    (pieces : List Piece) (parts : List Part) : Prop where
  laid : Laid default 1 pieces parts
  matches_iff : ∀ {text : Array Char} {i k : Nat} {s : Slots}, i ≤ text.size →
    (t.regex.pattern.Matches text i k s ↔ i = 0 ∧
      Pattern.MatchesAll text (parts.flatMap Part.patterns) 0 k s ∧
        (t.isPrefix = false → text.size ≤ k))
  segments : t.segments = segmentsFrom 0 pieces
  groups : t.vars.map (·.group) = parts.filterMap Part.index?
  names_length : ∀ g ∈ 0 :: parts.filterMap Part.index?, g < t.regex.groupNames.length
  validators : List.Forall₂ (fun v p => ∀ x : String, v.validator.isMatch x = true ↔
    ∃ s, p.Matches x.toList.toArray 0 x.toList.length s) t.vars (parts.filterMap Part.pattern?)
  names : t.varNames = (pieces.filterMap Piece.body?).map fun body => (nameAndPattern default body).1
  names_nodup : t.varNames.Nodup
  names_free : ∀ name ∈ t.varNames, name ∉ reserved

theorem laid_of_patterns {added : List (String × Regex)}
    (hread : PatternsRead default pieces)
    (hadded : List.Forall₂ (Declares default) added (pieces.filterMap Piece.body?)) (g : Nat) :
    ∃ parts, Laid default g pieces parts ∧
      List.Forall₂ (fun v p => ∀ x : String, v.2.isMatch x = true ↔
        ∃ s, p.Matches x.toList.toArray 0 x.toList.length s) added
        (parts.filterMap Part.pattern?) := by
  induction pieces generalizing g added with
  | nil =>
    cases hadded
    exact ⟨[], .nil, .nil⟩
  | cons piece pieces ih =>
    cases piece with
    | literal text =>
      obtain ⟨parts, hlaid, hparts⟩ := ih hread hadded g
      exact ⟨.literal text :: parts, .literal hlaid, hparts⟩
    | braced body =>
      cases hadded with
      | cons hv hadded =>
        obtain ⟨s, hs⟩ := hread body List.mem_cons_self
        obtain ⟨hcloses, hmatch⟩ := validator_spec hs hv.2
        obtain ⟨parts, hlaid, hparts⟩ := ih
          (fun body hbody => hread body (List.mem_cons_of_mem _ hbody)) hadded (s.groups + g)
        exact ⟨.group g s.node.pattern :: parts, .braced hs hcloses hlaid, .cons hmatch hparts⟩

/-- The anchor at the end of a template, unless it is one for prefixes. -/
def endAnchor (isPrefix : Bool) : List Pattern :=
  if isPrefix then [] else [.assert .textEnd]

/-- The parser at the end of the whole expression of a template. -/
theorem read_expression {source : String} {isPrefix : Bool} {regex : Regex} {parts : List Part}
    (hlaid : Laid default 1 pieces parts)
    (htext : source.toList =
      '^' :: (expressionText default 0 pieces ++ if isPrefix then [] else ['$']))
    (hregex : Regex.compile source = .ok regex) :
    ∃ r : Parser, r.Numbered ∧ regex.pattern = r.node.pattern ∧
      regex.groupNames = groupNamesOf r.node.pattern r.names ∧ r.branches = [] ∧
      r.patterns = .assert .textStart :: (parts.flatMap Part.patterns ++ endAnchor isPrefix) ∧
      ∀ i g, (parts.filterMap Part.index?)[i]? = some g → (groupName i, g) ∈ r.names := by
  obtain ⟨r, ⟨hends, -⟩, hpattern, hgroupNames⟩ := finished_of_compile hregex
  rw [htext] at hends
  have hcaret := hends.anchor rfl (show Token.next false '^' _ = .ok (.anchor .caret, _) from rfl)
  obtain ⟨later, hlater, hext, hnames⟩ := extends_expression hlaid rfl hcaret
  simp only [Nat.zero_add] at hnames
  have hend : r.branches = later.branches ∧ r.names = later.names ∧
      r.patterns = later.patterns ++ endAnchor isPrefix := by
    cases isPrefix with
    | true =>
      rw [hlater.eq_of_skip_nil (Layout.skip_nil _)]
      simp [endAnchor]
    | false =>
      have hdollar := hlater.anchor hext.flags
        (show Token.next false '$' _ = .ok (.anchor .dollar, _) from rfl)
      rw [hdollar.eq_of_skip_nil (Layout.skip_nil _)]
      exact ⟨rfl, rfl, (extends_pushLeaf later _).patterns⟩
  refine ⟨r, numbered_start.ends hends, hpattern, hgroupNames, hend.1.trans hext.branches, ?_,
    fun i g hi => hend.2.1 ▸ hnames i g hi⟩
  rw [hend.2.2, hext.patterns]
  rfl

/-- The group of every variable is one of the whole expression. -/
theorem mem_groups_of_part {parts : List Part} {g : Nat} (h : g ∈ parts.filterMap Part.index?) :
    g ∈ (parts.flatMap Part.patterns).flatMap Pattern.groups := by
  obtain ⟨part, hpart, hindex⟩ := List.mem_filterMap.1 h
  refine List.mem_flatMap.2 ?_
  cases part with
  | literal cs => cases hindex
  | group g' p =>
    cases hindex
    exact ⟨_, List.mem_flatMap.2 ⟨_, hpart, List.mem_singleton_self _⟩,
      List.mem_cons_self⟩

theorem mem_groups_expression {r : Parser} {isPrefix : Bool} {parts : List Part} {g : Nat}
    (hbranches : r.branches = []) (hpatterns : r.patterns =
      .assert .textStart :: (parts.flatMap Part.patterns ++ endAnchor isPrefix))
    (hg : g ∈ parts.filterMap Part.index?) : g ∈ r.node.pattern.groups := by
  rw [groups_node hbranches, hpatterns, List.flatMap_cons, List.flatMap_append]
  exact List.mem_append_right _ (List.mem_append_left _ (mem_groups_of_part hg))

/-- **The groups that are found by their names** are those of the variables, in order. -/
theorem groups_eq {text : String} {regex : Regex} {r : Parser} {groups indices : List Nat}
    (hr : r.Numbered) (hnames : regex.groupNames = groupNamesOf r.node.pattern r.names)
    (hgroup : ∀ i g, indices[i]? = some g → (groupName i, g) ∈ r.names)
    (hmem : ∀ g ∈ indices, g ∈ r.node.pattern.groups)
    (h : (List.range indices.length).mapM (findGroup text regex) = .ok groups) :
    groups = indices := by
  have hfound := mapM_eq_ok.1 h
  have hlength : indices.length = groups.length := by simpa using hfound.length_eq
  refine List.ext_getElem hlength.symm fun i h1 h2 => ?_
  have hi := hfound.get (by simpa using h2) h1
  simp only [List.get_eq_getElem, List.getElem_range] at hi
  have hg := hgroup i _ (List.getElem?_eq_getElem h2)
  rw [findGroup_eq hr hnames hg (hmem _ (List.getElem_mem h2))] at hi
  exact (Except.ok.inj hi).symm

/-- **A template that compiles is laid out as its pieces say**, if the patterns of its variables can
be read on their own. -/
theorem compiled_of_read {text : String} {isPrefix : Bool} {t : Template}
    (h : compile text default isPrefix reserved = .ok t)
    (hsplit : Piece.split? text.toList = some pieces) (hread : PatternsRead default pieces) :
    ∃ parts, Compiled default reserved t pieces parts := by
  obtain ⟨hnodup, hfree⟩ := names_of_compile h
  obtain ⟨pieces', draft, regex, groups, hsplit', hdraft, hregex, hgroups, rfl⟩ :=
    exists_of_compile h
  rw [hsplit] at hsplit'
  cases hsplit'
  obtain ⟨htext, hsegments, ⟨added, hvars, hdeclares⟩, -⟩ := foldlM_add hdraft
  have hvars : draft.vars = added := hvars
  obtain ⟨parts, hlaid, hvalidators⟩ := laid_of_patterns hread hdeclares 1
  -- the expression that is compiled is that of the pieces, between its anchors
  have hsource : (if isPrefix then draft.pattern else draft.pattern ++ "$").toList =
      '^' :: (expressionText default 0 pieces ++ if isPrefix then [] else ['$']) := by
    cases isPrefix <;> simp [htext, Draft.start]
  obtain ⟨r, hr, hpattern, hgroupNames, hbranches, hpatterns, hgroup⟩ :=
    read_expression hlaid hsource (compile_of_compileRegex hregex)
  have hmem : ∀ g ∈ parts.filterMap Part.index?, g ∈ r.node.pattern.groups :=
    fun g hg => mem_groups_expression hbranches hpatterns hg
  have hlength : (parts.filterMap Part.index?).length = draft.vars.length := by
    rw [length_index?, ← hvalidators.length_eq, hvars]
  obtain rfl : groups = parts.filterMap Part.index? :=
    groups_eq hr hgroupNames hgroup hmem (hlength ▸ hgroups)
  obtain ⟨hpairs, hindices⟩ := map_zipWith_vars hlength
  refine ⟨parts, hlaid, ?_, hsegments, hindices, ?_, ?_, ?_, hnodup, hfree⟩
  · -- the anchors hold at the start and, unless the template is one for prefixes, at the end
    intro text i k s hi
    rw [hpattern, matches_node hbranches, hpatterns, matchesAll_textStart hi]
    cases isPrefix with
    | true => simp [endAnchor]
    | false => simp [endAnchor, matchesAll_textEnd]
  · intro g hg
    rw [hgroupNames, groupNamesOf, List.length_map, List.length_range]
    rcases List.mem_cons.1 hg with rfl | hg
    · exact Nat.succ_pos _
    · exact lt_groupCount (hmem g hg)
  · rw [← hvars, ← hpairs] at hvalidators
    exact List.forall₂_map_left_iff.1 hvalidators
  · rw [varNames, varNames_zipWith hlength, hvars, ← names_of_declares hdeclares]

/-- The same for patterns that are expressions on their own. -/
theorem compiled_of_compile {text : String} {isPrefix : Bool} {t : Template}
    (h : compile text default isPrefix reserved = .ok t)
    (hsplit : Piece.split? text.toList = some pieces)
    (hvalid : PatternsSatisfy (fun _ => True) default pieces) :
    ∃ parts, Compiled default reserved t pieces parts :=
  compiled_of_read h hsplit hvalid.read

end RequestRouter.Template
