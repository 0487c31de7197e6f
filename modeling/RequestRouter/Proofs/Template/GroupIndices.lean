import Mathlib.Tactic
import RequestRouter.Proofs.Regex.Openings
import RequestRouter.Proofs.Template.Acceptance

/-!
# The indices of the variables' groups

The groups of the whole expression are counted as they open: that of each variable, and after it those
of its pattern, before that of the next variable. The group of a variable is looked up by its name, and
no group inside a pattern can have that name, since names in an expression are different.

* `groupIndex`: where the group of a variable is.
* `index_of_laid`, `groups_of_laid`: the groups of pieces that are laid out.
* `names_inside`: the groups of a pattern keep their names in the whole expression.
* `GroupsInOrder`: everything that the groups of a template satisfy.
* `groups_counted_by_openings`: **the groups of every template are in order, and none is missing.**
-/

namespace RequestRouter.Template

open Regex Regex.Parser

/-- The index of the group of the variable `i`, when the variables have these patterns: one after the
groups of the variables before it and those that their patterns declare. The whole match is the group
zero. -/
def groupIndex (patterns : List String) (i : Nat) : Nat :=
  1 + i + ((patterns.take i).map declaredGroups).sum

variable {default text pattern : String} {reserved patterns : List String} {pieces : List Piece}
  {parts : List Part} {isPrefix : Bool} {t : Template} {g i j : Nat}

theorem groupIndex_zero (patterns : List String) : groupIndex patterns 0 = 1 := by
  simp [groupIndex]

theorem groupIndex_cons (pattern : String) (patterns : List String) (i : Nat) :
    groupIndex (pattern :: patterns) (i + 1) =
      1 + declaredGroups pattern + groupIndex patterns i := by
  simp only [groupIndex, List.take_succ_cons, List.map_cons, List.sum_cons]
  omega

/-- **The groups of a pattern** are before the group of every later variable. -/
theorem groupIndex_lt (hj : patterns[j]? = some pattern) (hji : j < i) :
    groupIndex patterns j + declaredGroups pattern < groupIndex patterns i := by
  induction patterns generalizing i j with
  | nil => cases hj
  | cons first patterns ih =>
    obtain ⟨i, rfl⟩ : ∃ i', i = i' + 1 := ⟨i - 1, by omega⟩
    cases j with
    | zero =>
      obtain rfl : first = pattern := Option.some.inj hj
      rw [groupIndex_zero, groupIndex_cons, groupIndex]
      omega
    | succ j =>
      have hlt := ih (i := i) hj (by omega)
      rw [groupIndex_cons, groupIndex_cons]
      omega

/-! ### Pieces that are laid out -/

/-- **The index of a variable's group**, when the next group to open has the index `g`. -/
theorem index_of_laid {index : Nat} (h : Laid default g pieces parts)
    (hindex : (parts.filterMap Part.index?)[i]? = some index) :
    index + 1 = g + groupIndex (patternsOf default pieces) i := by
  induction h generalizing i with
  | nil => cases hindex
  | literal _ ih => exact ih hindex
  | @braced g body pieces parts s hs _ _ ih =>
    cases i with
    | zero =>
      obtain rfl : g = index := Option.some.inj hindex
      rw [groupIndex_zero]
    | succ i =>
      -- the pattern takes the groups that it declares, and its variable one more
      have hrest := ih hindex
      rw [hs.groups_eq] at hrest
      show index + 1 = g + groupIndex ((nameAndPattern default body).2 :: patternsOf default pieces)
        (i + 1)
      rw [groupIndex_cons]
      omega

/-- A text that is a pattern on its own is the expression that it compiles to. -/
theorem pattern_of_compile {s : Parser} {regex : Regex} (hs : Finished pattern.toList s)
    (h : Regex.compile pattern = .ok regex) : regex.pattern = s.node.pattern := by
  obtain ⟨s', hs', hpattern, -⟩ := finished_of_compile h
  rwa [hs'.ends.unique hs.ends] at hpattern

/-- Patterns with the expressions that they are on their own. -/
def Own (patterns : List String) (regexes : List Regex) : Prop :=
  List.Forall₂ (fun pattern regex => Regex.compile pattern = .ok regex) patterns regexes

/-- **The groups of the whole** are that of each variable and, after it, those of its pattern. -/
theorem groups_of_laid {regexes : List Regex} (h : Laid default g pieces parts)
    (hown : Own (patternsOf default pieces) regexes) :
    (parts.flatMap Part.patterns).flatMap Pattern.groups =
      ((parts.filterMap Part.index?).zip regexes).flatMap fun (index, regex) =>
        index :: regex.pattern.groups.map (· + index) := by
  induction h generalizing regexes with
  | nil => rfl
  | @literal g text pieces parts _ ih =>
    have hliteral : (text.map Pattern.char).flatMap Pattern.groups = [] := by
      rw [List.flatMap_map, List.flatMap_eq_nil_iff]
      exact fun _ _ => rfl
    rw [List.flatMap_cons, List.flatMap_append, ih hown]
    show (text.map Pattern.char).flatMap Pattern.groups ++ _ = _
    rw [hliteral]
    rfl
  | @braced g body pieces parts s hs _ _ ih =>
    cases hown with
    | cons hregex hown =>
      rw [List.flatMap_cons, List.flatMap_append, ih hown]
      show (g :: (s.node.pattern.renumber g).groups ++ []) ++ _ = _
      rw [groups_renumber, ← pattern_of_compile hs hregex, List.append_nil]
      rfl

/-- **The groups of a pattern keep their names** in the whole expression, after the group of the
variable. -/
theorem names_inside {parser r s : Parser} {n index : Nat} {more : List Char}
    (hlaid : Laid default parser.groups pieces parts) (hflags : parser.flags = .initial)
    (h : parser.Ends (expressionText default n pieces ++ more) r)
    (hindex : (parts.filterMap Part.index?)[i]? = some index)
    (hpattern : (patternsOf default pieces)[i]? = some pattern) (hs : Finished pattern.toList s) :
    ∀ e ∈ s.names, (e.1, e.2 + index) ∈ r.names := by
  generalize hg : parser.groups = g at hlaid
  induction hlaid generalizing parser n i with
  | nil => cases hindex
  | literal _ ih =>
    rw [expressionText, List.append_assoc] at h
    obtain ⟨mid, hends, hext, hgroups⟩ := extends_escape h hflags
    exact ih (hext.flags.trans hflags) hends hindex hpattern (hgroups.trans hg)
  | @braced g body pieces parts s' hs' hcloses _ ih =>
    subst hg
    rw [expressionText, List.append_assoc] at h
    have hgroup := ends_groupText hs' hcloses hflags h
    cases i with
    | zero =>
      obtain rfl : parser.groups = index := Option.some.inj hindex
      obtain rfl : (nameAndPattern default body).2 = pattern := Option.some.inj hpattern
      obtain rfl := hs'.ends.unique hs.ends
      intro e he
      -- the names are given when the group is read, and nothing after it takes them away
      refine hgroup.names_suffix.mem ?_
      exact List.mem_append_left _ (List.mem_map_of_mem he)
    | succ i => exact @ih i (parser.afterGroup _ _ _ _) _ hflags hgroup hindex hpattern rfl

/-! ### Whole templates -/

/-- **The groups of a template** are in order: those of its variables where they are counted to be, and
those of their patterns after them. -/
structure GroupsInOrder (default : String) (pieces : List Piece) (t : Template) : Prop where
  counted : t.vars.map (·.group) =
    (List.range (patternsOf default pieces).length).map (groupIndex (patternsOf default pieces))
  increasing : (t.vars.map (·.group)).Pairwise (· < ·)
  /-- The whole expression has no other groups. -/
  whole : ∀ regexes, Own (patternsOf default pieces) regexes →
    t.regex.pattern.groups = (t.vars.zip regexes).flatMap fun (v, regex) =>
      v.group :: regex.pattern.groups.map (· + v.group)
  /-- Where the groups of a pattern are, with the names that they have there. -/
  inside : ∀ (i : Nat) (v : Variable) (pattern : String) (regex : Regex), t.vars[i]? = some v →
    (patternsOf default pieces)[i]? = some pattern → Regex.compile pattern = .ok regex →
      (∀ g ∈ regex.pattern.groups, 1 ≤ g ∧ g ≤ declaredGroups pattern) ∧
      ∀ g name, regex.groupNames[g]? = some (some name) →
        t.regex.groupNames[v.group + g]? = some (some name)
  /-- No variable has a group that a pattern declares, be it its own or that of another one. -/
  outside : ∀ (i j : Nat) (v w : Variable) (pattern : String), t.vars[i]? = some v →
    t.vars[j]? = some w → (patternsOf default pieces)[j]? = some pattern →
      ∀ g, 1 ≤ g → g ≤ declaredGroups pattern → v.group ≠ w.group + g
  /-- The name that is looked up for a variable is that of its group only. -/
  named : ∀ (i : Nat) (v : Variable), t.vars[i]? = some v →
    ∀ g, t.regex.groupNames[g]? = some (some (groupName i)) ↔ g = v.group

/-- The group of a variable in a list that is counted. -/
theorem group_of_getElem? {v : Variable} (h : t.vars.map (·.group) =
      (List.range (patternsOf default pieces).length).map (groupIndex (patternsOf default pieces)))
    (hv : t.vars[i]? = some v) : v.group = groupIndex (patternsOf default pieces) i := by
  have hi := congrArg (·[i]?) h
  simp only [List.getElem?_map, hv, Option.map_some] at hi
  obtain ⟨j, hj, hgroup⟩ := Option.map_eq_some_iff.1 hi.symm
  obtain ⟨hlt, hj⟩ := List.getElem?_eq_some_iff.1 hj
  rw [List.getElem_range] at hj
  rw [← hgroup, hj]

/-- The recorded groups are where they are counted to be. -/
theorem counted_of_laid (h : Laid default 1 pieces parts) : parts.filterMap Part.index? =
    (List.range (patternsOf default pieces).length).map (groupIndex (patternsOf default pieces)) := by
  refine List.ext_getElem (by simp [length_index_of_laid h]) fun i h1 h2 => ?_
  have hindex := index_of_laid h (List.getElem?_eq_getElem h1)
  rw [List.getElem_map, List.getElem_range]
  omega

theorem increasing_groupIndex (patterns : List String) :
    ((List.range patterns.length).map (groupIndex patterns)).Pairwise (· < ·) := by
  refine List.pairwise_map.2 (List.pairwise_lt_range.imp_of_mem fun {j i} hj _ hji => ?_)
  have hlt := groupIndex_lt (List.getElem?_eq_getElem (List.mem_range.1 hj)) hji
  omega

/-- The group of a variable is none that a pattern declares, neither its own pattern nor another one. -/
theorem groupIndex_ne (hj : patterns[j]? = some pattern) (hpositive : 1 ≤ g)
    (hdeclared : g ≤ declaredGroups pattern) (hi : i < patterns.length) :
    groupIndex patterns i ≠ groupIndex patterns j + g := by
  -- a pattern lies between the group of its variable and the next one
  rcases Nat.lt_trichotomy i j with hlt | rfl | hlt
  · have hbefore := groupIndex_lt (List.getElem?_eq_getElem hi) hlt
    omega
  · omega
  · have hafter := groupIndex_lt hj hlt
    omega

/-- The groups of a pattern on its own are those that it declares. -/
theorem groups_declared {regex : Regex} (h : Regex.compile pattern = .ok regex) :
    ∀ g ∈ regex.pattern.groups, 1 ≤ g ∧ g ≤ declaredGroups pattern := by
  obtain ⟨s, hs, hpattern, -⟩ := finished_of_compile h
  intro g hg
  rw [hpattern] at hg
  have hbelow := groupsBelow_finish (numbered_start.ends hs.ends).parts g hg
  rw [hs.groups_eq] at hbelow
  omega

theorem Own.getElem? {regexes : List Regex} {regex : Regex} (h : Own patterns regexes)
    (hpattern : patterns[i]? = some pattern) (hregex : Regex.compile pattern = .ok regex) :
    regexes[i]? = some regex := by
  induction h generalizing i with
  | nil => cases hpattern
  | cons hfirst _ ih =>
    cases i with
    | zero =>
      cases hpattern
      rw [hfirst] at hregex
      exact congrArg some (Except.ok.inj hregex)
    | succ i => exact ih hpattern

/-- The groups of the whole expression. -/
theorem groups_of_whole {whole : Regex} {regexes : List Regex} (hlaid : Laid default 1 pieces parts)
    (hwhole : Regex.compile (wholeText default isPrefix pieces) = .ok whole)
    (hown : Own (patternsOf default pieces) regexes) :
    whole.pattern.groups = ((parts.filterMap Part.index?).zip regexes).flatMap fun (index, regex) =>
      index :: regex.pattern.groups.map (· + index) := by
  obtain ⟨r, -, hpattern, -, hbranches, hpatterns, -⟩ :=
    read_expression hlaid (toList_wholeText default isPrefix pieces) hwhole
  have hanchor : (endAnchor isPrefix).flatMap Pattern.groups = [] := by
    cases isPrefix <;> rfl
  rw [hpattern, groups_node hbranches, hpatterns, List.flatMap_cons, List.flatMap_append, hanchor,
    groups_of_laid hlaid hown, List.append_nil]
  rfl

/-- A group that has a name inside a pattern has it in the whole expression. -/
theorem name_of_whole {whole regex : Regex} {name : String} {index : Nat}
    (hlaid : Laid default 1 pieces parts)
    (hwhole : Regex.compile (wholeText default isPrefix pieces) = .ok whole)
    (hvalid : ∀ p ∈ patternsOf default pieces, Compiles p)
    (hindex : (parts.filterMap Part.index?)[i]? = some index)
    (hpattern : (patternsOf default pieces)[i]? = some pattern)
    (hregex : Regex.compile pattern = .ok regex)
    (hname : regex.groupNames[g]? = some (some name)) :
    whole.groupNames[index + g]? = some (some name) := by
  obtain ⟨s, hs, hown, hownNames⟩ := finished_of_compile hregex
  rw [hownNames] at hname
  obtain ⟨hgroup, hnamed⟩ := of_groupNamesOf hname
  obtain ⟨r, ⟨hends, -⟩, hwholePattern, hwholeNames⟩ := finished_of_compile hwhole
  -- it is one of the groups of the whole
  have hmem : g + index ∈ whole.pattern.groups := by
    obtain ⟨regexes, hregexes⟩ := exists_forall₂.2 hvalid
    rw [groups_of_whole hlaid hwhole hregexes]
    refine List.mem_flatMap.2 ⟨(index, regex), ?_, ?_⟩
    · refine List.mem_of_getElem? (i := i) (List.getElem?_zip_eq_some.2 ⟨hindex, ?_⟩)
      exact Own.getElem? hregexes hpattern hregex
    · rw [← hown] at hgroup
      exact List.mem_cons_of_mem _ (List.mem_map_of_mem hgroup)
  -- and it is read with its name
  have hkept : (name, g + index) ∈ r.names := by
    rw [toList_wholeText] at hends
    have hcaret := hends.anchor rfl (show Token.next false '^' _ = .ok (.anchor .caret, _) from rfl)
    exact names_inside hlaid rfl hcaret hindex hpattern hs _ hnamed
  rw [hwholePattern] at hmem
  rw [hwholeNames, Nat.add_comm]
  exact (groupNamesOf_eq_iff (numbered_start.ends hends) hkept hmem).2 rfl

/-- Patterns that are expressions on their own can be read. -/
theorem read_of_valid (hvalid : ∀ p ∈ patternsOf default pieces, Compiles p) :
    PatternsRead default pieces := by
  intro body hbody
  obtain ⟨regex, hregex⟩ := hvalid _ (List.mem_map_of_mem hbody)
  obtain ⟨s, hs, -⟩ := finished_of_compile hregex
  exact ⟨s, hs⟩

/-- **The groups of a template that compiles** are in order. -/
theorem groupsInOrder_of_compile (hsplit : Piece.split? text.toList = some pieces)
    (hvalid : ∀ p ∈ patternsOf default pieces, Compiles p)
    (h : compile text default isPrefix reserved = .ok t) : GroupsInOrder default pieces t := by
  obtain ⟨parts, hc⟩ := compiled_of_read h hsplit (read_of_valid hvalid)
  have hwhole := whole_of_compile hsplit h
  have hcounted := hc.groups.trans (counted_of_laid hc.laid)
  have hindex : ∀ {i : Nat} {v : Variable}, t.vars[i]? = some v →
      (parts.filterMap Part.index?)[i]? = some v.group := by
    intro i v hv
    rw [← hc.groups, List.getElem?_map, hv]
    rfl
  refine ⟨hcounted, ?_, ?_, ?_, ?_, ?_⟩
  · rw [hcounted]
    exact increasing_groupIndex _
  · intro regexes hown
    rw [groups_of_whole hc.laid hwhole hown, ← hc.groups, List.zip_map_left, List.flatMap_map]
    rfl
  · intro i v pattern regex hv hpattern hregex
    refine ⟨groups_declared hregex, fun g name hname => ?_⟩
    exact name_of_whole hc.laid hwhole hvalid (hindex hv) hpattern hregex hname
  · intro i j v w pattern hv hw hpattern g hpositive hdeclared
    have hi : i < (patternsOf default pieces).length := by
      rw [← length_index_of_laid hc.laid]
      exact (List.getElem?_eq_some_iff.1 (hindex hv)).1
    rw [group_of_getElem? hcounted hv, group_of_getElem? hcounted hw]
    exact groupIndex_ne hpattern hpositive hdeclared hi
  · intro i v hv g
    obtain ⟨r, hr, -, hnames, hbranches, hpatterns, hgroup⟩ :=
      read_expression hc.laid (toList_wholeText default isPrefix pieces) hwhole
    have hmem := mem_groups_expression hbranches hpatterns (List.mem_of_getElem? (hindex hv))
    rw [hnames]
    exact groupNamesOf_eq_iff hr (hgroup i _ (hindex hv)) hmem

/-- **No group is missing** where the patterns are expressions on their own. -/
theorem not_groupMissing {index : Nat}
    (hvalid : ∀ p ∈ patternsOf default pieces, Compiles p)
    (hparts : AllPass default reserved (pieces.filterMap Piece.body?)) :
    ¬WholeFails default isPrefix pieces (.groupMissing index) := by
  -- a pattern that has a validator stands in its group
  have hstands : ∀ p ∈ patternsOf default pieces, ∃ parsed, Stands p parsed := by
    intro p hp
    obtain ⟨body, hbody, rfl⟩ := List.mem_map.1 hp
    obtain ⟨s, hs⟩ := read_of_valid hvalid body hbody
    obtain ⟨earlier, later, hbodies⟩ := List.append_of_mem hbody
    obtain ⟨validator, hvalidator⟩ := (hparts earlier body later hbodies).validator
    exact ⟨_, s, hs, (validator_spec hs hvalidator).1, rfl⟩
  intro h
  cases h with
  | @groupMissing regex _ hwhole hlt hmissing =>
    obtain ⟨parsed, hparsed⟩ := exists_forall₂.2 hstands
    obtain ⟨g, hfound⟩ : ∃ g, findGroup "" regex index = .ok g :=
      findGroup_of_stands hparsed hwhole (by rwa [patternsOf, List.length_map])
    rw [findGroup_eq_error.2 ⟨hmissing, rfl⟩] at hfound
    cases hfound

/-- **The groups of every template** whose patterns are expressions on their own are in order, and none
of them is ever missing. -/
theorem groups_counted_by_openings (isPrefix : Bool) (reserved : List String)
    (hsplit : Piece.split? text.toList = some pieces)
    (hvalid : ∀ p ∈ patternsOf default pieces, Compiles p) :
    (∀ t, compile text default isPrefix reserved = .ok t → GroupsInOrder default pieces t) ∧
    ∀ template index, compile text default isPrefix reserved ≠
      .error (.invalidPattern template (.groupMissing index)) := by
  refine ⟨fun t => groupsInOrder_of_compile hsplit hvalid, fun template index h => ?_⟩
  have hverdict : Verdict default text isPrefix reserved pieces
      (compile text default isPrefix reserved) := verdict_of_split? hsplit
  rw [h] at hverdict
  cases hverdict with
  | part _ _ hbody => cases hbody
  | whole hparts hwhole => exact not_groupMissing hvalid hparts hwhole

/-- A pattern with two groups, one of which is named like that of a variable. -/
theorem groups_counted_by_openings_imitated : ∃ pieces,
    Piece.split? "/{a:(x)(?P<__mux_v7>y)}/{b:z}".toList = some pieces ∧
    (∀ p ∈ patternsOf defaultPathPattern pieces, Compiles p) ∧
    ∃ t, compile "/{a:(x)(?P<__mux_v7>y)}/{b:z}" defaultPathPattern false [] = .ok t ∧
      t.vars.map (·.group) = [1, 4] ∧ GroupsInOrder defaultPathPattern pieces t := by
  have hsplit : Piece.split? "/{a:(x)(?P<__mux_v7>y)}/{b:z}".toList =
      some [.literal ['/'], .braced "a:(x)(?P<__mux_v7>y)".toList, .literal ['/'],
        .braced "b:z".toList] := by decide +kernel
  have halone : (patternsOf defaultPathPattern [.literal ['/'],
      .braced "a:(x)(?P<__mux_v7>y)".toList, .literal ['/'], .braced "b:z".toList]).all
      (fun p => (Regex.compile p).toOption.any fun _ => true) = true := by decide +kernel
  have hvalid : ∀ p ∈ patternsOf defaultPathPattern [.literal ['/'],
      .braced "a:(x)(?P<__mux_v7>y)".toList, .literal ['/'], .braced "b:z".toList], Compiles p := by
    intro p hp
    obtain ⟨regex, hregex, -⟩ := exists_ok_of_any (List.all_eq_true.1 halone p hp)
    exact ⟨regex, hregex⟩
  have hok : (compile "/{a:(x)(?P<__mux_v7>y)}/{b:z}" defaultPathPattern false
      []).toOption.any (fun _ => true) = true := by decide +kernel
  obtain ⟨t, ht, -⟩ := exists_ok_of_any hok
  obtain ⟨hgroups, -⟩ := groups_counted_by_openings false [] hsplit hvalid
  have hindices : (List.range 2).map (groupIndex ["(x)(?P<__mux_v7>y)", "z"]) = [1, 4] := by
    decide +kernel
  exact ⟨_, hsplit, hvalid, t, ht, (hgroups t ht).counted.trans hindices, hgroups t ht⟩

end RequestRouter.Template
