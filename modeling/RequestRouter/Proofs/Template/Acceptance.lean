import Mathlib.Tactic
import RequestRouter.Proofs.Template.Verdict

/-!
# Which templates compile

A template whose braces are balanced and whose names are in order compiles, or one of its expressions
is refused. Its patterns are never read on their own, but if they are expressions on their own, then
there are four reasons only for which one is refused.

* `compile_outcome`: the only way in which such a template may fail, and when it does.
* `compile_verdict`: **what the patterns on their own say about the template.**
-/

namespace RequestRouter.Template

open Regex Regex.Parser

variable {default text : String} {reserved : List String} {pieces : List Piece} {isPrefix : Bool}

/-- The variables of a template have names and patterns, and their names are new and different. -/
structure WellNamed (default : String) (reserved : List String) (pieces : List Piece) : Prop where
  nonempty : ∀ body ∈ pieces.filterMap Piece.body?,
    (nameAndPattern default body).1 ≠ "" ∧ (nameAndPattern default body).2 ≠ ""
  nodup : ((pieces.filterMap Piece.body?).map fun body => (nameAndPattern default body).1).Nodup
  free : ∀ body ∈ pieces.filterMap Piece.body?, (nameAndPattern default body).1 ∉ reserved

/-- Parts whose names are in order only fail for a pattern that has no validator. -/
theorem WellNamed.of_fails {earlier later : List (List Char)} {body : List Char} {e : RouterError}
    (h : WellNamed default reserved pieces)
    (hbodies : pieces.filterMap Piece.body? = earlier ++ body :: later)
    (hfails : Fails default text (reserved ++ earlier.map (nameOf default)) body e) :
    ∃ fault, e = .invalidPattern text fault ∧
      ¬Compiles (validatorText (nameAndPattern default body).2) := by
  have hbody : body ∈ pieces.filterMap Piece.body? := by
    rw [hbodies]
    exact List.mem_append_right _ List.mem_cons_self
  cases hfails with
  | bad hempty =>
    obtain ⟨hname, hpattern⟩ := h.nonempty body hbody
    exact absurd hempty (not_or.2 ⟨hname, hpattern⟩)
  | duplicate _ _ htaken =>
    rcases List.mem_append.1 htaken with hreserved | hearlier
    · exact absurd hreserved (h.free body hbody)
    · have hnodup := h.nodup
      rw [hbodies, List.map_append, List.map_cons] at hnodup
      exact absurd List.mem_cons_self (List.disjoint_of_nodup_append hnodup hearlier)
  | rejected _ _ _ herror =>
    refine ⟨_, rfl, ?_⟩
    rintro ⟨regex, hregex⟩
    rw [herror] at hregex
    cases hregex

/-- A template is refused for one of its patterns. -/
def Rejected (default text : String) (isPrefix : Bool) (reserved : List String) : Prop :=
  ∃ fault, compile text default isPrefix reserved = .error (.invalidPattern text fault)

/-- All expressions of a template compile, and the groups of its variables are found. -/
structure Sound (default text : String) (isPrefix : Bool) (pieces : List Piece) : Prop where
  validators : ∀ p ∈ patternsOf default pieces, Compiles (validatorText p)
  whole : ∃ regex, Regex.compile (wholeText default isPrefix pieces) = .ok regex ∧
    ∀ i < (patternsOf default pieces).length, ∃ g, findGroup text regex i = .ok g

theorem findGroup_of_mapM {regex : Regex} {n : Nat} {groups : List Nat}
    (h : (List.range n).mapM (findGroup text regex) = .ok groups) :
    ∀ i < n, ∃ g, findGroup text regex i = .ok g := by
  intro i hi
  have hfound := mapM_eq_ok.1 h
  have hlength := hfound.length_eq
  rw [List.length_range] at hlength
  have hi' := hfound.get (by simpa using hi) (hlength ▸ hi)
  simp only [List.get_eq_getElem, List.getElem_range] at hi'
  exact ⟨_, hi'⟩

theorem sound_of_compile {t : Template} (hsplit : Piece.split? text.toList = some pieces)
    (hparts : AllPass default reserved (pieces.filterMap Piece.body?))
    (h : compile text default isPrefix reserved = .ok t) : Sound default text isPrefix pieces := by
  obtain ⟨pieces', draft, regex, groups, hsplit', hdraft, hregex, hgroups, -⟩ := exists_of_compile h
  obtain rfl : pieces = pieces' := Option.some.inj (hsplit.symm.trans hsplit')
  obtain ⟨hwhole, hlength⟩ := draft_of_foldlM isPrefix hdraft
  rw [hwhole] at hregex
  rw [hlength] at hgroups
  refine ⟨fun p hp => ?_, regex, compile_of_compileRegex hregex, findGroup_of_mapM hgroups⟩
  obtain ⟨body, hbody, rfl⟩ := List.mem_map.1 hp
  obtain ⟨earlier, later, hbodies⟩ := List.append_of_mem hbody
  exact (hparts earlier body later hbodies).validator

theorem not_sound_of_wholeFails {fault : PatternFault} (h : WholeFails default isPrefix pieces fault) :
    ¬Sound default text isPrefix pieces := by
  intro hsound
  obtain ⟨regex, hregex, hfound⟩ := hsound.whole
  cases h with
  | rejected herror =>
    rw [herror] at hregex
    cases hregex
  | @groupMissing regex' index hregex' hindex hmissing =>
    rw [hregex] at hregex'
    cases hregex'
    obtain ⟨g, hg⟩ := hfound index (by rwa [patternsOf, List.length_map])
    rw [findGroup_eq_error.2 ⟨hmissing, rfl⟩] at hg
    cases hg

/-- **What becomes of a template** whose braces are balanced and whose names are in order: it compiles
or is refused for a pattern. -/
theorem compile_outcome (isPrefix : Bool) (hsplit : Piece.split? text.toList = some pieces)
    (hnames : WellNamed default reserved pieces) :
    ((∃ t, compile text default isPrefix reserved = .ok t) ∧ Sound default text isPrefix pieces) ∨
      Rejected default text isPrefix reserved ∧ ¬Sound default text isPrefix pieces := by
  have hverdict : Verdict default text isPrefix reserved pieces
      (compile text default isPrefix reserved) := verdict_of_split? hsplit
  unfold Rejected
  cases h : compile text default isPrefix reserved with
  | ok t =>
    rw [h] at hverdict
    cases hverdict with
    | template hparts _ => exact Or.inl ⟨⟨t, rfl⟩, sound_of_compile hsplit hparts h⟩
  | error e =>
    rw [h] at hverdict
    cases hverdict with
    | whole _ hwhole => exact Or.inr ⟨⟨_, rfl⟩, not_sound_of_wholeFails hwhole⟩
    | @part earlier later body _ hbodies _ hbody =>
      obtain ⟨fault, rfl, hrefused⟩ := hnames.of_fails hbodies hbody
      refine Or.inr ⟨⟨fault, rfl⟩, fun hsound => hrefused (hsound.validators _ ?_)⟩
      rw [patternsOf, hbodies]
      exact List.mem_map_of_mem (List.mem_append_right _ List.mem_cons_self)

/-! ### Patterns that are expressions on their own -/

/-- A text is an expression, but takes more room than one may. -/
def TooLarge (source : String) : Prop :=
  ∃ parsed, Parsed.ofText source.toList = .ok parsed ∧
    parsed.node.pattern.fits Regex.roomLimit = false

theorem compiles_iff {source : String} : Compiles source ↔
    (∃ parsed, Parsed.ofText source.toList = .ok parsed) ∧ ¬TooLarge source := by
  unfold Compiles TooLarge Regex.compile
  cases hparsed : Parsed.ofText source.toList with
  | error e => simp [bind, Except.bind]
  | ok parsed =>
    cases hfits : parsed.node.pattern.fits Regex.roomLimit <;> simp [bind, Except.bind, hfits]
    exact ⟨_, rfl⟩

/-- Patterns that stand in their groups are laid out as parts. -/
theorem laid_of_stands {parsed : List Parsed}
    (h : List.Forall₂ Stands (patternsOf default pieces) parsed) (g : Nat) :
    ∃ parts, Laid default g pieces parts := by
  induction pieces generalizing g parsed with
  | nil => exact ⟨[], .nil⟩
  | cons piece pieces ih =>
    cases piece with
    | literal text =>
      obtain ⟨parts, hlaid⟩ := ih h g
      exact ⟨_, .literal hlaid⟩
    | braced body =>
      cases h with
      | cons hstands hrest =>
        obtain ⟨s, hs, hcloses, -⟩ := hstands
        obtain ⟨parts, hlaid⟩ := ih hrest (s.groups + g)
        exact ⟨_, .braced hs hcloses hlaid⟩

/-- There is a group for every variable. -/
theorem length_index_of_laid {g : Nat} {parts : List Part} (h : Laid default g pieces parts) :
    (parts.filterMap Part.index?).length = (patternsOf default pieces).length := by
  induction h with
  | nil => rfl
  | literal _ ih => exact ih
  | braced _ _ _ ih => exact congrArg Nat.succ ih

/-- The groups of the variables are found in the whole expression. -/
theorem findGroup_of_stands {parsed : List Parsed} {regex : Regex}
    (h : List.Forall₂ Stands (patternsOf default pieces) parsed)
    (hregex : Regex.compile (wholeText default isPrefix pieces) = .ok regex) {i : Nat}
    (hi : i < (patternsOf default pieces).length) : ∃ g, findGroup text regex i = .ok g := by
  obtain ⟨parts, hlaid⟩ := laid_of_stands h 1
  obtain ⟨r, hr, -, hnames, hbranches, hpatterns, hgroup⟩ :=
    read_expression hlaid (toList_wholeText default isPrefix pieces) hregex
  rw [← length_index_of_laid hlaid] at hi
  have hindex := hgroup i _ (List.getElem?_eq_getElem hi)
  have hmem := mem_groups_expression hbranches hpatterns (List.getElem_mem hi)
  exact ⟨_, findGroup_eq hr hnames hindex hmem⟩

/-- Patterns with what they are on their own. -/
def Parse (patterns : List String) (parsed : List Parsed) : Prop :=
  List.Forall₂ (fun p q => Parsed.ofText p.toList = .ok q) patterns parsed

theorem Parse.stands {patterns : List String} {parsed : List Parsed} (h : Parse patterns parsed)
    (hcomment : ∀ p ∈ patterns, ¬EndsInComment p.toList) : List.Forall₂ Stands patterns parsed := by
  induction h with
  | nil => exact .nil
  | cons hp _ ih =>
    rw [List.forall_mem_cons] at hcomment
    obtain ⟨s, hs, hdepth, rfl⟩ := ofText_eq_ok_iff.1 hp
    exact .cons ⟨s, hs, (closes_iff hs hdepth).2 hcomment.1, rfl⟩ (ih hcomment.2)

theorem Parse.validators_iff {patterns : List String} {parsed : List Parsed}
    (h : Parse patterns parsed) :
    (∀ p ∈ patterns, ∃ validator, Parsed.ofText (validatorText p).toList = .ok validator) ↔
      (∀ p ∈ patterns, ¬EndsInComment p.toList) ∧
        ∀ q ∈ parsed, q.node.depth + 2 ≤ depthLimit := by
  induction h with
  | nil => simp
  | cons hp _ ih =>
    simp only [List.forall_mem_cons, validator_iff hp, ih]
    tauto

/-- **All expressions of a template** whose patterns are ones on their own. -/
theorem sound_iff {parsed : List Parsed} (h : Parse (patternsOf default pieces) parsed) :
    Sound default text isPrefix pieces ↔
      (∀ p ∈ patternsOf default pieces, ¬EndsInComment p.toList) ∧ (captureNames 0 parsed).Nodup ∧
      (∀ q ∈ parsed, q.node.depth + 2 ≤ depthLimit) ∧
      ∀ source ∈ wholeText default isPrefix pieces :: (patternsOf default pieces).map validatorText,
        ¬TooLarge source := by
  constructor
  · intro hsound
    obtain ⟨hcomment, hdepth⟩ := h.validators_iff.1 fun p hp =>
      (compiles_iff.1 (hsound.validators p hp)).1
    obtain ⟨regex, hregex, -⟩ := hsound.whole
    obtain ⟨hwhole, hroom⟩ := compiles_iff.1 ⟨regex, hregex⟩
    refine ⟨hcomment, (whole_iff (h.stands hcomment) hdepth).1 hwhole, hdepth, ?_⟩
    intro source hsource
    rcases List.mem_cons.1 hsource with rfl | hsource
    · exact hroom
    · obtain ⟨p, hp, rfl⟩ := List.mem_map.1 hsource
      exact (compiles_iff.1 (hsound.validators p hp)).2
  · rintro ⟨hcomment, hnodup, hdepth, hroom⟩
    rw [List.forall_mem_cons] at hroom
    have hstands := h.stands hcomment
    have hvalidators := h.validators_iff.2 ⟨hcomment, hdepth⟩
    obtain ⟨regex, hregex⟩ :=
      compiles_iff.2 ⟨(whole_iff hstands hdepth).2 hnodup, hroom.1⟩
    refine ⟨fun p hp => ?_, regex, hregex, fun i hi => findGroup_of_stands hstands hregex hi⟩
    exact compiles_iff.2 ⟨hvalidators p hp, hroom.2 _ (List.mem_map_of_mem hp)⟩

theorem Parse.finished {patterns : List String} {parsed : List Parsed} (h : Parse patterns parsed) :
    ∀ p ∈ patterns, ∃ s, Finished p.toList s := by
  induction h with
  | nil => exact fun p hp => by cases hp
  | cons hp _ ih =>
    obtain ⟨s, hs, -⟩ := ofText_eq_ok_iff.1 hp
    exact List.forall_mem_cons.2 ⟨⟨s, hs⟩, ih⟩

/-- **What the patterns on their own say about a template** whose braces are balanced and whose names
are in order. It compiles, or is refused for a pattern. It is refused if a pattern is no expression on
its own, unless that is for a parenthesis too many with which the validator is one. If all patterns are
expressions on their own, it is refused exactly if one of them ends in an open comment, if two groups of
the whole have the same name, or if an expression is too deep or too large; and if it is not refused,
then each pattern stands in the group of its variable, with the literal text of the template around it. -/
theorem compile_verdict (isPrefix : Bool) (hsplit : Piece.split? text.toList = some pieces)
    (hnames : WellNamed default reserved pieces) :
    ((∃ t, compile text default isPrefix reserved = .ok t) ∨
      Rejected default text isPrefix reserved) ∧
    ((∃ p ∈ patternsOf default pieces, ∃ e, Parsed.ofText p.toList = .error e ∧
        (e = .groupUnopened → ¬Compiles (validatorText p))) →
      Rejected default text isPrefix reserved) ∧
    ∀ parsed, Parse (patternsOf default pieces) parsed →
      (Rejected default text isPrefix reserved ↔
        (∃ p ∈ patternsOf default pieces, EndsInComment p.toList) ∨
        ¬(captureNames 0 parsed).Nodup ∨ (∃ q ∈ parsed, depthLimit < q.node.depth + 2) ∨
        ∃ source ∈ wholeText default isPrefix pieces ::
          (patternsOf default pieces).map validatorText, TooLarge source) ∧
      ∀ t, compile text default isPrefix reserved = .ok t →
        ∃ parts, Compiled default reserved t pieces parts := by
  have houtcome := compile_outcome isPrefix hsplit hnames
  have hrejected : Rejected default text isPrefix reserved ↔
      ¬Sound default text isPrefix pieces := by
    rcases houtcome with ⟨⟨t, ht⟩, hsound⟩ | ⟨hrejected, hunsound⟩
    · refine iff_of_false ?_ (not_not_intro hsound)
      rintro ⟨fault, hfault⟩
      rw [ht] at hfault
      cases hfault
    · exact iff_of_true hrejected hunsound
  refine ⟨houtcome.imp And.left And.left, ?_, fun parsed hparsed => ⟨?_, fun t ht => ?_⟩⟩
  · rintro ⟨p, hp, e, he, hunopened⟩
    rw [hrejected]
    intro hsound
    have hcompiles := hsound.validators p hp
    obtain ⟨⟨validator, hvalidator⟩, -⟩ := compiles_iff.1 hcompiles
    by_cases hparenthesis : e = .groupUnopened
    · exact hunopened hparenthesis hcompiles
    · exact validator_malformed he hparenthesis hvalidator
  · rw [hrejected, sound_iff hparsed]
    simp only [not_and_or, not_forall, not_not, not_le, exists_prop]
  · exact compiled_of_read ht hsplit fun body hbody =>
      hparsed.finished _ (List.mem_map_of_mem hbody)

/-- A comment at the end of a pattern swallows the parenthesis that closes its group. -/
theorem compile_verdict_comment :
    Piece.split? "/{a:(?x)b#c}".toList = some [.literal ['/'], .braced "a:(?x)b#c".toList] ∧
    WellNamed defaultPathPattern [] [.literal ['/'], .braced "a:(?x)b#c".toList] ∧
    (∃ parsed, Parsed.ofText "(?x)b#c".toList = .ok parsed) ∧
    Rejected defaultPathPattern "/{a:(?x)b#c}" false [] := by
  have hsplit : Piece.split? "/{a:(?x)b#c}".toList =
      some [.literal ['/'], .braced "a:(?x)b#c".toList] := by decide +kernel
  have hnames : WellNamed defaultPathPattern [] [.literal ['/'], .braced "a:(?x)b#c".toList] :=
    ⟨by decide +kernel, by decide +kernel, by decide +kernel⟩
  have hpatterns : patternsOf defaultPathPattern
      [.literal ['/'], .braced "a:(?x)b#c".toList] = ["(?x)b#c"] := by decide +kernel
  have halone : (Parsed.ofText "(?x)b#c".toList).toOption.any (fun _ => true) = true := by
    decide +kernel
  have hclosed : (Parsed.ofText ("(?x)b#c".toList ++ [')'])).toOption.any (fun _ => true) = true := by
    decide +kernel
  obtain ⟨parsed, hparsed, -⟩ := exists_ok_of_any halone
  obtain ⟨commented, hcommented, -⟩ := exists_ok_of_any hclosed
  obtain ⟨-, -, hverdict⟩ := compile_verdict false hsplit hnames
  rw [hpatterns] at hverdict
  obtain ⟨hrejected, -⟩ := hverdict [parsed] (.cons hparsed .nil)
  exact ⟨hsplit, hnames, ⟨parsed, hparsed⟩,
    hrejected.2 (Or.inl ⟨_, List.mem_singleton_self _, commented, hcommented⟩)⟩

/-- **Patterns that are expressions on their own** do not always make a template: here they have groups
of the same name. -/
theorem rejected_of_shared_name : ∃ pieces,
    Piece.split? "/{a:(?P<x>1)}/{b:(?P<x>2)}".toList = some pieces ∧
    WellNamed defaultPathPattern [] pieces ∧
    ¬(Rejected defaultPathPattern "/{a:(?P<x>1)}/{b:(?P<x>2)}" false [] ↔
      ∃ p ∈ patternsOf defaultPathPattern pieces, ¬Compiles p) := by
  have hsplit : Piece.split? "/{a:(?P<x>1)}/{b:(?P<x>2)}".toList =
      some [.literal ['/'], .braced "a:(?P<x>1)".toList, .literal ['/'],
        .braced "b:(?P<x>2)".toList] := by decide +kernel
  have hnames : WellNamed defaultPathPattern [] [.literal ['/'], .braced "a:(?P<x>1)".toList,
      .literal ['/'], .braced "b:(?P<x>2)".toList] :=
    ⟨by decide +kernel, by decide +kernel, by decide +kernel⟩
  have hrefused : (compile "/{a:(?P<x>1)}/{b:(?P<x>2)}" defaultPathPattern false
      []).toOption.isNone = true := by decide +kernel
  have halone : (patternsOf defaultPathPattern [.literal ['/'], .braced "a:(?P<x>1)".toList,
      .literal ['/'], .braced "b:(?P<x>2)".toList]).all
      (fun p => (Regex.compile p).toOption.any fun _ => true) = true := by decide +kernel
  refine ⟨_, hsplit, hnames, fun hiff => ?_⟩
  rcases compile_outcome false hsplit hnames with ⟨⟨t, ht⟩, -⟩ | ⟨hrejected, -⟩
  · rw [ht] at hrefused
    cases hrefused
  · obtain ⟨p, hp, hinvalid⟩ := hiff.1 hrejected
    obtain ⟨regex, hregex, -⟩ := exists_ok_of_any (List.all_eq_true.1 halone p hp)
    exact hinvalid ⟨regex, hregex⟩

end RequestRouter.Template
