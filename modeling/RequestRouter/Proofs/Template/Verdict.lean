import Mathlib.Tactic
import RequestRouter.Proofs.Template.Bounds
import RequestRouter.Proofs.Template.Checking
import RequestRouter.Proofs.Template.Expressions

/-!
# What becomes of a template

A template is read from left to right. The first part in braces that fails a check is reported, and for the
first check that it fails: a name and a pattern, a name that is not taken, a pattern that is an expression.
The expression of the whole template is compiled after all parts have passed.

* `SplitAtColon`: how a part in braces is split.
* `Passes`, `AllPass`, `Fails`: the checks of a part, and which one fails.
* `foldlM_add_cases`: the draft of a template fails for the first part that does.
* `Piece.Dissection`: the pieces of a text.
* `Reflects`, `Verdict`: a template that reflects its text, and everything that may become of a text.
* `compile_reads`: **a template is read as its grammar has it**, and nothing is lost.
-/

namespace RequestRouter.Template

variable {default text : String} {reserved taken : List String} {pieces : List Piece} {isPrefix : Bool}
  {body : List Char} {bodies : List (List Char)} {e : RouterError} {t : Template}

/-! ### One part in braces -/

/-- A part in braces is split at its first colon. Without one it is a name, and the pattern is the default
one. -/
def SplitAtColon (default : String) (body : List Char) : Prop :=
  ':' ∉ body ∧ nameAndPattern default body = (.ofList body, default) ∨
    ∃ name pattern, body = name ++ ':' :: pattern ∧ ':' ∉ name ∧
      nameAndPattern default body = (.ofList name, .ofList pattern)

theorem splitAtColon (default : String) (body : List Char) : SplitAtColon default body := by
  by_cases h : ':' ∈ body
  · obtain ⟨name, pattern, rfl, hname⟩ := List.eq_append_cons_of_mem h
    refine Or.inr ⟨name, pattern, rfl, hname, ?_⟩
    rw [nameAndPattern, Text.splitFirst_append hname]
    rfl
  · refine Or.inl ⟨h, ?_⟩
    rw [nameAndPattern, Text.splitFirst_of_not_mem h]
    rfl

/-- The name of a part in braces. -/
def nameOf (default : String) (body : List Char) : String :=
  (nameAndPattern default body).1

/-- A text is an expression that is small enough. -/
def Compiles (source : String) : Prop :=
  ∃ regex, Regex.compile source = .ok regex

/-- A part in braces passes its checks, when some names are taken. -/
structure Passes (default : String) (taken : List String) (body : List Char) : Prop where
  name_ne : nameOf default body ≠ ""
  pattern_ne : (nameAndPattern default body).2 ≠ ""
  free : nameOf default body ∉ taken
  validator : Compiles (validatorText (nameAndPattern default body).2)

/-- The parts in braces of a template pass their checks. The name of each is taken after it. -/
def AllPass (default : String) (taken : List String) (bodies : List (List Char)) : Prop :=
  ∀ earlier body later, bodies = earlier ++ body :: later →
    Passes default (taken ++ earlier.map (nameOf default)) body

/-- A part in braces fails a check that it comes to: its name or its pattern is empty, its name is taken, or
its pattern has no validator. -/
inductive Fails (default text : String) (taken : List String) (body : List Char) : RouterError → Prop
  | bad (h : nameOf default body = "" ∨ (nameAndPattern default body).2 = "") :
    Fails default text taken body (.badTemplatePart (.ofList (Piece.braced body).text))
  | duplicate (hname : nameOf default body ≠ "") (hpattern : (nameAndPattern default body).2 ≠ "")
    (h : nameOf default body ∈ taken) :
    Fails default text taken body (.duplicateVariable (nameOf default body))
  | rejected {e : Regex.PatternError} (hname : nameOf default body ≠ "")
    (hpattern : (nameAndPattern default body).2 ≠ "") (hfree : nameOf default body ∉ taken)
    (h : Regex.compile (validatorText (nameAndPattern default body).2) = .error e) :
    Fails default text taken body (.invalidPattern text (.rejected e))

/-- **A part in braces** is added to a draft if it passes its checks, and otherwise refused for the one that
it fails. -/
theorem add_cases (text default : String) (reserved : List String) (draft : Draft) (body : List Char) :
    (∃ next, Draft.add text default reserved draft (.braced body) = .ok next ∧
        next.vars.map (·.1) = draft.vars.map (·.1) ++ [nameOf default body] ∧
        Passes default (reserved ++ draft.vars.map (·.1)) body) ∨
      ∃ e, Draft.add text default reserved draft (.braced body) = .error e ∧
        Fails default text (reserved ++ draft.vars.map (·.1)) body e := by
  rw [add_eq]
  split
  · rename_i hempty
    exact Or.inr ⟨_, rfl, .bad hempty⟩
  · rename_i hempty
    obtain ⟨hname, hpattern⟩ := not_or.1 hempty
    split
    · rename_i htaken
      exact Or.inr ⟨_, rfl, .duplicate hname hpattern htaken⟩
    · rename_i hfree
      unfold compileRegex
      cases hvalidator : Regex.compile (validatorText (nameAndPattern default body).2) with
      | error e => exact Or.inr ⟨_, rfl, .rejected hname hpattern hfree hvalidator⟩
      | ok validator =>
        refine Or.inl ⟨_, rfl, ?_, hname, hpattern, hfree, validator, hvalidator⟩
        rw [List.map_append]
        rfl

/-! ### All parts in braces -/

theorem allPass_nil (default : String) (taken : List String) : AllPass default taken [] := by
  intro earlier body later h
  cases earlier <;> cases h

theorem allPass_cons : AllPass default taken (body :: bodies) ↔
    Passes default taken body ∧ AllPass default (taken ++ [nameOf default body]) bodies := by
  constructor
  · intro h
    refine ⟨?_, fun earlier other later hbodies => ?_⟩
    · simpa using h [] body bodies rfl
    · have hother := h (body :: earlier) other later (by rw [hbodies]; rfl)
      rwa [List.map_cons, List.append_cons] at hother
  · rintro ⟨hbody, hbodies⟩ earlier other later h
    cases earlier with
    | nil =>
      cases h
      simpa using hbody
    | cons first earlier =>
      cases h
      rw [List.map_cons, List.append_cons]
      exact hbodies earlier other later rfl

/-- **The draft of a template** fails for the first part that fails, and if none does it is made. -/
theorem foldlM_add_cases (text default : String) (reserved : List String) (pieces : List Piece)
    (draft : Draft) :
    (∃ next, pieces.foldlM (Draft.add text default reserved) draft = .ok next ∧
        AllPass default (reserved ++ draft.vars.map (·.1)) (pieces.filterMap Piece.body?)) ∨
      ∃ earlier body later e, pieces.filterMap Piece.body? = earlier ++ body :: later ∧
        AllPass default (reserved ++ draft.vars.map (·.1)) earlier ∧
        Fails default text (reserved ++ draft.vars.map (·.1) ++ earlier.map (nameOf default)) body e ∧
        pieces.foldlM (Draft.add text default reserved) draft = .error e := by
  induction pieces generalizing draft with
  | nil => exact Or.inl ⟨draft, rfl, allPass_nil _ _⟩
  | cons piece pieces ih =>
    cases piece with
    | literal literal => exact ih _
    | braced body =>
      rw [List.foldlM_cons, show (Piece.braced body :: pieces).filterMap Piece.body? =
        body :: pieces.filterMap Piece.body? from rfl]
      rcases add_cases text default reserved draft body with
        ⟨next, hnext, hnames, hpasses⟩ | ⟨e, he, hfails⟩
      · have hrest := ih next
        rw [hnames, ← List.append_assoc] at hrest
        rw [hnext]
        rcases hrest with ⟨last, hlast, hall⟩ | ⟨earlier, other, later, e, hbodies, hall, hfails, he⟩
        · exact Or.inl ⟨last, hlast, allPass_cons.2 ⟨hpasses, hall⟩⟩
        · refine Or.inr ⟨body :: earlier, other, later, e, by rw [hbodies]; rfl,
            allPass_cons.2 ⟨hpasses, hall⟩, ?_, he⟩
          rwa [List.map_cons, List.append_cons]
      · rw [he]
        refine Or.inr ⟨[], body, _, e, rfl, allPass_nil _ _, ?_, rfl⟩
        simpa using hfails

/-! ### The whole expression -/

/-- The expression of a whole template is refused, or the group of a variable is not in it. -/
inductive WholeFails (default : String) (isPrefix : Bool) (pieces : List Piece) : PatternFault → Prop
  | rejected {e : Regex.PatternError}
    (h : Regex.compile (wholeText default isPrefix pieces) = .error e) :
    WholeFails default isPrefix pieces (.rejected e)
  | groupMissing {regex : Regex} {index : Nat}
    (h : Regex.compile (wholeText default isPrefix pieces) = .ok regex)
    (hindex : index < (pieces.filterMap Piece.body?).length)
    (hmissing : some (groupName index) ∉ regex.groupNames) :
    WholeFails default isPrefix pieces (.groupMissing index)

/-- A template is drafted as its pieces say. -/
theorem draft_of_foldlM {draft : Draft} (isPrefix : Bool)
    (h : pieces.foldlM (Draft.add text default reserved) .start = .ok draft) :
    (if isPrefix then draft.pattern else draft.pattern ++ "$") = wholeText default isPrefix pieces ∧
      draft.vars.length = (patternsOf default pieces).length := by
  obtain ⟨htext, -, ⟨added, hvars, hdeclares⟩, -⟩ := foldlM_add h
  have hadded : draft.vars = added := hvars
  constructor
  · rw [← String.toList_inj]
    cases isPrefix <;> simp [htext, Draft.start, wholeText]
  · rw [hadded, hdeclares.length_eq, patternsOf, List.length_map]

theorem findGroup_eq_error {regex : Regex} {index : Nat} :
    findGroup text regex index = .error e ↔
      some (groupName index) ∉ regex.groupNames ∧ e = .invalidPattern text (.groupMissing index) := by
  have hnone : regex.groupNames.findIdx? (· == some (groupName index)) = none ↔
      some (groupName index) ∉ regex.groupNames := by
    simp only [List.findIdx?_eq_none_iff, beq_eq_false_iff_ne]
    exact ⟨fun h hmem => h _ hmem rfl, fun h name hname heq => h (heq ▸ hname)⟩
  rw [← hnone]
  unfold findGroup
  split
  · rename_i hfound
    simp [hfound]
  · rename_i hmissing
    simp [hmissing, eq_comm]

/-! ### Whole templates -/

/-- The pieces of a text: they make the text, no other pieces of the grammar do, and whatever stands in
balanced braces and covers a part in braces is the part itself. -/
structure Piece.Dissection (cs : List Char) (pieces : List Piece) : Prop where
  grammar : Grammar pieces
  text : pieces.flatMap Piece.text = cs
  unique : ∀ others, Grammar others → others.flatMap Piece.text = cs → others = pieces
  outermost : ∀ earlier body later before inner after, pieces = earlier ++ .braced body :: later →
    Balanced inner → before ++ (Piece.braced inner).text ++ after = cs →
    before.length ≤ (earlier.flatMap Piece.text).length →
    (earlier.flatMap Piece.text ++ (Piece.braced body).text).length ≤
      (before ++ (Piece.braced inner).text).length →
    before = earlier.flatMap Piece.text ∧ inner = body

theorem Piece.dissection {cs : List Char} (h : split? cs = some pieces) : Dissection cs pieces := by
  obtain ⟨hgrammar, rfl⟩ := split?_eq_some_iff.1 h
  refine ⟨hgrammar, rfl, fun others hothers htext => ?_, ?_⟩
  · rw [split?_eq_some_iff.2 ⟨hothers, htext⟩] at h
    exact Option.some.inj h
  · rintro earlier body later before inner after rfl hinner htext hstart hstop
    exact Piece.outermost hgrammar hinner htext hstart hstop

/-- A template reflects its text: its expression is that of the pieces, its variables are the parts in
braces, in order, and what it is built from is the text again if every variable is given the text of its
part. -/
structure Reflects (default text : String) (isPrefix : Bool) (reserved : List String)
    (pieces : List Piece) (t : Template) : Prop where
  text_eq : t.text = text
  isPrefix_eq : t.isPrefix = isPrefix
  source : t.regex.source = wholeText default isPrefix pieces
  segments : t.segments = segmentsFrom 0 pieces
  names : t.varNames = (pieces.filterMap Piece.body?).map (nameOf default)
  validators : t.vars.map (·.validator.source) = (patternsOf default pieces).map validatorText
  names_ne : "" ∉ t.varNames
  names_nodup : t.varNames.Nodup
  names_free : ∀ name ∈ t.varNames, name ∉ reserved
  refills : t.fill ((pieces.filterMap Piece.body?).map fun body => .ofList (Piece.braced body).text) =
    text

/-- **What may become of a text** with these pieces: the first part that fails is reported, or the
expression of the whole if all parts pass, or the template reflects its text. -/
inductive Verdict (default text : String) (isPrefix : Bool) (reserved : List String)
    (pieces : List Piece) : Except RouterError Template → Prop
  | part {earlier later : List (List Char)} {body : List Char} {e : RouterError}
    (hbodies : pieces.filterMap Piece.body? = earlier ++ body :: later)
    (hearlier : AllPass default reserved earlier)
    (hbody : Fails default text (reserved ++ earlier.map (nameOf default)) body e) :
    Verdict default text isPrefix reserved pieces (.error e)
  | whole {fault : PatternFault} (hparts : AllPass default reserved (pieces.filterMap Piece.body?))
    (hwhole : WholeFails default isPrefix pieces fault) :
    Verdict default text isPrefix reserved pieces (.error (.invalidPattern text fault))
  | template {t : Template} (hparts : AllPass default reserved (pieces.filterMap Piece.body?))
    (ht : Reflects default text isPrefix reserved pieces t) :
    Verdict default text isPrefix reserved pieces (.ok t)

theorem weave_text (pieces : List Piece) : Piece.weave pieces
    ((pieces.filterMap Piece.body?).map fun body => (Piece.braced body).text) =
      pieces.flatMap Piece.text := by
  induction pieces with
  | nil => rfl
  | cons piece pieces ih =>
    cases piece with
    | literal literal => exact congrArg (literal ++ ·) ih
    | braced body => exact congrArg ((Piece.braced body).text ++ ·) ih

theorem compile_of_error {text : String} (hsplit : Piece.split? text.toList = some pieces)
    (h : pieces.foldlM (Draft.add text default reserved) .start = .error e) :
    compile text default isPrefix reserved = .error e := by
  rw [compile_of_split? hsplit, h]
  rfl

/-- After the parts in braces, a template can only be refused for the expression of the whole. -/
theorem wholeFails_of_error {draft : Draft} (hsplit : Piece.split? text.toList = some pieces)
    (hdraft : pieces.foldlM (Draft.add text default reserved) .start = .ok draft)
    (h : compile text default isPrefix reserved = .error e) :
    ∃ fault, e = .invalidPattern text fault ∧ WholeFails default isPrefix pieces fault := by
  obtain ⟨hwhole, hlength⟩ := draft_of_foldlM isPrefix hdraft
  rw [compile_of_split? hsplit, hdraft] at h
  simp only [bind, Except.bind, hwhole, hlength, compileRegex] at h
  cases hregex : Regex.compile (wholeText default isPrefix pieces) with
  | error e' =>
    simp only [hregex] at h
    cases h
    exact ⟨_, rfl, .rejected hregex⟩
  | ok regex =>
    simp only [hregex] at h
    split at h
    · rename_i hgroups
      cases h
      obtain ⟨before, index, after, hrange, -, hindex⟩ := mapM_eq_error.1 hgroups
      have hmem : index ∈ List.range (patternsOf default pieces).length := by
        rw [hrange]
        exact List.mem_append_right _ List.mem_cons_self
      rw [List.mem_range, patternsOf, List.length_map] at hmem
      obtain ⟨hmissing, rfl⟩ := findGroup_eq_error.1 hindex
      exact ⟨_, rfl, .groupMissing hregex hmem hmissing⟩
    · cases h

/-- The expression of a template that compiles is that of its pieces. -/
theorem whole_of_compile (hsplit : Piece.split? text.toList = some pieces)
    (h : compile text default isPrefix reserved = .ok t) :
    Regex.compile (wholeText default isPrefix pieces) = .ok t.regex := by
  obtain ⟨pieces', draft, regex, groups, hsplit', hdraft, hregex, -, rfl⟩ := exists_of_compile h
  obtain rfl : pieces = pieces' := Option.some.inj (hsplit.symm.trans hsplit')
  rw [(draft_of_foldlM isPrefix hdraft).1] at hregex
  exact compile_of_compileRegex hregex

/-- **A template that compiles** reflects its text. -/
theorem reflects_of_compile (hsplit : Piece.split? text.toList = some pieces)
    (hparts : AllPass default reserved (pieces.filterMap Piece.body?))
    (h : compile text default isPrefix reserved = .ok t) :
    Reflects default text isPrefix reserved pieces t := by
  obtain ⟨hnodup, hfree⟩ := names_of_compile h
  obtain ⟨hsegments, hdeclared⟩ := declared_of_compile h hsplit
  have hnames : t.varNames = (pieces.filterMap Piece.body?).map (nameOf default) :=
    map_eq_map (hdeclared.imp fun _ _ hv => hv.1)
  refine ⟨text_of_compile h, isPrefix_of_compile h,
    source_of_compile (whole_of_compile hsplit h), hsegments, hnames, ?_, ?_,
    hnodup, hfree, ?_⟩
  · rw [patternsOf, List.map_map]
    exact map_eq_map (hdeclared.imp fun _ _ hv => source_of_compile hv.2)
  · rw [hnames]
    rintro hmem
    obtain ⟨body, hbody, hname⟩ := List.mem_map.1 hmem
    obtain ⟨earlier, later, hbodies⟩ := List.append_of_mem hbody
    exact (hparts earlier body later hbodies).name_ne hname
  · refine String.toList_inj.1 ?_
    rw [toList_fill hsegments, List.map_map, ← Piece.flatMap_text_of_split? hsplit, ← weave_text]
    congr 1
    exact List.map_congr_left fun body _ => String.toList_ofList

/-- **What becomes of a text** that has pieces. -/
theorem verdict_of_split? (hsplit : Piece.split? text.toList = some pieces) :
    Verdict default text isPrefix reserved pieces (compile text default isPrefix reserved) := by
  rcases foldlM_add_cases text default reserved pieces .start with
    ⟨draft, hdraft, hparts⟩ | ⟨earlier, body, later, e, hbodies, hearlier, hbody, he⟩
  · rw [show Draft.start.vars.map (·.1) = ([] : List String) from rfl, List.append_nil] at hparts
    cases h : compile text default isPrefix reserved with
    | error e =>
      obtain ⟨fault, rfl, hwhole⟩ := wholeFails_of_error hsplit hdraft h
      exact .whole hparts hwhole
    | ok t => exact .template hparts (reflects_of_compile hsplit hparts h)
  · rw [show Draft.start.vars.map (·.1) = ([] : List String) from rfl, List.append_nil]
      at hearlier hbody
    rw [compile_of_error hsplit he]
    exact .part hbodies hearlier hbody

/-- A text with pieces is not refused for its braces. -/
theorem Verdict.ne_unbalancedBraces {braces : String} :
    ¬Verdict default text isPrefix reserved pieces (.error (.unbalancedBraces braces)) := by
  rintro (⟨-, -, hbody⟩ | -)
  cases hbody

/-- **A template is read as its grammar has it.** It is refused for its braces exactly if one is closed before
it is opened, or not as many are closed as are opened. Otherwise it consists of literal text and of the
outermost parts in braces, in one way only, and slicing it at the byte offsets of these does not fail. Each
part is split at its first colon. The first part that fails a check is reported, for the first check that it
fails, and the expression of the whole only if there is none. Then the template has one variable for each
part, and is the text again with the parts in the place of the variables. -/
theorem compile_reads (text default : String) (isPrefix : Bool) (reserved : List String) :
    (∀ braces, compile text default isPrefix reserved = .error (.unbalancedBraces braces) ↔
      braces = text ∧ Unbalanced text.toList) ∧
    (bounds? text = none ↔ Unbalanced text.toList) ∧
    (Unbalanced text.toList ∨ ∃ pieces, Piece.Dissection text.toList pieces ∧ Sliced text pieces ∧
      (∀ body ∈ pieces.filterMap Piece.body?, SplitAtColon default body) ∧
      Verdict default text isPrefix reserved pieces (compile text default isPrefix reserved)) := by
  cases hsplit : Piece.split? text.toList with
  | none =>
    have hunbalanced := Piece.split?_eq_none_iff.1 hsplit
    have hcompile : compile text default isPrefix reserved = .error (.unbalancedBraces text) := by
      rw [compile, hsplit]
      rfl
    refine ⟨fun braces => ?_, bounds?_eq_none_iff, Or.inl hunbalanced⟩
    rw [hcompile, Except.error.injEq, RouterError.unbalancedBraces.injEq, eq_comm]
    exact (and_iff_left hunbalanced).symm
  | some pieces =>
    have hbalanced : ¬Unbalanced text.toList := by
      rw [← Piece.split?_eq_none_iff, hsplit]
      nofun
    have hverdict : Verdict default text isPrefix reserved pieces
        (compile text default isPrefix reserved) := verdict_of_split? hsplit
    refine ⟨fun braces => ⟨fun h => ?_, fun h => absurd h.2 hbalanced⟩, bounds?_eq_none_iff,
      Or.inr ⟨pieces, Piece.dissection hsplit, sliced_of_split? hsplit,
        fun body _ => splitAtColon default body, hverdict⟩⟩
    rw [h] at hverdict
    exact absurd hverdict Verdict.ne_unbalancedBraces

end RequestRouter.Template
