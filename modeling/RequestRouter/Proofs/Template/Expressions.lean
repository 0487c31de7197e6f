import Mathlib.Tactic
import RequestRouter.Proofs.Regex.Enclosing
import RequestRouter.Proofs.Template.Compiled

/-!
# When the expressions of a template are ones

Two kinds of expressions are made for a template: the validator of each variable, and the expression of
the whole. If the patterns of the variables are ones on their own, then so are these expressions, with
three exceptions: a pattern may end in an open comment, groups may have the same name, and the
expressions are nested deeper than the patterns.

* `Parser.Advances`: what a text does to a parser, and back from there.
* `validator_iff`, `validator_malformed`: **the validator of a variable.**
* `whole_iff`: **the expression of a whole template.**
-/

namespace RequestRouter

open Regex

namespace Regex.Parser

/-- A text takes a parser to a later state, whatever follows the text, by parts no deeper than `d`. It
does so if the names that it adds are new and different. -/
structure Advances (parser : Parser) (cs : List Char) (added : List String) (d : Nat)
    (later : Parser) : Prop where
  flags : later.flags = parser.flags
  branches : later.branches = parser.branches
  openGroups : later.openGroups = parser.openGroups
  names : (later.names.map (·.1)).Perm (added ++ parser.names.map (·.1))
  depth : ∀ item ∈ later.items, item ∈ parser.items ∨ item.node.depth ≤ d
  reaches : ∀ {more r}, parser.Ends (cs ++ more) r → later.Ends more r
  returns : (added ++ parser.names.map (·.1)).Nodup →
    ∀ {more r}, later.Ends more r → parser.Ends (cs ++ more) r

variable {parser later r s : Parser} {cs cs' : List Char} {added added' : List String} {d : Nat}

theorem Advances.refl (parser : Parser) (d : Nat) : parser.Advances [] [] d parser :=
  ⟨rfl, rfl, rfl, .refl _, fun _ => Or.inl, fun h => h, fun _ _ _ h => h⟩

theorem Advances.trans (h : parser.Advances cs added d later)
    (h' : later.Advances cs' added' d r) : parser.Advances (cs ++ cs') (added ++ added') d r := by
  have hnames : (added' ++ later.names.map (·.1)).Perm
      (added ++ added' ++ parser.names.map (·.1)) := by
    refine (h.names.append_left added').trans ?_
    rw [← List.append_assoc]
    exact List.perm_append_comm.append_right _
  refine ⟨h'.flags.trans h.flags, h'.branches.trans h.branches, h'.openGroups.trans h.openGroups,
    h'.names.trans hnames, ?_, ?_, ?_⟩
  · intro item hitem
    rcases h'.depth item hitem with hlater | hdeep
    · exact h.depth item hlater
    · exact Or.inr hdeep
  · intro more r hends
    rw [List.append_assoc] at hends
    exact h'.reaches (h.reaches hends)
  · intro hnodup more r hends
    rw [List.append_assoc]
    have hadded : (added ++ parser.names.map (·.1)).Nodup := by
      refine hnodup.sublist ?_
      exact (List.sublist_append_left _ _).append_right _
    exact h.returns hadded (h'.returns (hnames.nodup_iff.2 hnodup) hends)

/-- A part without nesting, where no flags have been switched. -/
theorem advances_leaf {c : Char} {token : Token} {p : Pattern} (hflags : parser.flags = .initial)
    (hnext : ∀ more, Token.next false c (cs ++ more) = .ok (token, more))
    (hstep : parser.step token = .ok (parser.pushLeaf p)) :
    parser.Advances (c :: cs) [] d (parser.pushLeaf p) := by
  have hverbose : parser.flags.verbose = false := by
    rw [hflags]
    rfl
  have hskip (more : List Char) : Layout.skip parser.flags.verbose (c :: more) = c :: more := by
    rw [hverbose]
    rfl
  refine ⟨rfl, rfl, rfl, .refl _, ?_, ?_, ?_⟩
  · intro item hitem
    rcases List.mem_cons.1 hitem with rfl | hitem
    · exact Or.inr (Nat.zero_le _)
    · exact Or.inl hitem
  · intro more r hends
    obtain ⟨next, hstep', hends'⟩ := hends.go_on (hskip _) (by rw [hverbose]; exact hnext more)
    rw [hstep] at hstep'
    cases hstep'
    exact hends'
  · intro _ more r hends
    exact .token (hskip _) (by rw [hverbose]; exact hnext more) hstep hends

/-- Escaped text. -/
theorem advances_escape (hflags : parser.flags = .initial) :
    ∃ later, parser.Advances (escapeChars cs) [] d later := by
  induction cs generalizing parser with
  | nil => exact ⟨parser, .refl parser d⟩
  | cons c cs ih =>
    have hstep : parser.step (.literal ⟨c, false⟩) = .ok (parser.pushLeaf (.char c)) := by
      rw [step, hflags]
      rfl
    have hchar : parser.Advances (if isMeta c then ['\\', c] else [c]) [] d
        (parser.pushLeaf (.char c)) := by
      split
      · rename_i hc
        exact advances_leaf hflags (next_of_meta hc) hstep
      · rename_i hc
        exact advances_leaf hflags (next_of_not_meta (by simpa using hc)) hstep
    have hrest : ∃ later, (parser.pushLeaf (.char c)).Advances (escapeChars cs) [] d later :=
      ih hflags
    obtain ⟨later, hlater⟩ := hrest
    exact ⟨later, hchar.trans hlater⟩

/-- What a group adds to the names around it. -/
theorem map_names_afterGroup {index : Option Nat} {k : Nat} {names : List (String × Nat)} :
    (parser.afterGroup index k names s).names.map (·.1) =
      s.names.map (·.1) ++ names.map (·.1) := by
  simp [afterGroup]

theorem depth_afterGroup {index : Option Nat} {k : Nat} {names : List (String × Nat)}
    (hd : s.node.depth + 1 ≤ d) :
    ∀ item ∈ (parser.afterGroup index k names s).items, item ∈ parser.items ∨ item.node.depth ≤ d := by
  intro item hitem
  rcases List.mem_cons.1 hitem with rfl | hitem
  · exact Or.inr hd
  · exact Or.inl hitem

/-- A capture group. -/
theorem advances_capture {name : String} {input : List Char} (hcloses : Closes cs s)
    (hs : Finished cs s) (hflags : parser.flags = .initial) (hd : s.node.depth + 1 ≤ d)
    (hnext : ∀ more, Token.next false '(' (input ++ more) =
      .ok (.openCapture (some name), cs ++ ')' :: more)) :
    parser.Advances ('(' :: input) (name :: s.names.map (·.1)) d
      (parser.afterGroup (some parser.groups) parser.groups ((name, parser.groups) :: parser.names)
        s) := by
  refine ⟨rfl, rfl, rfl, ?_, depth_afterGroup hd, ?_, ?_⟩
  · rw [map_names_afterGroup]
    exact List.perm_middle
  · intro more r hends
    exact hends.capture hcloses hs.closed hflags (hnext more)
  · intro hnodup more r hends
    rw [List.cons_append, List.nodup_cons, List.mem_append, not_or, List.nodup_append'] at hnodup
    obtain ⟨⟨hname, hnew⟩, -, -, hdisjoint⟩ := hnodup
    refine ends_capture hcloses hs hflags (hnext more) hnew ?_ hends
    exact List.disjoint_cons_right.2 ⟨hname, hdisjoint⟩

/-- A group that captures nothing. -/
theorem advances_plain {k : Nat} {input : List Char} (hcloses : Closes cs s) (hs : Finished cs s)
    (hflags : parser.flags = .initial) (hgroups : parser.groups = k + 1)
    (hd : s.node.depth + 1 ≤ d)
    (hnext : ∀ more, Token.next false '(' (input ++ more) =
      .ok (.openPlain [], cs ++ ')' :: more)) :
    parser.Advances ('(' :: input) (s.names.map (·.1)) d
      (parser.afterGroup none k parser.names s) := by
  refine ⟨rfl, rfl, rfl, ?_, depth_afterGroup hd, ?_, ?_⟩
  · rw [map_names_afterGroup]
  · intro more r hends
    exact hends.plain hcloses hs.closed hflags hgroups (hnext more)
  · intro hnodup more r hends
    exact ends_plain hcloses hs hflags hgroups (hnext more) (List.nodup_append'.1 hnodup).2.2 hends

/-- **A whole text** that the parser gets through is a pattern exactly if all its names are
different. -/
theorem Advances.finished (h : start.Advances cs added d later) :
    Finished cs r ↔ r = later ∧ added.Nodup := by
  have hperm : (later.names.map (·.1)).Perm added := by
    have hnames := h.names
    rwa [show start.names = [] from rfl, List.map_nil, List.append_nil] at hnames
  constructor
  · rintro ⟨hends, -⟩
    rw [← List.append_nil cs] at hends
    have hr := (h.reaches hends).eq_of_skip_nil (Layout.skip_nil _)
    subst hr
    exact ⟨rfl, hperm.nodup_iff.1 (numbered_start.ends hends).names_nodup⟩
  · rintro ⟨rfl, hnodup⟩
    have hdone : r.Ends [] r := .done (Layout.skip_nil _)
    have hends := h.returns (by simpa [start] using hnodup) hdone
    rw [List.append_nil] at hends
    exact ⟨hends, h.openGroups⟩

end Regex.Parser

namespace Template

open Regex.Parser

/-- The patterns of the variables of a template, in order. -/
def patternsOf (default : String) (pieces : List Piece) : List String :=
  (pieces.filterMap Piece.body?).map fun body => (nameAndPattern default body).2

/-- The names of all groups of a template, in order, from the variable `n` on: that of each variable's
own group, and those of the groups of its pattern. -/
def captureNames : Nat → List Parsed → List String
  | _, [] => []
  | n, parsed :: rest => groupName n :: (parsed.names.map (·.1) ++ captureNames (n + 1) rest)

variable {default : String} {pieces : List Piece} {s : Parser}

/-! ### The validator of a variable -/

theorem toList_validatorText (pattern : String) : (validatorText pattern).toList =
    ['^'] ++ (('(' :: '?' :: ':' :: (pattern.toList ++ [')'])) ++ ['$']) := by
  simp [validatorText]

theorem validator_read {pattern : String} (hs : Finished pattern.toList s)
    (hcloses : Closes pattern.toList s) : ∃ r, Finished (validatorText pattern).toList r ∧
      r.node.depth = s.node.depth + 2 := by
  have hcaret : start.Advances ['^'] [] (s.node.depth + 1) (start.pushLeaf (.assert .textStart)) :=
    advances_leaf rfl (fun more => rfl) rfl
  have hgroup : (start.pushLeaf (.assert .textStart)).Advances
      ('(' :: '?' :: ':' :: (pattern.toList ++ [')'])) (s.names.map (·.1)) (s.node.depth + 1)
      ((start.pushLeaf (.assert .textStart)).afterGroup none 0 [] s) := by
    refine advances_plain hcloses hs rfl rfl le_rfl fun more => ?_
    simpa using next_plain (pattern.toList ++ ')' :: more)
  have hdollar : ((start.pushLeaf (.assert .textStart)).afterGroup none 0 [] s).Advances ['$'] []
      (s.node.depth + 1) (((start.pushLeaf (.assert .textStart)).afterGroup none 0 [] s).pushLeaf
        (.assert .textEnd)) :=
    advances_leaf rfl (fun more => rfl) rfl
  have hwhole := hcaret.trans (hgroup.trans hdollar)
  rw [← toList_validatorText] at hwhole
  have hnodup := (numbered_start.ends hs.ends).names_nodup
  refine ⟨_, hwhole.finished.2 ⟨rfl, by simpa using hnodup⟩, ?_⟩
  -- the group stands between two anchors
  show [0, s.node.depth + 1, 0].foldl Nat.max 0 + 1 = _
  simp

theorem of_validator {pattern : String} {r : Parser}
    (h : Finished (validatorText pattern).toList r) :
    (∃ s, Finished pattern.toList s ∧ Closes pattern.toList s) ∨
      Parsed.ofText pattern.toList = .error .groupUnopened := by
  obtain ⟨hends, hopen⟩ := h
  rw [show (validatorText pattern).toList =
    '^' :: '(' :: '?' :: ':' :: (pattern.toList ++ ')' :: ['$']) by simp [validatorText]] at hends
  have hcaret := hends.anchor rfl (show Token.next false '^' _ = .ok (.anchor .caret, _) from rfl)
  have hinside := hcaret.open_plain rfl rfl (next_plain _)
  rcases ofText_of_enclosed hinside (List.cons_ne_nil _ _) hopen with ⟨s, hs⟩ | herror
  · exact Or.inl ⟨s, hs, closes_of_inside hs (List.cons_ne_nil _ _) (by decide) hinside hopen⟩
  · exact Or.inr herror

/-- **The validator of a pattern that is one on its own**: it is an expression, but for an open comment
and for how deep it is. -/
theorem validator_iff {pattern : String} {parsed : Parsed}
    (h : Parsed.ofText pattern.toList = .ok parsed) :
    (∃ validator, Parsed.ofText (validatorText pattern).toList = .ok validator) ↔
      ¬EndsInComment pattern.toList ∧ parsed.node.depth + 2 ≤ depthLimit := by
  obtain ⟨s, hs, hdepth, rfl⟩ := ofText_eq_ok_iff.1 h
  rw [← closes_iff hs hdepth]
  constructor
  · rintro ⟨validator, hvalidator⟩
    obtain ⟨r, hr, hdeep, -⟩ := ofText_eq_ok_iff.1 hvalidator
    rcases of_validator hr with ⟨s', hs', hcloses⟩ | herror
    · obtain rfl := hs'.ends.unique hs.ends
      obtain ⟨r', hr', hdepth'⟩ := validator_read hs hcloses
      obtain rfl := hr'.ends.unique hr.ends
      exact ⟨hcloses, hdepth' ▸ hdeep⟩
    · rw [h] at herror
      cases herror
  · rintro ⟨hcloses, hdeep⟩
    obtain ⟨r, hr, hdepth'⟩ := validator_read hs hcloses
    exact ⟨_, ofText_eq_ok_iff.2 ⟨r, hr, hdepth' ▸ hdeep, rfl⟩⟩

/-- **A pattern that is none on its own** has no validator, unless it closes a group that it has not
opened. -/
theorem validator_malformed {pattern : String} {e : PatternError}
    (h : Parsed.ofText pattern.toList = .error e) (he : e ≠ .groupUnopened) {validator : Parsed} :
    Parsed.ofText (validatorText pattern).toList ≠ .ok validator := by
  intro hvalidator
  obtain ⟨r, hr, hdeep, -⟩ := ofText_eq_ok_iff.1 hvalidator
  rcases of_validator hr with ⟨s, hs, hcloses⟩ | herror
  · obtain ⟨r', hr', hdepth⟩ := validator_read hs hcloses
    obtain rfl := hr'.ends.unique hr.ends
    rw [ofText_eq_ok_iff.2 ⟨s, hs, by omega, rfl⟩] at h
    cases h
  · rw [h] at herror
    exact he (Except.error.inj herror)

/-! ### The whole expression -/

/-- A pattern that is read alike in every group, with what it is on its own. -/
def Stands (pattern : String) (parsed : Parsed) : Prop :=
  ∃ s, Finished pattern.toList s ∧ Closes pattern.toList s ∧ parsed = ⟨s.node, s.names⟩

/-- The group of a variable. -/
theorem advances_groupText {n d : Nat} {pattern : String} {parser : Parser}
    (hs : Finished pattern.toList s) (hcloses : Closes pattern.toList s)
    (hflags : parser.flags = .initial) (hd : s.node.depth + 1 ≤ d) :
    ∃ later, parser.Advances (groupText n pattern).toList (groupName n :: s.names.map (·.1)) d
      later := by
  rw [toList_groupText]
  refine ⟨_, advances_capture hcloses hs hflags hd fun more => ?_⟩
  simpa using next_groupName n (pattern.toList ++ ')' :: more)

/-- **The expression of the pieces of a template**, from the variable `n` on. -/
theorem advances_expression {n d : Nat} {parsed : List Parsed} {parser : Parser}
    (hparsed : List.Forall₂ Stands (patternsOf default pieces) parsed)
    (hflags : parser.flags = .initial) (hd : ∀ q ∈ parsed, q.node.depth + 1 ≤ d) :
    ∃ later, parser.Advances (expressionText default n pieces) (captureNames n parsed) d later := by
  induction pieces generalizing n parsed parser with
  | nil =>
    cases hparsed
    exact ⟨parser, .refl parser d⟩
  | cons piece pieces ih =>
    cases piece with
    | literal text =>
      obtain ⟨mid, hmid⟩ := advances_escape hflags
      obtain ⟨later, hlater⟩ := ih hparsed (hmid.flags.trans hflags) hd
      exact ⟨later, hmid.trans hlater⟩
    | braced body =>
      cases hparsed with
      | cons hstands hrest =>
        obtain ⟨s, hs, hcloses, rfl⟩ := hstands
        obtain ⟨mid, hmid⟩ := advances_groupText hs hcloses hflags (hd _ List.mem_cons_self)
        obtain ⟨later, hlater⟩ := ih hrest (hmid.flags.trans hflags)
          fun q hq => hd q (List.mem_cons_of_mem _ hq)
        exact ⟨later, hmid.trans hlater⟩

/-- The whole expression of a template, between its anchors. -/
def wholeText (default : String) (isPrefix : Bool) (pieces : List Piece) : String :=
  .ofList ('^' :: (expressionText default 0 pieces ++ if isPrefix then [] else ['$']))

theorem toList_wholeText (default : String) (isPrefix : Bool) (pieces : List Piece) :
    (wholeText default isPrefix pieces).toList =
      '^' :: (expressionText default 0 pieces ++ if isPrefix then [] else ['$']) :=
  String.toList_ofList

theorem depth_sequence_le {nodes : List Node} {d : Nat} (h : ∀ node ∈ nodes, node.depth ≤ d) :
    (Node.sequence nodes).depth ≤ d + 1 := by
  match nodes, h with
  | [], _ => exact Nat.zero_le _
  | [node], h => exact Nat.le_succ_of_le (h node List.mem_cons_self)
  | a :: b :: nodes, h =>
    have hfold : ∀ (ds : List Nat) (m : Nat), m ≤ d → (∀ n ∈ ds, n ≤ d) → ds.foldl Nat.max m ≤ d := by
      intro ds
      induction ds with
      | nil => exact fun m hm _ => hm
      | cons n ds ih =>
        intro m hm hds
        exact ih _ (Nat.max_le.2 ⟨hm, hds n List.mem_cons_self⟩)
          fun n' hn' => hds n' (List.mem_cons_of_mem _ hn')
    refine Nat.succ_le_succ (hfold _ 0 (Nat.zero_le d) fun n hn => ?_)
    obtain ⟨node, hnode, rfl⟩ := List.mem_map.1 hn
    exact h node hnode

/-- **The whole expression** is one if all groups have different names and no pattern is too deep. -/
theorem whole_iff {isPrefix : Bool} {parsed : List Parsed}
    (hparsed : List.Forall₂ Stands (patternsOf default pieces) parsed)
    (hdepth : ∀ q ∈ parsed, q.node.depth + 2 ≤ depthLimit) :
    (∃ whole, Parsed.ofText (wholeText default isPrefix pieces).toList = .ok whole) ↔
      (captureNames 0 parsed).Nodup := by
  have hd : ∀ q ∈ parsed, q.node.depth + 1 ≤ depthLimit - 1 := fun q hq =>
    Nat.le_sub_of_add_le (hdepth q hq)
  have hcaret : start.Advances ['^'] [] (depthLimit - 1) (start.pushLeaf (.assert .textStart)) :=
    advances_leaf rfl (fun more => rfl) rfl
  obtain ⟨mid, hmid⟩ := advances_expression (n := 0) hparsed hcaret.flags hd
  have hend : ∃ later, mid.Advances (if isPrefix then [] else ['$']) [] (depthLimit - 1) later := by
    cases isPrefix with
    | true => exact ⟨mid, .refl mid _⟩
    | false =>
      have hflags : mid.flags = .initial := hmid.flags
      have hstep : mid.step (.anchor .dollar) = .ok (mid.pushLeaf (.assert .textEnd)) := by
        rw [step, hflags]
        rfl
      exact ⟨_, advances_leaf hflags (fun more => rfl) hstep⟩
  obtain ⟨later, hlater⟩ := hend
  have hwhole := hcaret.trans (hmid.trans hlater)
  have hnames : [] ++ (captureNames 0 parsed ++ []) = captureNames 0 parsed := by simp
  rw [hnames, List.singleton_append, ← toList_wholeText] at hwhole
  constructor
  · rintro ⟨whole, hok⟩
    obtain ⟨r, hr, -⟩ := ofText_eq_ok_iff.1 hok
    exact (hwhole.finished.1 hr).2
  · intro hnodup
    have hfinished := hwhole.finished.2 ⟨rfl, hnodup⟩
    refine ⟨_, ofText_eq_ok_iff.2 ⟨later, hfinished, ?_, rfl⟩⟩
    rw [node_of_branches_nil hwhole.branches]
    refine depth_sequence_le (d := depthLimit - 1) fun node hnode => ?_
    obtain ⟨item, hitem, rfl⟩ := List.mem_map.1 hnode
    exact (hwhole.depth item (List.mem_reverse.1 hitem)).resolve_left (by simp [start])

end Template

end RequestRouter
