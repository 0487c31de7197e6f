import Mathlib.Tactic
import RequestRouter.Proofs.Regex.Lexing
import RequestRouter.Proofs.Regex.Renumbering
import RequestRouter.Regex.Basic

/-!
# A pattern as a group of another one

A text that spells a pattern on its own spells the same pattern between the parentheses of a group,
and what follows the group is read as if the group were one part. The one exception is a text that
ends in an open comment, which swallows the closing parenthesis.

* `Parser.Ends`: where the parser gets to.
* `ends_inside`: **the state after the text**, inside a group.
* `Ends.capture`, `Ends.plain`: **a group and what follows it.**
-/

namespace RequestRouter.Regex

namespace Parser

/-- The states that the parser goes through: after a text it ends in the last of them. -/
inductive Ends : Parser → List Char → Parser → Prop
  | done {parser : Parser} {cs : List Char} (h : Layout.skip parser.flags.verbose cs = []) :
    Ends parser cs parser
  | token {parser next r : Parser} {cs rest after : List Char} {c : Char} {token : Token}
    (hskip : Layout.skip parser.flags.verbose cs = c :: rest)
    (hnext : Token.next parser.flags.verbose c rest = .ok (token, after))
    (hstep : parser.step token = .ok next) (h : Ends next after r) : Ends parser cs r

variable {parser r s : Parser} {cs : List Char}

theorem ends_of_run {fuel : Nat} (h : parser.run fuel cs = .ok r) : parser.Ends cs r := by
  induction fuel generalizing parser cs with
  | zero =>
    unfold run at h
    split at h
    · rename_i hskip
      cases h
      exact .done hskip
    · cases h
    · contradiction
  | succ fuel ih =>
    unfold run at h
    split at h
    · rename_i hskip
      cases h
      exact .done hskip
    · contradiction
    · rename_i c rest fuel' hskip heq
      cases heq
      obtain ⟨⟨token, after⟩, hnext, h⟩ := of_bind_ok h
      obtain ⟨next, hstep, h⟩ := of_bind_ok h
      exact .token hskip hnext hstep (ih h)

/-- At the end of a text the parser stays as it is. -/
theorem Ends.eq_of_skip_nil (h : parser.Ends cs r)
    (hskip : Layout.skip parser.flags.verbose cs = []) : r = parser := by
  cases h with
  | done => rfl
  | token hskip' => rw [hskip] at hskip'; cases hskip'

/-- Where a token is read, the parser goes on from there. -/
theorem Ends.go_on {c : Char} {rest after : List Char} {token : Token} (h : parser.Ends cs r)
    (hskip : Layout.skip parser.flags.verbose cs = c :: rest)
    (hnext : Token.next parser.flags.verbose c rest = .ok (token, after)) :
    ∃ next, parser.step token = .ok next ∧ next.Ends after r := by
  cases h with
  | done hskip' => rw [hskip] at hskip'; cases hskip'
  | token hskip' hnext' hstep hends =>
    rw [hskip] at hskip'
    cases hskip'
    rw [hnext] at hnext'
    cases hnext'
    exact ⟨_, hstep, hends⟩

/-- A text leads to one state only. -/
theorem Ends.unique (h : parser.Ends cs r) (h' : parser.Ends cs s) : r = s := by
  induction h with
  | done hskip => exact (h'.eq_of_skip_nil hskip).symm
  | token hskip hnext hstep _ ih =>
    obtain ⟨next, hstep', hends⟩ := h'.go_on hskip hnext
    rw [hstep] at hstep'
    cases hstep'
    exact ih hends

/-- What is read does not depend on the blanks and comments before it. -/
theorem Ends.congr {cs' : List Char} (h : parser.Ends cs r)
    (hskip : Layout.skip parser.flags.verbose cs = Layout.skip parser.flags.verbose cs') :
    parser.Ends cs' r := by
  cases h with
  | done hdone => exact .done (hskip.symm.trans hdone)
  | token hcons hnext hstep hends => exact .token (hskip.symm.trans hcons) hnext hstep hends

theorem skip_close (verbose : Bool) (more : List Char) :
    Layout.skip verbose (')' :: more) = ')' :: more := by
  cases verbose with
  | false => rfl
  | true =>
    have hblank : Layout.isBlank ')' = false := by decide
    show Layout.drop false (')' :: more) = _
    rw [Layout.drop, hblank, if_neg (by decide), if_neg (by decide)]

/-- **The state after a text inside a group** is the one after the same text on its own. Either the
closing parenthesis is then read next, or a comment has swallowed it with the rest of the line. Which
of the two does not depend on what is around the group. -/
theorem ends_inside (h : parser.Ends cs s) :
    (∀ k outer names more r, (parser.inside k outer names).Ends (cs ++ ')' :: more) r →
      (s.inside k outer names).Ends (')' :: more) r) ∨
    ∀ k outer names more r, '\n' ∉ more →
      (parser.inside k outer names).Ends (cs ++ ')' :: more) r → r = s.inside k outer names := by
  induction h with
  | @done parser cs hskip =>
    rcases hskip ▸ Layout.continues_skip parser.flags.verbose cs with hcont | ⟨-, hcont⟩
    · refine Or.inl fun k outer names more r hr => hr.congr ?_
      exact (hcont more).trans (skip_close _ more).symm
    · exact Or.inr fun k outer names more r hmore hr => hr.eq_of_skip_nil (hcont more hmore)
  | @token parser next s cs rest after c token hskip hnext hstep hends ih =>
    -- the same token is read inside the group, and it leads to the matching state
    have hgo : ∀ {k outer names more r rest'},
        Token.next parser.flags.verbose c (rest ++ ')' :: more) = .ok (token, rest') →
        (parser.inside k outer names).Ends (cs ++ ')' :: more) r →
        (next.inside k outer names).Ends rest' r := by
      intro k outer names more r rest' hnext' hr
      have hskip' := Layout.skip_kept hskip (List.cons_ne_nil _ _) more
      obtain ⟨next', hstep', hends'⟩ := hr.go_on hskip' hnext'
      rwa [step_inside hstep hstep'] at hends'
    rcases Token.continues_next hnext with hcont | ⟨rfl, hcont⟩
    · exact Or.imp
        (fun ih k outer names more r hr => ih k outer names more r (hgo (hcont more) hr))
        (fun ih k outer names more r hmore hr =>
          ih k outer names more r hmore (hgo (hcont more) hr)) ih
    · -- the token is the last of the text, and a comment after it swallows what follows
      refine Or.inr fun k outer names more r hmore hr => ?_
      have hs := hends.eq_of_skip_nil (Layout.skip_nil _)
      rw [(hgo (hcont more hmore) hr).eq_of_skip_nil (Layout.skip_nil _), hs]

/-! ### Whole texts -/

/-- A text is a pattern on its own: the parser ends with no group open. -/
structure Finished (cs : List Char) (s : Parser) : Prop where
  ends : start.Ends cs s
  closed : s.openGroups = []

/-- The pattern that has been read when no group is open. -/
def node (parser : Parser) : Node :=
  finish parser.branches parser.items

theorem finished_of_ofText {parsed : Parsed} (h : Parsed.ofText cs = .ok parsed) :
    ∃ s, Finished cs s ∧ parsed = ⟨s.node, s.names⟩ := by
  unfold Parsed.ofText at h
  obtain ⟨s, hrun, h⟩ := of_bind_ok h
  simp only at h
  split at h
  · cases h
  rename_i hopen
  split at h
  · cases h
  · cases h
    exact ⟨s, ⟨ends_of_run hrun, by simpa using hopen⟩, rfl⟩

/-- The state of a parser after a group, given where it was before it, the state after the text of
the group, and the names that were taken when the text began. -/
def afterGroup (before : Parser) (index : Option Nat) (k : Nat) (names : List (String × Nat))
    (s : Parser) : Parser :=
  { before with
    items := .part ⟨grouped index (s.node.pattern.renumber k), s.node.depth + 1⟩ :: before.items
    groups := s.groups + k
    names := s.names.map (fun e => (e.1, e.2 + k)) ++ names }

/-- The parenthesis that closes a group makes one part of it. -/
theorem Ends.close {before : Parser} {index : Option Nat} {k : Nat} {names : List (String × Nat)}
    {more : List Char} (hs : s.openGroups = [])
    (h : (s.inside k (⟨index, before.flags, before.branches, before.items⟩ :: before.openGroups)
      names).Ends (')' :: more) r) :
    (before.afterGroup index k names s).Ends more r := by
  obtain ⟨next, hstep, hends⟩ := h.go_on (skip_close _ more) rfl
  simp only [step, inside, hs, List.map_nil, List.nil_append] at hstep
  cases hstep
  rwa [finish_renumber] at hends

/-- **A text that is read alike in every group**: the closing parenthesis that follows it is read
after it. -/
def Closes (cs : List Char) (s : Parser) : Prop :=
  ∀ k outer names more r, (start.inside k outer names).Ends (cs ++ ')' :: more) r →
    (s.inside k outer names).Ends (')' :: more) r

/-- Where no group is left open, no comment has swallowed the closing parenthesis. -/
theorem closes_of_inside {k : Nat} {outer : List OpenGroup} {names : List (String × Nat)}
    {more : List Char} (hs : Finished cs s) (houter : outer ≠ []) (hmore : '\n' ∉ more)
    (h : (start.inside k outer names).Ends (cs ++ ')' :: more) r) (hr : r.openGroups = []) :
    Closes cs s := by
  rcases ends_inside hs.ends with hclose | hcomment
  · exact hclose
  · rw [hcomment _ _ _ _ _ hmore h] at hr
    exact absurd (List.append_eq_nil_iff.1 hr).2 houter

/-- The state right after the opening of a group where no flags have been switched. -/
theorem openGroup_eq (before : Parser) (index : Option Nat) (names : List (String × Nat)) {k : Nat}
    (hflags : before.flags = .initial) :
    { before.openGroup index before.flags with groups := k + 1, names := names } =
      start.inside k (⟨index, before.flags, before.branches, before.items⟩ :: before.openGroups)
        names := by
  simp [openGroup, start, inside, hflags, Nat.add_comm]

/-- **A capture group** where no flags have been switched: it is read as one part, with the groups
of its text after its own. -/
theorem Ends.capture {before : Parser} {name : String} {input more : List Char}
    (hcloses : Closes cs s) (hclosed : s.openGroups = []) (hflags : before.flags = .initial)
    (hnext : Token.next false '(' input = .ok (.openCapture (some name), cs ++ ')' :: more))
    (h : before.Ends ('(' :: input) r) :
    (before.afterGroup (some before.groups) before.groups ((name, before.groups) :: before.names)
      s).Ends more r := by
  have hverbose : before.flags.verbose = false := by rw [hflags]; rfl
  obtain ⟨next, hstep, hends⟩ := h.go_on (by rw [hverbose]; rfl) (by rw [hverbose]; exact hnext)
  simp only [step] at hstep
  split at hstep
  · cases hstep
  rw [← Except.ok.inj hstep, openGroup_eq before _ _ hflags] at hends
  exact (hcloses _ _ _ _ _ hends).close hclosed

/-- The opening of a group that captures nothing, where no flags have been switched. -/
theorem Ends.open_plain {before : Parser} {input : List Char} {k : Nat}
    (hflags : before.flags = .initial) (hgroups : before.groups = k + 1)
    (hnext : Token.next false '(' input = .ok (.openPlain [], cs)) (h : before.Ends ('(' :: input) r) :
    (start.inside k (⟨none, before.flags, before.branches, before.items⟩ :: before.openGroups)
      before.names).Ends cs r := by
  have hverbose : before.flags.verbose = false := by rw [hflags]; rfl
  obtain ⟨next, hstep, hends⟩ := h.go_on (by rw [hverbose]; rfl) (by rw [hverbose]; exact hnext)
  have hopen := openGroup_eq before none before.names (k := k) hflags
  rw [← hgroups] at hopen
  rw [← Except.ok.inj hstep] at hends
  exact hopen ▸ hends

/-- **A group that captures nothing**, where no flags have been switched. -/
theorem Ends.plain {before : Parser} {input more : List Char} {k : Nat}
    (hcloses : Closes cs s) (hclosed : s.openGroups = []) (hflags : before.flags = .initial)
    (hgroups : before.groups = k + 1)
    (hnext : Token.next false '(' input = .ok (.openPlain [], cs ++ ')' :: more))
    (h : before.Ends ('(' :: input) r) : (before.afterGroup none k before.names s).Ends more r :=
  (hcloses _ _ _ _ _ (h.open_plain hflags hgroups hnext)).close hclosed

end Parser

end RequestRouter.Regex
