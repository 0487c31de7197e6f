import Mathlib.Tactic
import RequestRouter.Proofs.Regex.Cutting
import RequestRouter.Proofs.Regex.Numbering

/-!
# A text on its own and between parentheses

A text that is read between the parentheses of a group is read on its own as well, unless it closes
that group itself. The other way round, a text that is a pattern on its own is read inside a group, as
long as none of its names is taken around the group and no comment is open at its end.

* `step_grows`, `step_of_inside`, `step_inside_of_fresh`: what one token does, inside and outside.
* `alone_of_enclosed`: **from between parentheses to the text on its own**.
* `Closes.enclosed`: **from the text on its own to between parentheses**.
* `closes_iff`: which texts end in an open comment.
-/

namespace RequestRouter.Regex.Parser

variable {parser r s t : Parser} {k : Nat} {outer : List OpenGroup} {names : List (String × Nat)}
  {cs : List Char} {token : Token}

/-! ### One token -/

/-- No token takes back a name, and only a closing parenthesis closes a group. -/
theorem step_grows (h : parser.step token = .ok s) :
    parser.names <:+ s.names ∧ (token = .close ∨ parser.openGroups <:+ s.openGroups) := by
  have hsame : parser.names <:+ parser.names ∧
      (token = .close ∨ parser.openGroups <:+ parser.openGroups) :=
    ⟨List.suffix_refl _, Or.inr (List.suffix_refl _)⟩
  have hpush {p : Except PatternError Pattern} {depth : Nat}
      (h : (do return parser.push ⟨← p, depth⟩ : Except PatternError Parser) = .ok s) :
      parser.names <:+ s.names ∧ (token = .close ∨ parser.openGroups <:+ s.openGroups) := by
    cases p with
    | error e => cases h
    | ok pattern =>
      cases h
      exact hsame
  cases token with
  | literal l => exact hpush h
  | dot => exact hpush h
  | anchor mark => exact hpush (p := .ok _) h
  | shorthand negated kind => exact hpush h
  | property negated query => exact hpush h
  | bracket e => exact hpush h
  | openCapture name =>
    simp only [step] at h
    split at h
    · cases h
      exact ⟨List.suffix_refl _, Or.inr (List.suffix_cons _ _)⟩
    split at h
    · cases h
    · cases h
      exact ⟨List.suffix_cons _ _, Or.inr (List.suffix_cons _ _)⟩
  | openPlain switches =>
    cases h
    exact ⟨List.suffix_refl _, Or.inr (List.suffix_cons _ _)⟩
  | close =>
    simp only [step] at h
    split at h
    · cases h
    · cases h
      exact ⟨List.suffix_refl _, Or.inl rfl⟩
  | repetition min max lazy =>
    simp only [step] at h
    split at h
    · cases h
      exact hsame
    · cases h
  | switch switches =>
    cases h
    exact hsame
  | bar =>
    cases h
    exact hsame

theorem isSome_lookup_iff {name : String} :
    (names.lookup name).isSome = true ↔ name ∈ names.map (·.1) := by
  rw [List.lookup_isSome_iff, List.mem_map]
  simp only [beq_iff_eq, @eq_comm _ name]

/-- The names of a parser inside a group. -/
theorem map_names_inside : (parser.inside k outer names).names.map (·.1) =
    parser.names.map (·.1) ++ names.map (·.1) := by
  simp [inside]

theorem of_push_result {before later : Parser} {p : Except PatternError Pattern} {depth : Nat}
    (h : (do return before.push ⟨← p, depth⟩ : Except PatternError Parser) = .ok t) :
    ∃ s, (do return later.push ⟨← p, depth⟩ : Except PatternError Parser) = .ok s := by
  cases p with
  | error e => cases h
  | ok pattern => exact ⟨_, rfl⟩

/-- **What is read inside a group is read on its own**, but for the parenthesis that closes it. -/
theorem step_of_inside (h : (parser.inside k outer names).step token = .ok t) :
    (∃ s, parser.step token = .ok s) ∨ token = .close ∧ parser.openGroups = [] := by
  cases token with
  | literal l => exact Or.inl (of_push_result h)
  | dot => exact Or.inl (of_push_result h)
  | shorthand negated kind => exact Or.inl (of_push_result h)
  | property negated query => exact Or.inl (of_push_result h)
  | bracket e => exact Or.inl (of_push_result h)
  | anchor mark => exact Or.inl ⟨_, rfl⟩
  | openPlain switches => exact Or.inl ⟨_, rfl⟩
  | switch switches => exact Or.inl ⟨_, rfl⟩
  | bar => exact Or.inl ⟨_, rfl⟩
  | openCapture name =>
    cases name with
    | none => exact Or.inl ⟨_, rfl⟩
    | some name =>
      simp only [step] at h ⊢
      split at h
      · cases h
      rename_i hfree
      rw [isSome_lookup_iff, map_names_inside, List.mem_append, not_or] at hfree
      exact Or.inl ⟨_, if_neg (mt isSome_lookup_iff.1 hfree.1)⟩
  | close =>
    cases hopen : parser.openGroups with
    | nil => exact Or.inr ⟨rfl, rfl⟩
    | cons group rest => exact Or.inl ⟨_, by rw [step, hopen]⟩
  | repetition min max lazy =>
    simp only [step, inside] at h ⊢
    cases hitems : parser.items with
    | nil =>
      rw [hitems] at h
      cases h
    | cons item items =>
      cases item with
      | flags =>
        rw [hitems] at h
        cases h
      | part node => exact Or.inl ⟨_, rfl⟩

/-- **What is read on its own is read inside a group**, if the name of a group is not taken there. -/
theorem step_inside_of_fresh (h : parser.step token = .ok s)
    (hfresh : (s.names.map (·.1)).Disjoint (names.map (·.1))) :
    (parser.inside k outer names).step token = .ok (s.inside k outer names) := by
  have hread : ∃ t, (parser.inside k outer names).step token = .ok t := by
    cases token with
    | literal l => exact of_push_result h
    | dot => exact of_push_result h
    | shorthand negated kind => exact of_push_result h
    | property negated query => exact of_push_result h
    | bracket e => exact of_push_result h
    | anchor mark => exact ⟨_, rfl⟩
    | openPlain switches => exact ⟨_, rfl⟩
    | switch switches => exact ⟨_, rfl⟩
    | bar => exact ⟨_, rfl⟩
    | openCapture name =>
      cases name with
      | none => exact ⟨_, rfl⟩
      | some name =>
        simp only [step] at h ⊢
        split at h
        · cases h
        rename_i hfree
        cases h
        refine ⟨_, if_neg ?_⟩
        rw [isSome_lookup_iff] at hfree
        rw [isSome_lookup_iff, map_names_inside, List.mem_append, not_or]
        exact ⟨hfree, List.disjoint_left.1 hfresh List.mem_cons_self⟩
    | close =>
      cases hopen : parser.openGroups with
      | nil =>
        rw [step, hopen] at h
        cases h
      | cons group rest => exact ⟨_, by simp only [step, inside, hopen]; rfl⟩
    | repetition min max lazy =>
      simp only [step] at h
      split at h
      · rename_i node items hitems
        exact ⟨_, by simp only [step, inside, hitems]; rfl⟩
      · cases h
  obtain ⟨t, ht⟩ := hread
  rw [ht, step_inside h ht]

theorem Ends.names_suffix (h : parser.Ends cs r) : parser.names <:+ r.names := by
  induction h with
  | done => exact List.suffix_refl _
  | token _ _ hstep _ ih => exact (step_grows hstep).1.trans ih

/-! ### From between parentheses to the text on its own -/

/-- The anchor after a text closes no group. -/
theorem Ends.openGroups_of_overrun (h : parser.Ends cs r) (hcs : Overrun cs) :
    r.openGroups = parser.openGroups := by
  rcases hcs with rfl | rfl
  · rw [h.eq_of_skip_nil (Layout.skip_nil _)]
  · obtain ⟨next, hstep, hends⟩ := h.go_on (Layout.skip_dollar _)
      (show Token.next parser.flags.verbose '$' [] = .ok (.anchor .dollar, []) from rfl)
    cases hstep
    rw [hends.eq_of_skip_nil (Layout.skip_nil _)]
    rfl

theorem skip_brace (verbose : Bool) (more : List Char) :
    Layout.skip verbose ('{' :: more) = '{' :: more := by
  cases verbose with
  | false => rfl
  | true =>
    have hblank : Layout.isBlank '{' = false := by decide
    show Layout.drop false ('{' :: more) = _
    rw [Layout.drop, hblank, if_neg (by decide), if_neg (by decide)]

/-- A repetition without a count is not read. -/
theorem not_ends_of_uncounted {cs' : List Char} {e : PatternError}
    (hread : Token.readRepetition parser.flags.verbose cs' = .error e) :
    ¬parser.Ends ('{' :: cs') r := by
  intro h
  cases h with
  | done hskip =>
    rw [skip_brace] at hskip
    cases hskip
  | token hskip hnext hstep hends =>
    rw [skip_brace] at hskip
    cases hskip
    rw [Token.next, hread] at hnext
    cases hnext

/-- A text closes a group that it has not opened. -/
def Unopened (parser : Parser) (cs : List Char) : Prop :=
  ∀ fuel, cs.length ≤ fuel → parser.run fuel cs = .error .groupUnopened

theorem unopened_of_next {c : Char} {tail after : List Char}
    (hskip : Layout.skip parser.flags.verbose cs = c :: tail)
    (hnext : Token.next parser.flags.verbose c tail = .ok (token, after))
    (h : ∀ fuel, after.length ≤ fuel → (parser.step token).bind (fun next => next.run fuel after) =
      .error .groupUnopened) : parser.Unopened cs := by
  intro fuel hfuel
  have hlength := (Layout.skip_suffix parser.flags.verbose cs).length_le
  have hafter := (Token.leaves_next parser.flags.verbose c tail token after hnext).length_le
  rw [hskip, List.length_cons] at hlength
  obtain ⟨fuel, rfl⟩ : ∃ k, fuel = k + 1 := ⟨fuel - 1, by omega⟩
  unfold run
  rw [hskip]
  simp only [hnext, bind, Except.bind]
  exact h fuel (by omega)

/-- **A text between parentheses is read on its own**, unless it closes the group around it. -/
theorem alone_of_enclosed (h : (parser.inside k outer names).Ends (cs ++ [')', '$']) r)
    (houter : outer ≠ []) (hr : r.openGroups = []) :
    (∃ s, parser.Ends cs s ∧ s.openGroups = []) ∨ parser.Unopened cs := by
  have hopen (parser : Parser) : (parser.inside k outer names).openGroups ≠ [] := by
    simp [inside, houter]
  generalize hp : parser.inside k outer names = p at h
  generalize hinput : cs ++ [')', '$'] = input at h
  induction h generalizing parser cs with
  | done hskip =>
    subst hp
    exact absurd hr (hopen parser)
  | @token p next r input rest after c token hskip hnext hstep hends ih =>
    subst hp hinput
    -- `parser` has the flags of the one inside
    have hflags : (parser.inside k outer names).flags = parser.flags := rfl
    rw [hflags] at hskip hnext
    rcases Layout.skip_cut parser.flags.verbose cs with hcut | ⟨-, hcut⟩
    swap
    · rw [hcut] at hskip
      cases hskip
    rw [hcut] at hskip
    cases hstart : Layout.skip parser.flags.verbose cs with
    | nil =>
      -- the text is at its end, and the parenthesis closes the group around it
      rw [hstart] at hskip
      cases hskip
      cases hnext
      refine Or.inl ⟨parser, .done hstart, ?_⟩
      have hrest := hends.openGroups_of_overrun (Or.inr rfl)
      rw [hr] at hrest
      cases hgroups : parser.openGroups with
      | nil => rfl
      | cons group groups =>
        simp only [step, inside, hgroups, List.map_cons, List.cons_append] at hstep
        cases hstep
        exact absurd (List.append_eq_nil_iff.1 hrest.symm).2 houter
    | cons d tail =>
      rw [hstart] at hskip
      cases hskip
      rcases Token.next_cut hnext with (⟨after', rfl, hread⟩ | ⟨hclose, hover⟩) | ⟨rfl, cs', e, rfl, he⟩
      · rcases step_of_inside hstep with ⟨s, hs⟩ | ⟨rfl, hnil⟩
        · rw [step_inside hs hstep] at ih
          rcases ih hr rfl rfl with ⟨s', hends', hclosed⟩ | hunopened
          · exact Or.inl ⟨s', .token hstart hread hs hends', hclosed⟩
          · refine Or.inr (unopened_of_next hstart hread ?_)
            intro fuel hfuel
            rw [hs]
            exact hunopened fuel hfuel
        · refine Or.inr (unopened_of_next hstart hread ?_)
          intro fuel hfuel
          rw [step, hnil]
          rfl
      · -- what is overrun leaves the group open
        have hgrows := (step_grows hstep).2.resolve_left hclose
        rw [← hends.openGroups_of_overrun hover, hr] at hgrows
        exact absurd (List.suffix_nil.1 hgrows) (hopen parser)
      · cases hstep
        exact absurd hends (not_ends_of_uncounted he)

/-- The same of a whole text: it is a pattern, but for how deep it is, or closes the group. -/
theorem ofText_of_enclosed (h : (start.inside k outer names).Ends (cs ++ [')', '$']) r)
    (houter : outer ≠ []) (hr : r.openGroups = []) :
    (∃ s, Finished cs s) ∨ Parsed.ofText cs = .error .groupUnopened := by
  rcases alone_of_enclosed h houter hr with ⟨s, hends, hclosed⟩ | hunopened
  · exact Or.inl ⟨s, hends, hclosed⟩
  · refine Or.inr ?_
    unfold Parsed.ofText
    rw [hunopened cs.length le_rfl]
    rfl

/-! ### From the text on its own to between parentheses -/

/-- **The state after a text on its own** is where the parser gets to inside a group as well, if no
name is taken there. Either the closing parenthesis is then read next, or a comment swallows it. -/
theorem inside_of_ends (h : parser.Ends cs s) :
    (∀ k outer names more r, (s.names.map (·.1)).Disjoint (names.map (·.1)) →
      (s.inside k outer names).Ends (')' :: more) r →
      (parser.inside k outer names).Ends (cs ++ ')' :: more) r) ∨
    ∀ k outer names more, (s.names.map (·.1)).Disjoint (names.map (·.1)) → '\n' ∉ more →
      (parser.inside k outer names).Ends (cs ++ ')' :: more) (s.inside k outer names) := by
  induction h with
  | @done parser cs hskip =>
    rcases hskip ▸ Layout.continues_skip parser.flags.verbose cs with hcont | ⟨-, hcont⟩
    · refine Or.inl fun k outer names more r hfresh hr => hr.congr ?_
      exact (skip_close _ more).trans (hcont more).symm
    · exact Or.inr fun k outer names more hfresh hmore => .done (hcont more hmore)
  | @token parser next s cs rest after c token hskip hnext hstep hends ih =>
    -- the same token is read inside the group
    have hgo : ∀ {k outer names more r rest'}, (s.names.map (·.1)).Disjoint (names.map (·.1)) →
        Token.next parser.flags.verbose c (rest ++ ')' :: more) = .ok (token, rest') →
        (next.inside k outer names).Ends rest' r →
        (parser.inside k outer names).Ends (cs ++ ')' :: more) r := by
      intro k outer names more r rest' hfresh hnext' hr
      have hsubset := (hends.names_suffix.map (·.1)).subset
      have hstep' : (parser.inside k outer names).step token = .ok (next.inside k outer names) :=
        step_inside_of_fresh hstep (List.disjoint_of_subset_left hsubset hfresh)
      exact .token (Layout.skip_kept hskip (List.cons_ne_nil _ _) more) hnext' hstep' hr
    rcases Token.continues_next hnext with hcont | ⟨rfl, hcont⟩
    · rcases ih with ih | ih
      · exact Or.inl fun k outer names more r hfresh hr =>
          hgo hfresh (hcont more) (ih k outer names more r hfresh hr)
      · exact Or.inr fun k outer names more hfresh hmore =>
          hgo hfresh (hcont more) (ih k outer names more hfresh hmore)
    · -- the token is the last of the text, and a comment after it swallows what follows
      refine Or.inr fun k outer names more hfresh hmore => hgo hfresh (hcont more hmore) ?_
      rw [hends.eq_of_skip_nil (Layout.skip_nil _)]
      exact .done (Layout.skip_nil _)

/-- No parenthesis is closed where no group is open. -/
theorem not_ends_close {more : List Char} (hs : s.openGroups = []) :
    ¬(s.inside k [] names).Ends (')' :: more) r := by
  intro h
  obtain ⟨next, hstep, -⟩ := h.go_on (skip_close _ more) rfl
  simp [step, inside, hs] at hstep

/-- **A text that is read alike in every group** is read in each, if no name is taken there. -/
theorem Closes.enclosed {more : List Char} (hcloses : Closes cs s) (hs : Finished cs s)
    (hfresh : (s.names.map (·.1)).Disjoint (names.map (·.1)))
    (h : (s.inside k outer names).Ends (')' :: more) r) :
    (start.inside k outer names).Ends (cs ++ ')' :: more) r := by
  rcases inside_of_ends hs.ends with hread | hcomment
  · exact hread k outer names more r hfresh h
  · -- if a comment swallowed the parenthesis, it would do so where no group is open
    have hend := hcomment 0 [] [] [] (by simp) (by simp)
    exact absurd (hcloses _ _ _ _ _ hend) (not_ends_close hs.closed)

/-- The parenthesis that closes a group makes one part of it. -/
theorem step_close_inside {before : Parser} {index : Option Nat} (hs : s.openGroups = []) :
    (s.inside k (⟨index, before.flags, before.branches, before.items⟩ :: before.openGroups)
      names).step .close = .ok (before.afterGroup index k names s) := by
  simp only [step, inside, hs, List.map_nil, List.nil_append, finish_renumber]
  rfl

/-- A group whose text has been read is one part of what is around it. -/
theorem ends_close {before : Parser} {index : Option Nat} {more : List Char}
    (hs : s.openGroups = []) (h : (before.afterGroup index k names s).Ends more r) :
    (s.inside k (⟨index, before.flags, before.branches, before.items⟩ :: before.openGroups)
      names).Ends (')' :: more) r :=
  .token (skip_close _ more) rfl (step_close_inside hs) h

theorem node_inside : (s.inside k outer names).node = s.node.renumber k :=
  finish_renumber s.branches s.items

/-- A text ends in an open comment: a closing parenthesis after it is not read, so that the text with
the parenthesis is a pattern as well. -/
def EndsInComment (cs : List Char) : Prop :=
  ∃ parsed, Parsed.ofText (cs ++ [')']) = .ok parsed

theorem start_inside : start.inside 0 [] [] = start := rfl

/-- **A comment at the end of a text** is the only thing that a closing parenthesis after it can be
lost to. -/
theorem closes_iff (hs : Finished cs s) (hdepth : s.node.depth ≤ depthLimit) :
    Closes cs s ↔ ¬EndsInComment cs := by
  constructor
  · rintro hcloses ⟨parsed, hparsed⟩
    obtain ⟨s', hs', -⟩ := ofText_eq_ok_iff.1 hparsed
    have hends := hs'.ends
    rw [← start_inside] at hends
    exact not_ends_close hs.closed (hcloses _ _ _ _ _ hends)
  · intro hcomment
    rcases ends_inside hs.ends with hcloses | hswallowed
    · exact hcloses
    · exfalso
      rcases inside_of_ends hs.ends with hread | hend
      · -- a group is left open or not, but not both
        have hend : (start.afterGroup none 0 [] s).Ends [] (start.afterGroup none 0 [] s) :=
          .done (Layout.skip_nil _)
        have hclosed := hread 0 _ [] [] _ (by simp) (ends_close hs.closed hend)
        have heq := congrArg openGroups (hswallowed _ _ _ _ _ (by simp) hclosed)
        simp [afterGroup, inside, hs.closed, start] at heq
      · have hends := hend 0 [] [] [] (by simp) (by simp)
        rw [start_inside] at hends
        refine hcomment ⟨_, ofText_eq_ok_iff.2 ⟨_, ⟨hends, by simp [inside, hs.closed]⟩, ?_, rfl⟩⟩
        rw [node_inside]
        exact hdepth

/-! ### Groups -/

/-- **A capture group is read**, where no flags have been switched, if its name and those of its text
are new. -/
theorem ends_capture {before : Parser} {name : String} {input more : List Char}
    (hcloses : Closes cs s) (hs : Finished cs s) (hflags : before.flags = .initial)
    (hnext : Token.next false '(' input = .ok (.openCapture (some name), cs ++ ')' :: more))
    (hname : name ∉ before.names.map (·.1))
    (hfresh : (s.names.map (·.1)).Disjoint (name :: before.names.map (·.1)))
    (h : (before.afterGroup (some before.groups) before.groups ((name, before.groups) :: before.names)
      s).Ends more r) : before.Ends ('(' :: input) r := by
  have hverbose : before.flags.verbose = false := by
    rw [hflags]
    rfl
  have hnames : (s.names.map (·.1)).Disjoint
      (((name, before.groups) :: before.names).map (·.1)) := hfresh
  have hinside := hcloses.enclosed hs hnames (ends_close hs.closed h)
  rw [← openGroup_eq before _ _ hflags] at hinside
  refine .token (by rw [hverbose]; rfl) (by rw [hverbose]; exact hnext) ?_ hinside
  exact if_neg (mt isSome_lookup_iff.1 hname)

/-- **A group that captures nothing is read** in the same way. -/
theorem ends_plain {before : Parser} {input more : List Char} (hcloses : Closes cs s)
    (hs : Finished cs s) (hflags : before.flags = .initial) (hgroups : before.groups = k + 1)
    (hnext : Token.next false '(' input = .ok (.openPlain [], cs ++ ')' :: more))
    (hfresh : (s.names.map (·.1)).Disjoint (before.names.map (·.1)))
    (h : (before.afterGroup none k before.names s).Ends more r) : before.Ends ('(' :: input) r := by
  have hverbose : before.flags.verbose = false := by
    rw [hflags]
    rfl
  have hinside := hcloses.enclosed hs hfresh (ends_close hs.closed h)
  rw [← openGroup_eq before _ _ hflags, ← hgroups] at hinside
  exact .token (by rw [hverbose]; rfl) (by rw [hverbose]; exact hnext) rfl hinside

end RequestRouter.Regex.Parser
