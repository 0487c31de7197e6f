import Mathlib.Tactic
import RequestRouter.Proofs.Regex.Grouping

/-!
# Reading consumes a text from its start

What is left after a token is the end of the text that it was read from, and shorter than it. So the
length of a text is fuel enough to read it to its end.

* `Leaves`: what a reader leaves is the end of what it was given.
* `leaves_readBody`, `leaves_next`: bracket expressions and tokens.
* `run_of_ends`: **a text is read as far as its tokens go.**
-/

namespace RequestRouter.Regex

/-- A reader leaves the end of the text that it was given. -/
def Leaves {α : Type} (f : List Char → Except PatternError (α × List Char)) : Prop :=
  ∀ cs x after, f cs = .ok (x, after) → after <:+ cs

/-- A reader that goes on where another one has stopped. -/
theorem Leaves.bind {α β : Type} {f : List Char → Except PatternError (α × List Char)}
    {g : α → List Char → Except PatternError (β × List Char)} (hf : Leaves f)
    (hg : ∀ x, Leaves (g x)) : Leaves fun cs => (f cs).bind fun r => g r.1 r.2 := by
  intro cs y after h
  simp only at h
  obtain ⟨r, hr, h⟩ := of_bind_ok h
  exact (hg r.1 r.2 y after h).trans (hf cs r.1 r.2 hr)

namespace Layout

theorem drop_suffix (inComment : Bool) (cs : List Char) : drop inComment cs <:+ cs := by
  fun_induction drop inComment cs with
  | case1 => exact List.suffix_refl _
  | case2 c rest ih => exact ih.trans (List.suffix_cons c rest)
  | case3 c rest hb ih => exact ih.trans (List.suffix_cons c rest)
  | case4 rest hb ih => exact ih.trans (List.suffix_cons _ rest)
  | case5 => exact List.suffix_refl _

theorem skip_suffix (verbose : Bool) (cs : List Char) : skip verbose cs <:+ cs := by
  unfold skip
  split
  · exact drop_suffix false cs
  · exact List.suffix_refl cs

theorem takeWhile_suffix (verbose : Bool) (test : Char → Bool) (inComment : Bool) (cs : List Char) :
    (takeWhile verbose test inComment cs).2 <:+ cs := by
  fun_induction takeWhile verbose test inComment cs with
  | case1 => exact List.suffix_refl _
  | case2 c rest ih => exact ih.trans (List.suffix_cons c rest)
  | case3 c rest hb ih => exact ih.trans (List.suffix_cons c rest)
  | case4 c rest hb hc ih => exact ih.trans (List.suffix_cons c rest)
  | case5 c rest hb hc ht run after heq ih =>
    rw [heq] at ih
    exact ih.trans (List.suffix_cons c rest)
  | case6 => exact List.suffix_refl _

theorem takeCount_suffix {verbose : Bool} {n : Nat} {cs run after : List Char}
    (h : takeCount verbose n cs = some (run, after)) : after <:+ cs := by
  induction n generalizing cs run with
  | zero =>
    cases h
    exact List.suffix_refl _
  | succ n ih =>
    cases cs with
    | nil => cases h
    | cons c rest =>
      rw [takeCount] at h
      obtain ⟨⟨run', after'⟩, hrun, heq⟩ := Option.map_eq_some_iff.1 h
      cases heq
      exact ((ih hrun).trans (skip_suffix verbose rest)).trans (List.suffix_cons c rest)

end Layout

namespace Token

open Layout (skip skip_suffix takeWhile_suffix takeCount_suffix)

theorem readLazy_suffix (cs : List Char) : (readLazy cs).2 <:+ cs := by
  unfold readLazy
  split
  · exact List.suffix_cons _ _
  · exact List.suffix_refl _

theorem leaves_readCount (verbose : Bool) : Leaves (readCount verbose) := by
  intro cs n after h
  have hdigits := takeWhile_suffix verbose Char.isDigit false (cs.dropWhile Layout.isBlank)
  have hblank := hdigits.trans (List.dropWhile_suffix Layout.isBlank)
  unfold readCount at h
  simp only at h
  split at h
  · cases h
  split at h
  · cases h
  cases h
  split
  · exact hblank
  · exact (List.dropWhile_suffix _).trans hblank

theorem leaves_closeRepetition (verbose : Bool) (min : Nat) (max : Option Nat) :
    Leaves (closeRepetition verbose min max) := by
  intro cs t after h
  unfold closeRepetition at h
  split at h
  · rename_i rest
    simp only at h
    split at h
    · cases h
    cases h
    exact ((readLazy_suffix _).trans (skip_suffix verbose rest)).trans (List.suffix_cons _ rest)
  · cases h

theorem leaves_afterComma (verbose : Bool) (min : Nat) : Leaves (afterComma verbose min) := by
  intro cs t after h
  unfold afterComma at h
  split at h
  · cases h
  · exact leaves_closeRepetition verbose min none _ t after h
  · exact (leaves_readCount verbose).bind
      (fun max => leaves_closeRepetition verbose min (some max)) _ t after h

theorem leaves_afterCount (verbose : Bool) (min : Nat) : Leaves (afterCount verbose min) := by
  intro cs t after h
  unfold afterCount at h
  split at h
  · rename_i rest
    have hcomma := leaves_afterComma verbose min _ t after h
    exact (hcomma.trans (skip_suffix verbose rest)).trans (List.suffix_cons _ rest)
  · exact leaves_closeRepetition verbose min (some min) _ t after h

theorem leaves_readRepetition (verbose : Bool) : Leaves (readRepetition verbose) := by
  intro cs t after h
  rw [readRepetition_eq] at h
  have hcount := (leaves_readCount verbose).bind (leaves_afterCount verbose) _ t after h
  exact hcount.trans (skip_suffix verbose cs)

theorem span_suffix {test : Char → Bool} {cs run after : List Char}
    (h : cs.span test = (run, after)) : after <:+ cs := by
  rw [List.span_eq_takeWhile_dropWhile] at h
  cases h
  exact List.dropWhile_suffix test

theorem leaves_readName : Leaves readName := by
  intro cs t after h
  unfold readName at h
  split at h
  · cases h
  · rename_i c name close rest hspan
    split at h
    · cases h
      exact (List.suffix_cons close after).trans (span_suffix hspan)
    · cases h
  · cases h

theorem readFlags_suffix {cs after : List Char} {on dangling : Bool}
    {switches found : List (Flag × Bool)} {c : Char}
    (h : readFlags cs on dangling switches = .ok (found, c, after)) : after <:+ cs := by
  fun_induction readFlags cs on dangling switches with
  | case1 => cases h
  | case2 => cases h
  | case3 c' rest =>
    cases h
    exact List.suffix_cons _ _
  | case4 rest dangling switches hend ih => exact (ih h).trans (List.suffix_cons _ _)
  | case5 => cases h
  | case6 => cases h
  | case7 => cases h
  | case8 c' rest on dangling switches hend hminus flag hflag hnew ih =>
    exact (ih h).trans (List.suffix_cons _ _)

theorem leaves_readGroup (verbose : Bool) : Leaves (readGroup verbose) := by
  intro cs t after h
  refine List.IsSuffix.trans ?_ (skip_suffix verbose cs)
  unfold readGroup at h
  split at h
  · cases h
  · cases h
  · cases h
  · cases h
  · rename_i rest hskip
    rw [hskip]
    have hname := leaves_readName rest t after h
    exact hname.trans (List.suffix_append ['?', 'P', '<'] rest)
  · rename_i rest _ _ hskip
    rw [hskip]
    have hname := leaves_readName rest t after h
    exact hname.trans (List.suffix_append ['?', '<'] rest)
  · rename_i rest _ _ _ _ _ _ hskip
    rw [hskip]
    obtain ⟨⟨switches, c, after'⟩, hflags, h⟩ := of_bind_ok h
    have hsuffix := (readFlags_suffix hflags).trans (List.suffix_cons '?' rest)
    split at h
    · rename_i heq
      cases heq
      cases h
      exact hsuffix
    · cases h
    · rename_i heq
      cases heq
      cases h
      exact hsuffix
  · cases h
    exact List.suffix_refl _

/-! ### Escapes -/

theorem leaves_ofHex (verbose : Bool) (count : Nat) : Leaves (ofHex verbose count) := by
  intro cs t after h
  refine List.IsSuffix.trans ?_ (skip_suffix verbose cs)
  unfold ofHex at h
  split at h
  · cases h
  · rename_i rest hskip
    rw [hskip]
    split at h
    · rename_i digits close after' hdigits
      have htake := takeWhile_suffix verbose (· != '}') false rest
      rw [hdigits] at htake
      obtain ⟨c, hc, h⟩ := of_bind_ok h
      cases h
      have hafter := (skip_suffix verbose after').trans (List.suffix_cons close after')
      exact (hafter.trans htake).trans (List.suffix_cons '{' rest)
    · cases h
  · split at h
    · cases h
    · rename_i digits after' hdigits
      obtain ⟨c, hc, h⟩ := of_bind_ok h
      cases h
      exact takeCount_suffix hdigits

theorem leaves_ofProperty (verbose negated : Bool) : Leaves (ofProperty verbose negated) := by
  intro cs t after h
  refine List.IsSuffix.trans ?_ (skip_suffix verbose cs)
  unfold ofProperty at h
  split at h
  · cases h
  · rename_i rest hskip
    rw [hskip]
    split at h
    · rename_i query close after' hquery
      have htake := takeWhile_suffix verbose (· != '}') false rest
      rw [hquery] at htake
      cases h
      exact ((List.suffix_cons close after).trans htake).trans (List.suffix_cons '{' rest)
    · cases h
  · cases h
  · rename_i c rest _ _ hskip
    rw [hskip]
    cases h
    exact (skip_suffix verbose rest).trans (List.suffix_cons c rest)

theorem leaves_ofBoundary (verbose : Bool) : Leaves (ofBoundary verbose) := by
  intro cs t after h
  unfold ofBoundary at h
  split at h
  · rename_i rest
    split at h
    · cases h
    · rename_i c rest' hskip
      split at h
      · split at h
        · rename_i name after' hname
          have htake := takeWhile_suffix verbose isBoundaryChar false (c :: rest')
          rw [hname] at htake
          rw [← hskip] at htake
          have hafter := ((List.suffix_cons '}' after').trans htake).trans (skip_suffix verbose rest)
          split at h
          · cases h
            exact hafter.trans (List.suffix_cons '{' rest)
          · cases h
        · cases h
      · cases h
        exact List.suffix_refl _
  · cases h
    exact List.suffix_refl _

theorem leaves_ofEscape (verbose : Bool) : Leaves (ofEscape verbose) := by
  intro cs t after h
  cases cs with
  | nil => cases h
  | cons c rest =>
    refine List.IsSuffix.trans ?_ (List.suffix_cons c rest)
    unfold ofEscape at h
    simp only at h
    split at h
    · cases h
    split at h
    · cases h
      exact List.suffix_refl _
    -- all other escapes read one letter and nothing else
    split at h
    case h_1 => exact leaves_ofHex verbose 2 rest t after h
    case h_2 => exact leaves_ofHex verbose 4 rest t after h
    case h_3 => exact leaves_ofHex verbose 8 rest t after h
    case h_4 => exact leaves_ofProperty verbose false rest t after h
    case h_5 => exact leaves_ofProperty verbose true rest t after h
    case h_20 => exact leaves_ofBoundary verbose rest t after h
    case h_24 => cases h
    all_goals
      cases h
      exact List.suffix_refl _

end Token

/-! ### Bracket expressions -/

namespace ClassExpr

open Layout (skip skip_suffix takeWhile_suffix)

theorem pastCaret_suffix (verbose : Bool) (cs : List Char) : (pastCaret verbose cs).2 <:+ cs := by
  unfold pastCaret
  split
  · rename_i rest
    exact (skip_suffix verbose rest).trans (List.suffix_cons _ rest)
  · exact List.suffix_refl _

theorem readOpening_suffix {verbose negated : Bool} {cs after : List Char} {items : List ClassExpr}
    (h : readOpening verbose cs = .ok (negated, items, after)) : after <:+ cs := by
  rw [readOpening_eq] at h
  have hcaret := (pastCaret_suffix verbose (skip verbose cs)).trans (skip_suffix verbose cs)
  refine List.IsSuffix.trans ?_ hcaret
  generalize (pastCaret verbose (skip verbose cs)).2 = start at h
  have htake := takeWhile_suffix verbose (· == '-') false start
  unfold firstItems at h
  split at h
  · cases h
  · rename_i rest _ hrest
    rw [hrest] at htake
    split at h
    · cases h
    · cases h
      exact ((skip_suffix verbose rest).trans (List.suffix_cons _ rest)).trans htake
  · cases h
    exact htake

theorem readPosix?_suffix {cs after : List Char} {e : ClassExpr}
    (h : readPosix? cs = some (e, after)) : after <:+ cs := by
  cases cs with
  | nil => cases h
  | cons c rest =>
    by_cases hc : c = ':'
    · subst hc
      rw [readPosix?_colon] at h
      refine List.IsSuffix.trans ?_ (List.suffix_cons _ rest)
      have hnegation : (pastNegation rest).2 <:+ rest := by
        unfold pastNegation
        split
        · exact List.suffix_cons _ _
        · exact List.suffix_refl _
      refine List.IsSuffix.trans ?_ hnegation
      unfold namedClass? at h
      split at h
      · rename_i name after' hspan
        obtain ⟨kind, -, heq⟩ := Option.map_eq_some_iff.1 h
        cases heq
        exact (List.suffix_append [':', ']'] after).trans (Token.span_suffix hspan)
      · cases h
    · simp_all [readPosix?]

/-- An item takes one character at least. -/
theorem readItem_suffix {verbose : Bool} {c : Char} {rest after : List Char} {e : ClassExpr}
    (h : readItem verbose (c :: rest) = .ok (e, after)) : after <:+ rest := by
  by_cases hc : c = '\\'
  · subst hc
    rw [readItem_escape] at h
    obtain ⟨⟨t, mid⟩, hescape, h⟩ := of_bind_ok h
    obtain ⟨rfl, -⟩ := itemOf_eq_ok h
    exact Token.leaves_ofEscape verbose rest t _ hescape
  · rw [readItem_of_ne hc] at h
    cases h
    exact List.suffix_refl _

theorem afterHyphen_suffix (verbose : Bool) (first : ClassExpr) {rest after : List Char}
    {e : ClassExpr} (h : afterHyphen verbose first rest = .ok (e, after)) : after <:+ '-' :: rest := by
  unfold afterHyphen at h
  split at h
  · cases h
    exact List.suffix_refl _
  split at h
  · cases h
  refine List.IsSuffix.trans ?_ (List.suffix_cons _ rest)
  refine List.IsSuffix.trans ?_ (skip_suffix verbose rest)
  cases hskip : skip verbose rest with
  | nil => contradiction
  | cons c tail =>
    rw [hskip] at h
    obtain ⟨⟨second, after'⟩, hitem, h⟩ := of_bind_ok h
    obtain ⟨rfl, -⟩ := rangeOf_eq_ok h
    exact (readItem_suffix hitem).trans (List.suffix_cons c tail)

theorem leaves_afterItem (verbose : Bool) (first : ClassExpr) : Leaves (afterItem verbose first) := by
  intro cs e after h
  unfold afterItem at h
  split at h
  · cases h
  · exact afterHyphen_suffix verbose first h
  · cases h
    exact List.suffix_refl _

/-- So does an item that may be a range. -/
theorem readRange_suffix {verbose : Bool} {c : Char} {rest after : List Char} {e : ClassExpr}
    (h : readRange verbose (c :: rest) = .ok (e, after)) : after <:+ rest := by
  obtain ⟨⟨first, mid⟩, hitem, -⟩ := of_bind_ok h
  rw [readRange_of_readItem hitem] at h
  have hafter := leaves_afterItem verbose first _ e after h
  exact (hafter.trans (skip_suffix verbose mid)).trans (readItem_suffix hitem)

/-- **A bracket expression** leaves the end of its text, however long it may go on. -/
theorem leaves_readBody (verbose : Bool) (fuel : Nat) (frames : List ClassFrame)
    (items : List ClassExpr) : Leaves (readBody verbose fuel frames items) := by
  intro cs e after h
  induction fuel generalizing frames items cs with
  | zero => cases h
  | succ fuel ih =>
    refine List.IsSuffix.trans ?_ (skip_suffix verbose cs)
    rw [readBody] at h
    simp only at h
    split at h
    case h_1 => cases h
    case h_2 rest hskip =>
      -- an inner bracket, which may be a class by its name
      rw [hskip]
      refine List.IsSuffix.trans ?_ (List.suffix_cons _ rest)
      split at h
      · rename_i item after' hposix
        exact (ih _ _ _ h).trans (readPosix?_suffix hposix)
      · obtain ⟨⟨negated, first, after'⟩, hopen, h⟩ := of_bind_ok h
        exact (ih _ _ _ h).trans (readOpening_suffix hopen)
    case h_3 rest hskip =>
      rw [hskip]
      refine List.IsSuffix.trans ?_ (List.suffix_cons _ rest)
      split at h
      · cases h
        exact List.suffix_refl _
      · exact ih _ _ _ h
      · cases h
    case h_4 rest hskip =>
      rw [hskip]
      exact (ih _ _ _ h).trans (List.suffix_append ['&', '&'] rest)
    case h_5 rest hskip =>
      rw [hskip]
      exact (ih _ _ _ h).trans (List.suffix_append ['-', '-'] rest)
    case h_6 rest hskip =>
      rw [hskip]
      exact (ih _ _ _ h).trans (List.suffix_append ['~', '~'] rest)
    case h_7 =>
      cases hskip : skip verbose cs with
      | nil => contradiction
      | cons c tail =>
        rw [hskip] at h
        obtain ⟨⟨item, after'⟩, hrange, h⟩ := of_bind_ok h
        have hrest := (ih _ _ _ h).trans (readRange_suffix hrange)
        exact hrest.trans (List.suffix_cons c tail)

theorem leaves_read (verbose : Bool) : Leaves (read verbose) := by
  intro cs e after h
  unfold read at h
  obtain ⟨⟨negated, first, rest⟩, hopen, h⟩ := of_bind_ok h
  exact (leaves_readBody verbose _ _ _ rest e after h).trans (readOpening_suffix hopen)

end ClassExpr

/-! ### Tokens -/

theorem Token.simpleRepetition_suffix (min : Nat) (max : Option Nat) (cs : List Char) :
    (simpleRepetition min max cs).2 <:+ cs := by
  unfold simpleRepetition
  exact readLazy_suffix cs

/-- **A token** takes its first character at least. -/
theorem Token.leaves_next (verbose : Bool) (c : Char) : Leaves (next verbose c) := by
  intro cs t after h
  have hrepetition (min : Nat) (max : Option Nat)
      (h : .ok (simpleRepetition min max cs) = (.ok (t, after) : Except PatternError _)) :
      after <:+ cs := by
    have hsuffix := simpleRepetition_suffix min max cs
    rw [Except.ok.inj h] at hsuffix
    exact hsuffix
  unfold next at h
  split at h
  case h_1 => exact leaves_readGroup verbose cs t after h
  case h_4 =>
    obtain ⟨⟨e, after'⟩, hread, h⟩ := of_bind_ok h
    cases h
    exact ClassExpr.leaves_read verbose cs e _ hread
  case h_5 => exact hrepetition _ _ h
  case h_6 => exact hrepetition _ _ h
  case h_7 => exact hrepetition _ _ h
  case h_8 => exact leaves_readRepetition verbose cs t after h
  case h_9 => exact leaves_ofEscape verbose cs t after h
  all_goals
    cases h
    exact List.suffix_refl _

/-- **A token takes a character** at least. -/
theorem Token.length_after {verbose : Bool} {c : Char} {cs rest after : List Char} {token : Token}
    (hskip : Layout.skip verbose cs = c :: rest) (hnext : next verbose c rest = .ok (token, after)) :
    after.length < cs.length := by
  have hlength := (Layout.skip_suffix verbose cs).length_le
  have hafter := (Token.leaves_next verbose c rest token after hnext).length_le
  rw [hskip, List.length_cons] at hlength
  omega

namespace Parser

/-- **A text is read as far as its tokens go**, since each of them takes a character. -/
theorem run_of_ends {parser r : Parser} {cs : List Char} (h : parser.Ends cs r) {fuel : Nat}
    (hfuel : cs.length ≤ fuel) : parser.run fuel cs = .ok r := by
  induction h generalizing fuel with
  | done hskip =>
    unfold run
    rw [hskip]
  | @token parser next r cs rest after c token hskip hnext hstep _ ih =>
    have hshorter := Token.length_after hskip hnext
    obtain ⟨fuel', rfl⟩ : ∃ fuel', fuel = fuel' + 1 := ⟨fuel - 1, by omega⟩
    unfold run
    rw [hskip]
    simp only [hnext, hstep, bind, Except.bind]
    exact ih (by omega)

/-- **A text is a pattern on its own** exactly if the parser ends with no group open, and not too deep. -/
theorem ofText_eq_ok_iff {cs : List Char} {parsed : Parsed} : Parsed.ofText cs = .ok parsed ↔
    ∃ s, Finished cs s ∧ s.node.depth ≤ depthLimit ∧ parsed = ⟨s.node, s.names⟩ := by
  unfold Parsed.ofText
  constructor
  · intro h
    obtain ⟨s, hrun, h⟩ := of_bind_ok h
    simp only at h
    split at h
    · cases h
    rename_i hopen
    split at h
    · cases h
    rename_i hdepth
    cases h
    exact ⟨s, ⟨ends_of_run hrun, by simpa using hopen⟩, not_lt.1 hdepth, rfl⟩
  · rintro ⟨s, ⟨hends, hclosed⟩, hdepth, rfl⟩
    simp only [run_of_ends hends le_rfl, bind, Except.bind, hclosed, List.isEmpty_nil]
    exact if_neg (not_lt.2 hdepth)

end Parser

end RequestRouter.Regex
