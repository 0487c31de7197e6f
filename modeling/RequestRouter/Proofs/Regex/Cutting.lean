import Mathlib.Tactic
import RequestRouter.Proofs.Regex.Consuming

/-!
# Reading without what follows

The pattern of a variable is checked between parentheses and anchors, so what is read there may depend
on the closing parenthesis and the anchor after it. A token that is read from the longer text is read
from the pattern alone as well, unless it reaches into what follows the pattern. There is one more way:
a brace after a word boundary at the end of the pattern, which then starts a repetition that has no
count.

* `Cuts`: a reader that gets on with the longer text gets on with the shorter one, or overruns it.
* `read_cut`: bracket expressions, which never overrun.
* `next_cut`: **the first token of a text.**
-/

namespace RequestRouter.Regex

/-- Reading has gone into what follows a text, of which at most the anchor is left. -/
def Overrun (rest : List Char) : Prop :=
  rest = [] ∨ rest = ['$']

theorem Overrun.suffix {rest : List Char} (h : Overrun rest) : rest <:+ [')', '$'] := by
  rcases h with rfl | rfl
  · exact List.nil_suffix
  · exact List.suffix_cons _ _

/-- What a reader makes of a text that `)$` follows, it makes of the text alone, or it overruns. -/
def Cuts {α : Type} (f : List Char → Except PatternError (α × List Char)) : Prop :=
  ∀ cs x rest, f (cs ++ [')', '$']) = .ok (x, rest) →
    (∃ after, rest = after ++ [')', '$'] ∧ f cs = .ok (x, after)) ∨ Overrun rest

/-- A reader of tokens as `Cuts` says, of which what is overrun is no closing parenthesis. -/
def CutsTokens (f : List Char → Except PatternError (Token × List Char)) : Prop :=
  ∀ cs t rest, f (cs ++ [')', '$']) = .ok (t, rest) →
    (∃ after, rest = after ++ [')', '$'] ∧ f cs = .ok (t, after)) ∨ t ≠ .close ∧ Overrun rest

/-- A reader that goes on where another one has stopped. It gets nothing out of what the first one
overran. -/
theorem Cuts.bind {α : Type} {f : List Char → Except PatternError (α × List Char)}
    {g : α → List Char → Except PatternError (Token × List Char)} (hf : Cuts f)
    (hg : ∀ x, CutsTokens (g x)) (hover : ∀ x cs r, Overrun cs → g x cs ≠ .ok r) :
    CutsTokens fun cs => (f cs).bind fun r => g r.1 r.2 := by
  intro cs t rest h
  simp only at h
  obtain ⟨⟨x, mid⟩, hread, h⟩ := of_bind_ok h
  have h : g x mid = .ok (t, rest) := h
  rcases hf cs x mid hread with ⟨after, rfl, hafter⟩ | hmid
  · simp only [hafter]
    exact hg x after t rest h
  · exact absurd h (hover x mid _ hmid)

namespace Layout

theorem skip_cut (verbose : Bool) (cs : List Char) :
    skip verbose (cs ++ [')', '$']) = skip verbose cs ++ [')', '$'] ∨
      skip verbose cs = [] ∧ skip verbose (cs ++ [')', '$']) = [] := by
  rcases continues_skip verbose cs with h | ⟨hnil, h⟩
  · exact Or.inl (h ['$'])
  · exact Or.inr ⟨hnil, h ['$'] (by decide)⟩

theorem skip_ending (verbose : Bool) : skip verbose [')', '$'] = [')', '$'] :=
  Parser.skip_close verbose ['$']

theorem skip_dollar (verbose : Bool) : skip verbose ['$'] = ['$'] := by
  cases verbose <;> decide

theorem takeWhile_cut (verbose : Bool) (test : Char → Bool) (inComment : Bool) (cs : List Char) :
    takeWhile verbose test inComment (cs ++ [')', '$']) =
        ((takeWhile verbose test inComment cs).1,
          (takeWhile verbose test inComment cs).2 ++ [')', '$']) ∨
      (takeWhile verbose test inComment cs).2 = [] ∧
        Overrun (takeWhile verbose test inComment (cs ++ [')', '$'])).2 := by
  have hblank : isBlank ')' = false ∧ isBlank '$' = false := by decide
  fun_induction takeWhile verbose test inComment cs with
  | case1 inComment =>
    cases inComment with
    | true => exact Or.inr ⟨rfl, Or.inl (by simp [takeWhile])⟩
    | false =>
      by_cases hclose : test ')' = true
      · refine Or.inr ⟨rfl, ?_⟩
        by_cases hdollar : test '$' = true
        · exact Or.inl (by simp [takeWhile, hblank, hclose, hdollar])
        · exact Or.inr (by simp [takeWhile, hblank, hclose, hdollar])
      · exact Or.inl (by simp [takeWhile, hblank, hclose])
  | case2 c rest ih => simpa [takeWhile] using ih
  | case3 c rest hb ih => simpa [takeWhile, hb] using ih
  | case4 c rest hb hc ih => simpa [takeWhile, hb, hc] using ih
  | case5 c rest hb hc ht run after heq ih =>
    rw [heq] at ih
    rw [List.cons_append, takeWhile, if_neg hb, if_neg hc, if_pos ht]
    rcases ih with ih | ⟨hnil, ih⟩
    · rw [ih]
      exact Or.inl rfl
    · exact Or.inr ⟨hnil, ih⟩
  | case6 c rest hb hc ht => exact Or.inl (by simp [takeWhile, hb, hc, ht])

theorem takeCount_cut {verbose : Bool} {n : Nat} {cs run rest : List Char}
    (h : takeCount verbose n (cs ++ [')', '$']) = some (run, rest)) :
    (∃ after, rest = after ++ [')', '$'] ∧ takeCount verbose n cs = some (run, after)) ∨
      Overrun rest := by
  induction n generalizing cs run with
  | zero =>
    cases h
    exact Or.inl ⟨cs, rfl, rfl⟩
  | succ n ih =>
    cases cs with
    | nil =>
      -- the parenthesis is taken, and perhaps the anchor
      rw [List.nil_append, takeCount, skip_dollar] at h
      obtain ⟨⟨run', rest'⟩, hrun, heq⟩ := Option.map_eq_some_iff.1 h
      cases heq
      cases n with
      | zero =>
        cases hrun
        exact Or.inr (Or.inr rfl)
      | succ n =>
        rw [takeCount, skip_nil] at hrun
        obtain ⟨⟨run', rest'⟩, hrun, heq⟩ := Option.map_eq_some_iff.1 hrun
        cases heq
        cases n with
        | zero =>
          cases hrun
          exact Or.inr (Or.inl rfl)
        | succ n => cases hrun
    | cons c tail =>
      rw [List.cons_append, takeCount] at h
      obtain ⟨⟨run', rest'⟩, hrun, heq⟩ := Option.map_eq_some_iff.1 h
      cases heq
      rcases skip_cut verbose tail with hskip | ⟨-, hskip⟩
      · rw [hskip] at hrun
        rcases ih hrun with ⟨after, hrest, hafter⟩ | hover
        · refine Or.inl ⟨after, hrest, ?_⟩
          rw [takeCount, hafter]
          rfl
        · exact Or.inr hover
      · rw [hskip] at hrun
        cases n with
        | zero =>
          cases hrun
          exact Or.inr (Or.inl rfl)
        | succ n => cases hrun

end Layout

theorem span_cut {test : Char → Bool} (hclose : test ')' = true) (hdollar : test '$' = true)
    {cs run rest : List Char} {c : Char} (h : (cs ++ [')', '$']).span test = (run, c :: rest)) :
    ∃ after, rest = after ++ [')', '$'] ∧ cs.span test = (run, c :: after) := by
  rw [List.span_eq_takeWhile_dropWhile] at h
  induction cs generalizing run with
  | nil => simp [hclose, hdollar] at h
  | cons d cs ih =>
    by_cases hd : test d = true
    · simp only [List.cons_append, List.takeWhile_cons, List.dropWhile_cons, hd, if_true] at h
      cases run with
      | nil => simp at h
      | cons d' run =>
        simp only [Prod.mk.injEq, List.cons.injEq] at h
        obtain ⟨⟨rfl, htake⟩, hdrop⟩ := h
        obtain ⟨after, hrest, hspan⟩ := ih (Prod.ext htake hdrop)
        refine ⟨after, hrest, ?_⟩
        rw [List.span_eq_takeWhile_dropWhile] at hspan ⊢
        simp only [Prod.mk.injEq] at hspan
        simp [hd, hspan]
    · simp only [List.cons_append, List.takeWhile_cons, List.dropWhile_cons, hd] at h
      cases h
      exact ⟨cs, rfl, by simp [List.span_eq_takeWhile_dropWhile, hd]⟩

/-- A reader that goes on past blanks and comments, and that does not read nothing. -/
theorem CutsTokens.skip {f : List Char → Except PatternError (Token × List Char)}
    (hf : CutsTokens f) (hnil : ∀ r, f [] ≠ .ok r) (verbose : Bool) :
    CutsTokens fun cs => f (Layout.skip verbose cs) := by
  intro cs t rest h
  simp only at h
  rcases Layout.skip_cut verbose cs with hskip | ⟨-, hskip⟩
  · rw [hskip] at h
    exact hf _ t rest h
  · -- a comment has swallowed what follows the text
    rw [hskip] at h
    exact absurd h (hnil _)

namespace Token

open Layout (skip skip_cut skip_ending skip_dollar takeWhile_cut)

theorem readLazy_cut (cs : List Char) :
    readLazy (cs ++ [')', '$']) = ((readLazy cs).1, (readLazy cs).2 ++ [')', '$']) := by
  cases cs with
  | nil => rfl
  | cons c rest =>
    by_cases hc : c = '?'
    · subst hc
      rfl
    · simp [readLazy, hc]

theorem simpleRepetition_cut (min : Nat) (max : Option Nat) :
    CutsTokens fun cs => .ok (simpleRepetition min max cs) := by
  intro cs t rest h
  simp only [simpleRepetition, readLazy_cut] at h
  cases h
  exact Or.inl ⟨_, rfl, rfl⟩

theorem dropWhile_blank_cut (cs : List Char) :
    (cs ++ [')', '$']).dropWhile Layout.isBlank = cs.dropWhile Layout.isBlank ++ [')', '$'] := by
  have hblank : Layout.isBlank ')' = false := by decide
  rw [List.dropWhile_append]
  split
  · rename_i hempty
    rw [List.isEmpty_iff.1 hempty]
    simp [hblank]
  · rfl

theorem readCount_cut (verbose : Bool) : Cuts (readCount verbose) := by
  intro cs n rest h
  unfold readCount at h ⊢
  simp only [dropWhile_blank_cut] at h ⊢
  rcases takeWhile_cut verbose Char.isDigit false (cs.dropWhile Layout.isBlank) with hcut | ⟨-, hover⟩
  · rw [hcut] at h
    simp only [dropWhile_blank_cut] at h
    split at h
    · cases h
    rename_i hdigits
    split at h
    · cases h
    rename_i hlarge
    cases h
    refine Or.inl ⟨_, ?_, by rw [if_neg hdigits, if_neg hlarge]⟩
    split <;> rfl
  · split at h
    · cases h
    split at h
    · cases h
    cases h
    have hdollar : ['$'].dropWhile Layout.isBlank = ['$'] := by decide
    rcases hover with hnil | hrest
    · rw [hnil]
      exact Or.inr (Or.inl (by simp))
    · rw [hrest, hdollar]
      exact Or.inr (Or.inr (by simp))

theorem closeRepetition_cut (verbose : Bool) (min : Nat) (max : Option Nat) :
    CutsTokens (closeRepetition verbose min max) := by
  intro cs t rest h
  cases cs with
  | nil => cases h
  | cons c tail =>
    by_cases hc : c = '}'
    · subst hc
      rw [List.cons_append] at h
      simp only [closeRepetition] at h ⊢
      split at h
      · cases h
      rename_i hmax
      rcases skip_cut verbose tail with hskip | ⟨-, hskip⟩
      · rw [hskip, readLazy_cut] at h
        cases h
        exact Or.inl ⟨_, rfl, if_neg hmax⟩
      · rw [hskip] at h
        cases h
        exact Or.inr ⟨by simp, Or.inl rfl⟩
    · simp [closeRepetition, hc] at h

theorem closeRepetition_overrun {verbose : Bool} {min : Nat} {max : Option Nat} {cs : List Char}
    {r : Token × List Char} (hcs : Overrun cs) : closeRepetition verbose min max cs ≠ .ok r := by
  rcases hcs with rfl | rfl <;> simp [closeRepetition]

theorem readCount_overrun (verbose : Bool) {cs : List Char} (hcs : Overrun cs) :
    ∃ e, readCount verbose cs = .error e := by
  rcases hcs with rfl | rfl <;> cases verbose <;> exact ⟨_, rfl⟩

theorem readCount_ending (verbose : Bool) :
    readCount verbose [')', '$'] = .error .repetitionNoCount := by
  cases verbose <;> rfl

theorem afterComma_of_ne {verbose : Bool} {min : Nat} {c : Char} (hc : c ≠ '}') (rest : List Char) :
    afterComma verbose min (c :: rest) = (readCount verbose (c :: rest)).bind fun r =>
      closeRepetition verbose min (some r.1) r.2 := by
  unfold afterComma
  split
  · contradiction
  · rename_i heq
    cases heq
    exact absurd rfl hc
  · rfl

theorem afterComma_cut (verbose : Bool) (min : Nat) : CutsTokens (afterComma verbose min) := by
  intro cs t rest h
  cases cs with
  | nil =>
    rw [List.nil_append, afterComma_of_ne (by decide), readCount_ending] at h
    cases h
  | cons c tail =>
    by_cases hc : c = '}'
    · subst hc
      exact closeRepetition_cut verbose min none ('}' :: tail) t rest h
    · rw [List.cons_append, afterComma_of_ne hc] at h
      rw [afterComma_of_ne hc]
      have hcut := (readCount_cut verbose).bind
        (fun max => closeRepetition_cut verbose min (some max))
        (fun _ _ _ hcs => closeRepetition_overrun hcs)
      exact hcut (c :: tail) t rest h

theorem afterCount_of_ne {verbose : Bool} {min : Nat} {cs : List Char} (hcs : cs.head? ≠ some ',') :
    afterCount verbose min cs = closeRepetition verbose min (some min) cs := by
  unfold afterCount
  split
  · exact absurd rfl hcs
  · rfl

theorem afterCount_cut (verbose : Bool) (min : Nat) : CutsTokens (afterCount verbose min) := by
  intro cs t rest h
  by_cases hcs : cs.head? = some ','
  · obtain ⟨tail, rfl⟩ := List.head?_eq_some_iff.1 hcs
    have hnil : ∀ r, afterComma verbose min [] ≠ .ok r := by simp [afterComma]
    exact (afterComma_cut verbose min).skip hnil verbose tail t rest h
  · rw [afterCount_of_ne hcs]
    rw [afterCount_of_ne (by cases cs <;> simp_all)] at h
    exact closeRepetition_cut verbose min (some min) cs t rest h

theorem readRepetition_cut (verbose : Bool) : CutsTokens (readRepetition verbose) := by
  intro cs t rest h
  rw [readRepetition_eq] at h ⊢
  have hover : ∀ min cs r, Overrun cs → afterCount verbose min cs ≠ .ok r := by
    intro min cs r hcs
    rw [afterCount_of_ne (by rcases hcs with rfl | rfl <;> simp)]
    exact closeRepetition_overrun hcs
  have hnil : ∀ r, ((readCount verbose []).bind fun r => afterCount verbose r.1 r.2) ≠ .ok r := by
    obtain ⟨e, he⟩ := readCount_overrun verbose (Or.inl rfl)
    simp [he, Except.bind]
  exact ((readCount_cut verbose).bind (afterCount_cut verbose) hover).skip hnil verbose cs t rest h

/-- What follows a pattern is no count. -/
theorem readRepetition_ending {verbose : Bool} {cs : List Char} (hcs : skip verbose cs = []) :
    ∃ e, readRepetition verbose (cs ++ [')', '$']) = .error e := by
  rw [readRepetition_eq]
  rcases skip_cut verbose cs with hskip | ⟨-, hskip⟩
  · rw [hskip, hcs, List.nil_append, readCount_ending]
    exact ⟨_, rfl⟩
  · obtain ⟨e, he⟩ := readCount_overrun verbose (Or.inl rfl)
    rw [hskip, he]
    exact ⟨e, rfl⟩

/-! ### Groups -/

theorem readName_cut : CutsTokens readName := by
  intro cs t rest h
  have hclose : (')' != '>') = true := by decide
  have hdollar : ('$' != '>') = true := by decide
  unfold readName at h
  split at h
  · cases h
  · rename_i c name close after hspan
    split at h
    · rename_i hname
      cases h
      obtain ⟨after', hrest, hspan'⟩ := span_cut hclose hdollar hspan
      refine Or.inl ⟨after', hrest, ?_⟩
      simp only [readName, hspan', if_pos hname]
    · cases h
  · cases h

/-- Flags that the pattern does not end are ended by the parenthesis after it. -/
theorem readFlags_cut {cs rest : List Char} {on dangling : Bool}
    {switches found : List (Flag × Bool)} {c : Char}
    (h : readFlags (cs ++ [')', '$']) on dangling switches = .ok (found, c, rest)) :
    (∃ after, rest = after ++ [')', '$'] ∧
      readFlags cs on dangling switches = .ok (found, c, after)) ∨ c = ')' ∧ rest = ['$'] := by
  fun_induction readFlags cs on dangling switches with
  | case1 on dangling switches =>
    simp only [List.nil_append, readFlags] at h
    split at h
    · split at h
      · cases h
      · cases h
        exact Or.inr ⟨rfl, rfl⟩
    · rename_i hend
      exact absurd (Or.inr trivial) hend
  | case2 c' rest' on switches hend =>
    simp only [List.cons_append, readFlags, if_pos hend] at h
    cases h
  | case3 c' rest' on dangling switches hend hd =>
    simp only [List.cons_append, readFlags, if_pos hend, if_neg hd] at h
    cases h
    exact Or.inl ⟨rest', rfl, rfl⟩
  | case4 rest' dangling switches hend ih =>
    simp only [List.cons_append, readFlags, if_neg hend, if_pos] at h
    exact ih h
  | case5 rest' on dangling switches hend hon =>
    simp_all [readFlags]
  | case6 c' rest' on dangling switches hend hminus hflag =>
    simp only [List.cons_append, readFlags, if_neg hend, if_neg hminus, hflag] at h
    cases h
  | case7 c' rest' on dangling switches hend hminus flag hflag hdup =>
    simp only [List.cons_append, readFlags, if_neg hend, if_neg hminus, hflag, if_pos hdup] at h
    cases h
  | case8 c' rest' on dangling switches hend hminus flag hflag hnew ih =>
    simp only [List.cons_append, readFlags, if_neg hend, if_neg hminus, hflag, if_neg hnew] at h
    exact ih h

/-- The token of flags. -/
def ofFlags (cs : List Char) : Except PatternError (Token × List Char) := do
  match ← readFlags cs true false [] with
  | (switches, ':', after) => return (.openPlain switches, after)
  | ([], _, _) => .error .repetitionMissing
  | (switches, _, after) => return (.switch switches, after)

theorem ofFlags_cut : CutsTokens ofFlags := by
  intro cs t rest h
  unfold ofFlags at h ⊢
  obtain ⟨⟨switches, c, rest'⟩, hflags, h⟩ := of_bind_ok h
  have hcut := readFlags_cut hflags
  split at h
  · rename_i heq
    cases heq
    cases h
    rcases hcut with ⟨after, hrest, hafter⟩ | ⟨hc, -⟩
    · refine Or.inl ⟨after, hrest, ?_⟩
      rw [hafter]
      rfl
    · cases hc
  · cases h
  · rename_i hcolon hempty heq
    cases heq
    cases h
    rcases hcut with ⟨after, hrest, hafter⟩ | ⟨-, hrest⟩
    · refine Or.inl ⟨after, hrest, ?_⟩
      simp only [hafter, bind, Except.bind]
      rfl
    · exact Or.inr ⟨by simp, Or.inr hrest⟩

/-- What follows the question mark at the opening of a group. -/
def afterMark : List Char → Except PatternError (Token × List Char)
  | '=' :: _ => .error .lookAround
  | '!' :: _ => .error .lookAround
  | '<' :: '=' :: _ => .error .lookAround
  | '<' :: '!' :: _ => .error .lookAround
  | 'P' :: '<' :: rest => readName rest
  | '<' :: rest => readName rest
  | rest => ofFlags rest

theorem readGroup_mark (cs : List Char) : readGroup false ('?' :: cs) = afterMark cs := by
  unfold readGroup afterMark
  simp only [Layout.skip, Bool.false_eq_true, if_false]
  split <;> simp_all
  rfl

theorem readGroup_of_ne {cs : List Char} (hcs : cs.head? ≠ some '?') :
    readGroup false cs = .ok (.openCapture none, cs) := by
  unfold readGroup
  simp only [Layout.skip, Bool.false_eq_true, if_false]
  split <;> simp_all

/-- Flags, where what follows the question mark is neither a name nor looks around. -/
theorem afterMark_flags {c : Char} {cs : List Char} (hc : c ∉ ['=', '!', '<'])
    (hP : c = 'P' → cs.head? ≠ some '<') : afterMark (c :: cs) = ofFlags (c :: cs) := by
  simp only [List.mem_cons, List.not_mem_nil, or_false, not_or] at hc
  unfold afterMark
  split <;> simp_all

/-- A name, where what follows an angle bracket does not look around. -/
theorem afterMark_name {cs : List Char} (hcs : cs.head? ≠ some '=' ∧ cs.head? ≠ some '!') :
    afterMark ('<' :: cs) = readName cs := by
  unfold afterMark
  split <;> simp_all

theorem afterMark_cut : CutsTokens afterMark := by
  intro cs t rest h
  cases cs with
  | nil => exact ofFlags_cut [] t rest h
  | cons c tail =>
    have hhead (d : Char) (hd : d ≠ ')') :
        (tail ++ [')', '$']).head? = some d ↔ tail.head? = some d := by
      cases tail <;> simp [Ne.symm hd]
    rw [List.cons_append] at h
    by_cases hlook : c = '=' ∨ c = '!'
    · rcases hlook with rfl | rfl <;> cases h
    by_cases hangle : c = '<'
    · subst hangle
      by_cases htail : tail.head? ≠ some '=' ∧ tail.head? ≠ some '!'
      · rw [afterMark_name ⟨mt (hhead '=' (by decide)).1 htail.1,
          mt (hhead '!' (by decide)).1 htail.2⟩] at h
        rw [afterMark_name htail]
        exact readName_cut tail t rest h
      · -- it looks around
        cases tail with
        | nil => simp at htail
        | cons d tail =>
          have hd : d = '=' ∨ d = '!' := by simpa [or_iff_not_and_not] using htail
          rcases hd with rfl | rfl <;> cases h
    by_cases hP : c = 'P' ∧ tail.head? = some '<'
    · obtain ⟨rfl, htail⟩ := hP
      obtain ⟨name, rfl⟩ := List.head?_eq_some_iff.1 htail
      exact readName_cut name t rest h
    · have hc : c ∉ ['=', '!', '<'] := by simp_all
      have hne : c = 'P' → tail.head? ≠ some '<' := fun heq htail => hP ⟨heq, htail⟩
      rw [afterMark_flags hc fun heq => mt (hhead '<' (by decide)).1 (hne heq)] at h
      rw [afterMark_flags hc hne]
      exact ofFlags_cut (c :: tail) t rest h

theorem readGroup_cut (verbose : Bool) : CutsTokens (readGroup verbose) := by
  intro cs t rest h
  have hform (input : List Char) : readGroup verbose input = readGroup false (skip verbose input) :=
    rfl
  rw [hform] at h ⊢
  rcases skip_cut verbose cs with hskip | ⟨-, hskip⟩
  · rw [hskip] at h
    generalize skip verbose cs = start at h ⊢
    by_cases hstart : start.head? = some '?'
    · obtain ⟨mark, rfl⟩ := List.head?_eq_some_iff.1 hstart
      rw [List.cons_append, readGroup_mark] at h
      rw [readGroup_mark]
      exact afterMark_cut mark t rest h
    · rw [readGroup_of_ne (by cases start <;> simp_all)] at h
      cases h
      exact Or.inl ⟨start, rfl, readGroup_of_ne hstart⟩
  · rw [hskip] at h
    cases h
    exact Or.inr ⟨by simp, Or.inl rfl⟩

/-! ### Escapes -/

/-- A character by its number in braces, after the brace. -/
def hexBraced (verbose : Bool) (cs : List Char) : Except PatternError (Token × List Char) :=
  match Layout.takeWhile verbose (· != '}') false cs with
  | (digits, _ :: after) => do
    return (.literal ⟨← hexCharacter digits, false⟩, skip verbose after)
  | (_, []) => .error .escapeUnclosed

/-- A character by a fixed count of digits. -/
def hexCounted (verbose : Bool) (count : Nat) (cs : List Char) :
    Except PatternError (Token × List Char) :=
  match Layout.takeCount verbose count cs with
  | none => .error .escapeUnclosed
  | some (digits, after) => do
    return (.literal ⟨← hexCharacter digits, count == 2⟩, after)

/-- What follows the letter of a character by its number, past blanks and comments. -/
def afterHex (verbose : Bool) (count : Nat) : List Char → Except PatternError (Token × List Char)
  | [] => .error .escapeUnclosed
  | '{' :: rest => hexBraced verbose rest
  | cs => hexCounted verbose count cs

theorem ofHex_eq (verbose : Bool) (count : Nat) (cs : List Char) :
    ofHex verbose count cs = afterHex verbose count (skip verbose cs) := rfl

theorem afterHex_of_ne {verbose : Bool} {count : Nat} {c : Char} (hc : c ≠ '{') (rest : List Char) :
    afterHex verbose count (c :: rest) = hexCounted verbose count (c :: rest) := by
  unfold afterHex
  split <;> simp_all

theorem skip_overrun {verbose : Bool} {cs : List Char} (hcs : Overrun cs) :
    Overrun (skip verbose cs) := by
  rcases hcs with rfl | rfl
  · exact Or.inl (Layout.skip_nil verbose)
  · exact Or.inr (skip_dollar verbose)

/-- A run of characters that what follows the text is part of. -/
theorem takeWhile_brace_cut {verbose : Bool} {cs run rest : List Char} {c : Char}
    (h : Layout.takeWhile verbose (· != '}') false (cs ++ [')', '$']) = (run, c :: rest)) :
    (∃ after, rest = after ++ [')', '$'] ∧
      Layout.takeWhile verbose (· != '}') false cs = (run, c :: after)) ∨ Overrun rest := by
  rcases takeWhile_cut verbose (· != '}') false cs with hcut | ⟨-, hover⟩
  · rw [hcut] at h
    cases hread : Layout.takeWhile verbose (· != '}') false cs with
    | mk run' after =>
      rw [hread] at h
      cases after with
      | nil =>
        cases h
        exact Or.inr (Or.inr rfl)
      | cons d after =>
        cases h
        exact Or.inl ⟨after, rfl, rfl⟩
  · rw [h] at hover
    rcases hover with hnil | hrest
    · cases hnil
    · cases hrest
      exact Or.inr (Or.inl rfl)

theorem hexBraced_cut (verbose : Bool) : CutsTokens (hexBraced verbose) := by
  intro cs t rest h
  unfold hexBraced at h ⊢
  split at h
  · rename_i digits close after hdigits
    obtain ⟨c, hc, h⟩ := of_bind_ok h
    cases h
    rcases takeWhile_brace_cut hdigits with ⟨after', rfl, hread⟩ | hover
    · rcases skip_cut verbose after' with hskip | ⟨-, hskip⟩
      · refine Or.inl ⟨_, hskip, ?_⟩
        simp only [hread, hc, bind, Except.bind]
        rfl
      · exact Or.inr ⟨by simp, Or.inl hskip⟩
    · exact Or.inr ⟨by simp, skip_overrun hover⟩
  · cases h

theorem hexCounted_cut (verbose : Bool) (count : Nat) : CutsTokens (hexCounted verbose count) := by
  intro cs t rest h
  unfold hexCounted at h ⊢
  split at h
  · cases h
  · rename_i digits after hdigits
    obtain ⟨c, hc, h⟩ := of_bind_ok h
    cases h
    rcases Layout.takeCount_cut hdigits with ⟨after', rfl, hread⟩ | hover
    · refine Or.inl ⟨after', rfl, ?_⟩
      simp only [hread, hc, bind, Except.bind]
      rfl
    · exact Or.inr ⟨by simp, hover⟩

theorem afterHex_cut (verbose : Bool) (count : Nat) : CutsTokens (afterHex verbose count) := by
  intro cs t rest h
  cases cs with
  | nil =>
    -- the digits overrun, if there are enough of them
    rw [List.nil_append, afterHex_of_ne (by decide)] at h
    rcases hexCounted_cut verbose count [] t rest h with ⟨after, -, hread⟩ | hover
    · cases count <;> cases hread
    · exact Or.inr hover
  | cons c tail =>
    by_cases hc : c = '{'
    · subst hc
      exact hexBraced_cut verbose tail t rest h
    · rw [List.cons_append, afterHex_of_ne hc] at h
      rw [afterHex_of_ne hc]
      exact hexCounted_cut verbose count (c :: tail) t rest h

theorem ofHex_cut (verbose : Bool) (count : Nat) : CutsTokens (ofHex verbose count) := by
  intro cs t rest h
  rw [ofHex_eq] at h ⊢
  have hnil : ∀ r, afterHex verbose count [] ≠ .ok r := by simp [afterHex]
  exact (afterHex_cut verbose count).skip hnil verbose cs t rest h

/-- A property class by its query in braces, after the brace. -/
def queryBraced (verbose negated : Bool) (cs : List Char) : Except PatternError (Token × List Char) :=
  match Layout.takeWhile verbose (· != '}') false cs with
  | (query, _ :: after) =>
    let (unequal, query) := queryOf query
    .ok (.property (negated != unequal) query, after)
  | (_, []) => .error .escapeUnclosed

/-- What follows the letter of a property class, past blanks and comments. -/
def afterProperty (verbose negated : Bool) : List Char → Except PatternError (Token × List Char)
  | [] => .error .escapeUnclosed
  | '{' :: rest => queryBraced verbose negated rest
  | '\\' :: _ => .error .propertyInvalid
  | c :: rest => .ok (.property negated (.named (.ofList [c])), skip verbose rest)

theorem ofProperty_eq (verbose negated : Bool) (cs : List Char) :
    ofProperty verbose negated cs = afterProperty verbose negated (skip verbose cs) := rfl

theorem afterProperty_of_ne {verbose negated : Bool} {c : Char} (hc : c ≠ '{' ∧ c ≠ '\\')
    (rest : List Char) : afterProperty verbose negated (c :: rest) =
      .ok (.property negated (.named (.ofList [c])), skip verbose rest) := by
  unfold afterProperty
  split <;> simp_all

theorem queryBraced_cut (verbose negated : Bool) : CutsTokens (queryBraced verbose negated) := by
  intro cs t rest h
  unfold queryBraced at h ⊢
  split at h
  · rename_i query close after hquery
    cases h
    rcases takeWhile_brace_cut hquery with ⟨after', rfl, hread⟩ | hover
    · refine Or.inl ⟨after', rfl, ?_⟩
      simp only [hread]
      rfl
    · exact Or.inr ⟨by simp, hover⟩
  · cases h

theorem afterProperty_cut (verbose negated : Bool) : CutsTokens (afterProperty verbose negated) := by
  intro cs t rest h
  cases cs with
  | nil =>
    -- the parenthesis is the name
    rw [List.nil_append, afterProperty_of_ne (by decide), skip_dollar] at h
    cases h
    exact Or.inr ⟨by simp, Or.inr rfl⟩
  | cons c tail =>
    by_cases hbrace : c = '{'
    · subst hbrace
      exact queryBraced_cut verbose negated tail t rest h
    by_cases hslash : c = '\\'
    · subst hslash
      cases h
    rw [List.cons_append, afterProperty_of_ne ⟨hbrace, hslash⟩] at h
    rw [afterProperty_of_ne ⟨hbrace, hslash⟩]
    cases h
    rcases skip_cut verbose tail with hskip | ⟨-, hskip⟩
    · exact Or.inl ⟨_, hskip, rfl⟩
    · exact Or.inr ⟨by simp, Or.inl hskip⟩

theorem ofProperty_cut (verbose negated : Bool) : CutsTokens (ofProperty verbose negated) := by
  intro cs t rest h
  rw [ofProperty_eq] at h ⊢
  have hnil : ∀ r, afterProperty verbose negated [] ≠ .ok r := by simp [afterProperty]
  exact (afterProperty_cut verbose negated).skip hnil verbose cs t rest h

/-- A word boundary by its name in braces, after the brace. -/
def boundaryNamed (verbose : Bool) (cs : List Char) : Except PatternError (Token × List Char) :=
  match Layout.takeWhile verbose isBoundaryChar false cs with
  | (name, '}' :: after) =>
    match boundaryOfName? name with
    | some mark => .ok (.anchor mark, after)
    | none => .error .wordBoundaryUnknown
  | _ => .error .wordBoundaryUnknown

theorem boundaryNamed_cut (verbose : Bool) : CutsTokens (boundaryNamed verbose) := by
  intro cs t rest h
  unfold boundaryNamed at h ⊢
  split at h
  · rename_i name after hname
    split at h
    · rename_i mark hmark
      cases h
      rcases takeWhile_cut verbose isBoundaryChar false cs with hcut | ⟨-, hover⟩
      · rw [hcut] at hname
        cases hread : Layout.takeWhile verbose isBoundaryChar false cs with
        | mk name' after' =>
          rw [hread] at hname
          cases after' with
          | nil => cases hname
          | cons c after' =>
            cases hname
            refine Or.inl ⟨after', rfl, ?_⟩
            simp only [hmark]
      · -- no closing brace is overrun
        rw [hname] at hover
        rcases hover with hover | hover <;> cases hover
    · cases h
  · cases h

/-- A repetition without a count, after a word boundary. -/
def Uncounted (verbose : Bool) (t : Token) (rest : List Char) : Prop :=
  t = .anchor .wordBoundary ∧ ∃ cs e, rest = '{' :: cs ∧ readRepetition verbose cs = .error e

theorem ofBoundary_brace (verbose : Bool) (cs : List Char) : ofBoundary verbose ('{' :: cs) =
    match skip verbose cs with
    | [] => .error .wordBoundaryUnknown
    | c :: rest =>
      if isBoundaryChar c then boundaryNamed verbose (c :: rest)
      else .ok (.anchor .wordBoundary, '{' :: cs) := rfl

theorem ofBoundary_of_ne {verbose : Bool} {cs : List Char} (hcs : cs.head? ≠ some '{') :
    ofBoundary verbose cs = .ok (.anchor .wordBoundary, cs) := by
  unfold ofBoundary
  split <;> simp_all

theorem ofBoundary_cut {verbose : Bool} {cs rest : List Char} {t : Token}
    (h : ofBoundary verbose (cs ++ [')', '$']) = .ok (t, rest)) :
    ((∃ after, rest = after ++ [')', '$'] ∧ ofBoundary verbose cs = .ok (t, after)) ∨
      t ≠ .close ∧ Overrun rest) ∨ Uncounted verbose t rest := by
  by_cases hbrace : cs.head? = some '{'
  · obtain ⟨tail, rfl⟩ := List.head?_eq_some_iff.1 hbrace
    rw [List.cons_append, ofBoundary_brace] at h
    rw [ofBoundary_brace]
    rcases skip_cut verbose tail with hskip | ⟨-, hskip⟩
    · rw [hskip] at h
      cases hstart : skip verbose tail with
      | nil =>
        -- the brace belongs to a repetition, since no name follows it
        rw [hstart] at h
        cases h
        obtain ⟨e, he⟩ := readRepetition_ending hstart
        exact Or.inr ⟨rfl, _, e, rfl, he⟩
      | cons c start =>
        rw [hstart, List.cons_append] at h
        simp only at h ⊢
        split at h
        · rename_i hc
          rw [if_pos hc]
          exact Or.inl (boundaryNamed_cut verbose (c :: start) t rest h)
        · rename_i hc
          cases h
          exact Or.inl (Or.inl ⟨'{' :: tail, rfl, if_neg hc⟩)
    · rw [hskip] at h
      cases h
  · rw [ofBoundary_of_ne (by cases cs <;> simp_all)] at h
    cases h
    exact Or.inl (Or.inl ⟨cs, rfl, ofBoundary_of_ne hbrace⟩)

theorem ofEscape_cut {verbose : Bool} {cs rest : List Char} {t : Token}
    (h : ofEscape verbose (cs ++ [')', '$']) = .ok (t, rest)) :
    ((∃ after, rest = after ++ [')', '$'] ∧ ofEscape verbose cs = .ok (t, after)) ∨
      t ≠ .close ∧ Overrun rest) ∨ Uncounted verbose t rest := by
  cases cs with
  | nil =>
    -- the parenthesis is escaped
    cases h
    exact Or.inl (Or.inr ⟨by simp, Or.inr rfl⟩)
  | cons c tail =>
    rw [List.cons_append] at h
    unfold ofEscape at h ⊢
    simp only at h ⊢
    split at h
    · cases h
    rename_i hdigit
    split at h
    · rename_i hescape
      cases h
      exact Or.inl (Or.inl ⟨tail, rfl, by rw [if_neg hdigit, if_pos hescape]⟩)
    rename_i hescape
    rw [if_neg hdigit, if_neg hescape]
    -- all other escapes read one letter and nothing else
    split at h
    case h_1 => exact Or.inl (ofHex_cut verbose 2 tail t rest h)
    case h_2 => exact Or.inl (ofHex_cut verbose 4 tail t rest h)
    case h_3 => exact Or.inl (ofHex_cut verbose 8 tail t rest h)
    case h_4 => exact Or.inl (ofProperty_cut verbose false tail t rest h)
    case h_5 => exact Or.inl (ofProperty_cut verbose true tail t rest h)
    case h_20 => exact ofBoundary_cut h
    case h_24 => cases h
    all_goals
      cases h
      exact Or.inl (Or.inl ⟨tail, rfl, rfl⟩)

end Token

/-! ### Bracket expressions -/

namespace ClassExpr

open Layout (skip skip_cut skip_ending skip_dollar skip_nil takeWhile_cut)

theorem pastCaret_cut (verbose : Bool) (cs : List Char) :
    pastCaret verbose (cs ++ [')', '$']) =
        ((pastCaret verbose cs).1, (pastCaret verbose cs).2 ++ [')', '$']) ∨
      (pastCaret verbose (cs ++ [')', '$'])).2 = [] := by
  cases cs with
  | nil => exact Or.inl rfl
  | cons c tail =>
    by_cases hc : c = '^'
    · subst hc
      rcases skip_cut verbose tail with hskip | ⟨-, hskip⟩
      · exact Or.inl (by simp [pastCaret, hskip])
      · exact Or.inr (by simp [pastCaret, hskip])
    · exact Or.inl (by simp [pastCaret, hc])

theorem firstItems_cut {verbose caret negated : Bool} {cs rest : List Char} {items : List ClassExpr}
    (h : firstItems verbose caret (cs ++ [')', '$']) = .ok (negated, items, rest)) :
    (∃ after, rest = after ++ [')', '$'] ∧
      firstItems verbose caret cs = .ok (negated, items, after)) ∨ rest <:+ [')', '$'] := by
  have hcut := takeWhile_cut verbose (· == '-') false cs
  unfold firstItems at h ⊢
  generalize Layout.takeWhile verbose (· == '-') false (cs ++ [')', '$']) = longer at h hcut
  generalize Layout.takeWhile verbose (· == '-') false cs = shorter at hcut ⊢
  obtain ⟨hyphens, after⟩ := shorter
  rcases hcut with rfl | ⟨-, hover⟩
  · cases after with
    | nil =>
      -- nothing but hyphens, and then what follows the text
      simp only [List.nil_append] at h
      split at h
      · cases h
      · rename_i heq
        cases heq
      · cases h
        exact Or.inr (List.suffix_refl _)
    | cons c after =>
      simp only [List.cons_append] at h ⊢
      split at h
      · cases h
      · rename_i tail hnil heq
        cases heq
        simp only [hnil]
        rcases skip_cut verbose after with hskip | ⟨-, hskip⟩
        · rw [hskip] at h
          cases hafter : skip verbose after with
          | nil =>
            rw [hafter] at h
            cases h
            exact Or.inr (List.suffix_refl _)
          | cons d tail =>
            rw [hafter] at h
            cases h
            exact Or.inl ⟨d :: tail, rfl, rfl⟩
        · rw [hskip] at h
          cases h
      · rename_i hnil hclose
        cases h
        refine Or.inl ⟨c :: after, rfl, ?_⟩
        split
        · contradiction
        · rename_i tail hempty heq
          cases heq
          exact absurd rfl (hclose _ hempty)
        · rfl
  · split at h
    · cases h
    · rename_i tail hnil heq
      rw [heq] at hover
      rcases hover with hover | hover <;> cases hover
    · cases h
      exact Or.inr hover.suffix

theorem readOpening_cut {verbose negated : Bool} {cs rest : List Char} {items : List ClassExpr}
    (h : readOpening verbose (cs ++ [')', '$']) = .ok (negated, items, rest)) :
    (∃ after, rest = after ++ [')', '$'] ∧
      readOpening verbose cs = .ok (negated, items, after)) ∨ rest <:+ [')', '$'] := by
  have hnil (caret : Bool) : firstItems verbose caret [] = .error .classUnclosed := rfl
  rw [readOpening_eq] at h ⊢
  rcases skip_cut verbose cs with hskip | ⟨-, hskip⟩
  · rw [hskip] at h
    rcases pastCaret_cut verbose (skip verbose cs) with hcaret | hcaret
    · rw [hcaret] at h
      exact firstItems_cut h
    · rw [hcaret, hnil] at h
      cases h
  · rw [hskip] at h
    cases h

theorem readItem_cut (verbose : Bool) : Cuts (readItem verbose) := by
  intro cs e rest h
  cases cs with
  | nil =>
    rw [List.nil_append, readItem_of_ne (by decide)] at h
    cases h
    exact Or.inr (Or.inr rfl)
  | cons c tail =>
    by_cases hc : c = '\\'
    · subst hc
      rw [List.cons_append, readItem_escape] at h
      rw [readItem_escape]
      obtain ⟨⟨t, mid⟩, hescape, h⟩ := of_bind_ok h
      obtain ⟨rfl, hanchor, hitem⟩ := itemOf_eq_ok h
      rcases Token.ofEscape_cut hescape with (⟨after, hrest, hread⟩ | ⟨-, hover⟩) | ⟨ht, -⟩
      · refine Or.inl ⟨after, hrest, ?_⟩
        rw [hread]
        exact hitem after
      · exact Or.inr hover
      · exact absurd ht hanchor
    · rw [List.cons_append, readItem_of_ne hc] at h
      cases h
      exact Or.inl ⟨tail, rfl, readItem_of_ne hc tail⟩

/-- What follows the text does not decide what a hyphen means. -/
theorem peek?_cut {verbose : Bool} {cs : List Char} {c : Char} (hc : c ≠ ')')
    (h : peek? verbose (cs ++ [')', '$']) = some c) : peek? verbose cs = some c := by
  cases hpeek : peek? verbose cs with
  | some d => rw [← h, peek?_kept hpeek]
  | none =>
    exfalso
    refine hc (Option.some.inj (h.symm.trans ?_))
    cases verbose with
    | false =>
      have hcs : cs = [] := by simpa [peek?] using hpeek
      rw [hcs]
      rfl
    | true =>
      simp only [peek?, if_true, Token.dropWhile_blank_cut] at hpeek ⊢
      cases hdrop : cs.dropWhile Layout.isBlank with
      | nil => rfl
      | cons d tail =>
        rw [hdrop] at hpeek
        by_cases hhash : d = '#'
        · subst hhash
          have htail : tail.dropWhile Layout.isBlank = [] := List.head?_eq_none_iff.1 hpeek
          simp only [List.cons_append, Token.dropWhile_blank_cut, htail]
          rfl
        · simp_all

theorem afterHyphen_cut {verbose : Bool} {first e : ClassExpr} {cs rest : List Char}
    (h : afterHyphen verbose first (cs ++ [')', '$']) = .ok (e, rest)) :
    (∃ after, rest = after ++ [')', '$'] ∧ afterHyphen verbose first cs = .ok (e, after)) ∨
      rest <:+ [')', '$'] := by
  unfold afterHyphen at h ⊢
  split at h
  · rename_i hpeek
    cases h
    refine Or.inl ⟨'-' :: cs, rfl, if_pos ?_⟩
    exact hpeek.imp (peek?_cut (by decide)) (peek?_cut (by decide))
  rename_i hpeek
  have hpeek' : ¬(peek? verbose cs = some ']' ∨ peek? verbose cs = some '-') :=
    fun hor => hpeek (hor.imp (fun h => peek?_kept h _) (fun h => peek?_kept h _))
  rw [if_neg hpeek']
  split at h
  · cases h
  rename_i hrest
  rcases skip_cut verbose cs with hskip | ⟨-, hskip⟩
  · rw [hskip] at h
    obtain ⟨⟨second, mid⟩, hread, h⟩ := of_bind_ok h
    obtain ⟨rfl, hrange⟩ := rangeOf_eq_ok h
    rcases readItem_cut verbose _ second _ hread with ⟨after, hafter, hitem⟩ | hover
    · have hne : skip verbose cs ≠ [] := by
        intro hnil
        rw [hnil] at hitem
        cases hitem
      refine Or.inl ⟨after, hafter, ?_⟩
      rw [if_neg hne, hitem]
      exact hrange after
    · exact Or.inr hover.suffix
  · exact absurd hskip hrest

theorem afterItem_of_ne {verbose : Bool} {first : ClassExpr} {c : Char} (hc : c ≠ '-')
    (cs : List Char) : afterItem verbose first (c :: cs) = .ok (first, c :: cs) := by
  unfold afterItem
  split <;> simp_all

theorem afterItem_cut {verbose : Bool} {first e : ClassExpr} {cs rest : List Char}
    (h : afterItem verbose first (cs ++ [')', '$']) = .ok (e, rest)) :
    (∃ after, rest = after ++ [')', '$'] ∧ afterItem verbose first cs = .ok (e, after)) ∨
      rest <:+ [')', '$'] := by
  cases cs with
  | nil =>
    rw [List.nil_append, afterItem_of_ne (by decide)] at h
    cases h
    exact Or.inr (List.suffix_refl _)
  | cons c tail =>
    by_cases hc : c = '-'
    · subst hc
      exact afterHyphen_cut h
    · rw [List.cons_append, afterItem_of_ne hc] at h
      cases h
      exact Or.inl ⟨c :: tail, rfl, afterItem_of_ne hc tail⟩

theorem readRange_cut {verbose : Bool} {cs rest : List Char} {e : ClassExpr}
    (h : readRange verbose (cs ++ [')', '$']) = .ok (e, rest)) :
    (∃ after, rest = after ++ [')', '$'] ∧ readRange verbose cs = .ok (e, after)) ∨
      rest <:+ [')', '$'] := by
  obtain ⟨⟨first, mid⟩, hread, -⟩ := of_bind_ok h
  rw [readRange_of_readItem hread] at h
  rcases readItem_cut verbose cs first mid hread with ⟨after, rfl, hitem⟩ | hover
  · rw [readRange_of_readItem hitem]
    rcases skip_cut verbose after with hskip | ⟨-, hskip⟩
    · rw [hskip] at h
      exact afterItem_cut h
    · rw [hskip] at h
      cases h
  · -- the item is the parenthesis itself, or an escape that takes it
    have hleaves := leaves_afterItem verbose first _ e rest h
    exact Or.inr ((hleaves.trans (Layout.skip_suffix verbose mid)).trans hover.suffix)

theorem suffix_ending {cs : List Char} (h : cs <:+ [')', '$']) :
    cs = [] ∨ cs = ['$'] ∨ cs = [')', '$'] := by
  simp only [List.suffix_cons_iff, List.suffix_nil] at h
  tauto

/-- An item inside brackets that neither opens nor closes one. -/
theorem readBody_item {verbose : Bool} {fuel : Nat} {frames : List ClassFrame}
    {items : List ClassExpr} {cs tail : List Char} {c : Char}
    (hskip : skip verbose cs = c :: tail) (hc : c ∉ ['[', ']'])
    (hoperator : c ∈ ['&', '-', '~'] → tail.head? ≠ some c) :
    readBody verbose (fuel + 1) frames items cs = (readRange verbose (c :: tail)).bind fun r =>
      readBody verbose fuel frames (r.1 :: items) r.2 := by
  rw [readBody, hskip]
  simp only [List.mem_cons, List.not_mem_nil, or_false, not_or] at hc hoperator
  split <;> simp_all
  rfl

/-- What follows the text ends no bracket expression. -/
theorem readBody_ending {verbose : Bool} {fuel : Nat} {frames : List ClassFrame}
    {items : List ClassExpr} {cs : List Char} {r : ClassExpr × List Char} (hcs : cs <:+ [')', '$']) :
    readBody verbose fuel frames items cs ≠ .ok r := by
  induction fuel generalizing items cs with
  | zero => simp [readBody]
  | succ fuel ih =>
    have hskip : skip verbose cs = cs := by
      rcases suffix_ending hcs with rfl | rfl | rfl
      · exact skip_nil verbose
      · exact skip_dollar verbose
      · exact skip_ending verbose
    cases cs with
    | nil => simp [readBody, hskip]
    | cons c tail =>
      have hc : c = ')' ∨ c = '$' := by
        rcases suffix_ending hcs with h | h | h <;> simp_all
      have hitem : c ∉ ['[', ']', '&', '-', '~'] := by
        rcases hc with rfl | rfl <;> decide
      simp only [List.mem_cons, List.not_mem_nil, or_false, not_or] at hitem
      rw [readBody_item hskip (by simp [hitem]) (by simp [hitem])]
      cases hrange : readRange verbose (c :: tail) with
      | error e => simp [Except.bind]
      | ok r =>
        have htail := (readRange_suffix hrange).trans ((List.suffix_cons c tail).trans hcs)
        exact ih htail

theorem readBody_congr {verbose : Bool} {fuel : Nat} {frames : List ClassFrame}
    {items : List ClassExpr} {cs cs' : List Char} (h : skip verbose cs = skip verbose cs') :
    readBody verbose fuel frames items cs = readBody verbose fuel frames items cs' := by
  cases fuel with
  | zero => rfl
  | succ fuel => rw [readBody, readBody, h]

/-- A character that is no closing parenthesis stands in the text itself. -/
theorem tail_of_cons {cs rest : List Char} {c : Char} (hc : c ≠ ')')
    (h : cs ++ [')', '$'] = c :: rest) : ∃ tail, cs = c :: tail ∧ rest = tail ++ [')', '$'] := by
  cases cs with
  | nil =>
    cases h
    contradiction
  | cons d tail =>
    cases h
    exact ⟨tail, rfl, rfl⟩

/-- **The rest of a bracket expression** ends in the text. -/
theorem readBody_cut {verbose : Bool} {fuel fuel' : Nat} {frames : List ClassFrame}
    {items : List ClassExpr} {cs rest : List Char} {e : ClassExpr}
    (h : readBody verbose fuel frames items (cs ++ [')', '$']) = .ok (e, rest))
    (hfuel : cs.length ≤ fuel') :
    ∃ after, rest = after ++ [')', '$'] ∧ readBody verbose fuel' frames items cs = .ok (e, after) := by
  induction fuel generalizing fuel' frames items cs with
  | zero => cases h
  | succ fuel ih =>
    rcases skip_cut verbose cs with hskip | ⟨-, hskip⟩
    swap
    · simp [readBody, hskip] at h
    cases hstart : skip verbose cs with
    | nil =>
      -- nothing is left of the text, so its end has been missed
      rw [hstart, List.nil_append] at hskip
      rw [readBody_congr (hskip.trans (skip_ending verbose).symm)] at h
      exact absurd h (readBody_ending (List.suffix_refl _))
    | cons c tail =>
      have hlength := (Layout.skip_suffix verbose cs).length_le
      rw [hstart, List.length_cons] at hlength
      obtain ⟨fuel', rfl⟩ : ∃ k, fuel' = k + 1 := ⟨fuel' - 1, by omega⟩
      have hshorter {after : List Char} (hafter : after <:+ tail) : after.length ≤ fuel' := by
        have := hafter.length_le
        omega
      rw [readBody, hskip, hstart, List.cons_append] at h
      simp only at h
      split at h
      case h_1 => contradiction
      case h_2 rest' heq =>
        -- an inner bracket, which may be a class by its name
        cases heq
        rw [readPosix?_kept] at h
        cases hposix : readPosix? tail with
        | some r =>
          rw [hposix] at h
          simp only [readBody, hstart, hposix]
          exact ih h (hshorter (readPosix?_suffix hposix))
        | none =>
          rw [hposix] at h
          obtain ⟨⟨negated, first, mid⟩, hopen, h⟩ := of_bind_ok h
          rcases readOpening_cut hopen with ⟨after, rfl, hread⟩ | hending
          · simp only [readBody, hstart, hposix, hread]
            exact ih h (hshorter (readOpening_suffix hread))
          · exact absurd h (readBody_ending hending)
      case h_3 rest' heq =>
        -- the end of a bracket, and of the whole if no other is open
        cases heq
        simp only [readBody, hstart]
        split at h
        · cases h
          exact ⟨tail, rfl, rfl⟩
        · exact ih h (hshorter (List.suffix_refl _))
        · cases h
      case h_4 rest' heq =>
        obtain ⟨rfl, htail⟩ := List.cons.inj heq
        obtain ⟨tail, rfl, rfl⟩ := tail_of_cons (by decide) htail
        simp only [readBody, hstart]
        exact ih h (hshorter (List.suffix_cons _ tail))
      case h_5 rest' heq =>
        obtain ⟨rfl, htail⟩ := List.cons.inj heq
        obtain ⟨tail, rfl, rfl⟩ := tail_of_cons (by decide) htail
        simp only [readBody, hstart]
        exact ih h (hshorter (List.suffix_cons _ tail))
      case h_6 rest' heq =>
        obtain ⟨rfl, htail⟩ := List.cons.inj heq
        obtain ⟨tail, rfl, rfl⟩ := tail_of_cons (by decide) htail
        simp only [readBody, hstart]
        exact ih h (hshorter (List.suffix_cons _ tail))
      case h_7 hopen hclose hand hminus htilde =>
        obtain ⟨⟨item, mid⟩, hrange, h⟩ := of_bind_ok h
        rw [← List.cons_append] at hrange
        rcases readRange_cut hrange with ⟨after, rfl, hread⟩ | hending
        · obtain ⟨after', hrest, hbody⟩ := ih h (hshorter (readRange_suffix hread))
          refine ⟨after', hrest, ?_⟩
          have hoperator : c ∈ ['&', '-', '~'] → tail.head? ≠ some c := by
            intro hmem htail
            obtain ⟨tail', rfl⟩ := List.head?_eq_some_iff.1 htail
            simp only [List.mem_cons, List.not_mem_nil, or_false] at hmem
            rcases hmem with rfl | rfl | rfl
            · exact hand _ rfl
            · exact hminus _ rfl
            · exact htilde _ rfl
          rw [readBody_item hstart (by simp_all) hoperator, hread]
          exact hbody
        · exact absurd h (readBody_ending hending)

theorem read_cut {verbose : Bool} {cs rest : List Char} {e : ClassExpr}
    (h : read verbose (cs ++ [')', '$']) = .ok (e, rest)) :
    ∃ after, rest = after ++ [')', '$'] ∧ read verbose cs = .ok (e, after) := by
  unfold read at h ⊢
  obtain ⟨⟨negated, first, mid⟩, hopen, h⟩ := of_bind_ok h
  rcases readOpening_cut hopen with ⟨after, rfl, hread⟩ | hending
  · rw [hread]
    exact readBody_cut h (readOpening_suffix hread).length_le
  · exact absurd h (readBody_ending hending)

end ClassExpr

namespace Token

/-- **The first token of a text** is read from it alone, unless it overruns the text or the braces
after a word boundary have no count. -/
theorem next_cut {verbose : Bool} {c : Char} {cs rest : List Char} {t : Token}
    (h : next verbose c (cs ++ [')', '$']) = .ok (t, rest)) :
    ((∃ after, rest = after ++ [')', '$'] ∧ next verbose c cs = .ok (t, after)) ∨
      t ≠ .close ∧ Overrun rest) ∨ Uncounted verbose t rest := by
  unfold next at h ⊢
  split at h
  case h_1 => exact Or.inl (readGroup_cut verbose cs t rest h)
  case h_4 =>
    obtain ⟨⟨e, mid⟩, hread, h⟩ := of_bind_ok h
    cases h
    obtain ⟨after, hrest, hafter⟩ := ClassExpr.read_cut hread
    refine Or.inl (Or.inl ⟨after, hrest, ?_⟩)
    simp only [hafter]
    rfl
  case h_5 => exact Or.inl (simpleRepetition_cut 0 (some 1) cs t rest h)
  case h_6 => exact Or.inl (simpleRepetition_cut 0 none cs t rest h)
  case h_7 => exact Or.inl (simpleRepetition_cut 1 none cs t rest h)
  case h_8 => exact Or.inl (readRepetition_cut verbose cs t rest h)
  case h_9 => exact ofEscape_cut h
  all_goals
    cases h
    exact Or.inl (Or.inl ⟨cs, rfl, rfl⟩)

end Token

end RequestRouter.Regex
