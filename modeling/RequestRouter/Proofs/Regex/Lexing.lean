import Mathlib.Data.List.TakeWhile
import Mathlib.Tactic
import RequestRouter.Regex.Lexer

/-!
# Reading what goes on

A text that is read on its own is compared with the same text followed by a closing parenthesis.
Reading *continues* if what is read from the longer text is the same and the parenthesis is left
alone. There is one way in which it does not: at the end of a text a comment may be open, which
swallows the parenthesis and all that follows on the line.

* `continues_skip`: blanks and comments.
* `read_kept`: bracket expressions, which always continue.
* `continues_next`: **the first token of a text**, whatever it is.
-/

namespace RequestRouter.Regex

/-- Reading, as a relation between a text and what it leaves, continues: a closing parenthesis after
the text is left alone, or a comment swallows it. -/
def Continues (R : List Char → List Char → Prop) (cs after : List Char) : Prop :=
  (∀ more, R (cs ++ ')' :: more) (after ++ ')' :: more)) ∨
    after = [] ∧ ∀ more, '\n' ∉ more → R (cs ++ ')' :: more) []

theorem Continues.kept {R : List Char → List Char → Prop} {cs after : List Char}
    (h : Continues R cs after) (hne : after ≠ []) (more : List Char) :
    R (cs ++ ')' :: more) (after ++ ')' :: more) :=
  h.elim (fun h => h more) fun h => absurd h.1 hne

theorem Continues.imp {R R' : List Char → List Char → Prop} {cs cs' after : List Char}
    (h : Continues R cs after) (hR : ∀ more rest, R (cs ++ ')' :: more) rest →
      R' (cs' ++ ')' :: more) rest) : Continues R' cs' after :=
  Or.imp (fun h more => hR more _ (h more))
    (fun h => ⟨h.1, fun more hm => hR more _ (h.2 more hm)⟩) h

/-- One reading after another. A reading of nothing has to leave nothing. -/
theorem Continues.bind {R Q : List Char → List Char → Prop} {cs mid after : List Char}
    (h : Continues R cs mid) (hQ : Continues Q mid after) (hnil : mid = [] → after = [] ∧ Q [] []) :
    Continues (fun input rest => ∃ mid, R input mid ∧ Q mid rest) cs after := by
  rcases h with h | ⟨rfl, h⟩
  · rcases hQ with hQ | ⟨ha, hQ⟩
    · exact Or.inl fun more => ⟨_, h more, hQ more⟩
    · exact Or.inr ⟨ha, fun more hm => ⟨_, h more, hQ more hm⟩⟩
  · exact Or.inr ⟨(hnil rfl).1, fun more hm => ⟨[], h more hm, (hnil rfl).2⟩⟩

/-- One step after another gives a result only if both do. -/
theorem of_bind_ok {ε α β : Type} {x : Except ε α} {f : α → Except ε β} {b : β}
    (h : x.bind f = .ok b) : ∃ a, x = .ok a ∧ f a = .ok b := by
  cases x with
  | error e => cases h
  | ok a => exact ⟨a, rfl, h⟩

namespace Layout

theorem drop_line {more : List Char} (h : '\n' ∉ more) : drop true more = [] := by
  induction more with
  | nil => rfl
  | cons c more ih =>
    simp only [List.mem_cons, not_or] at h
    rw [drop, show (c != '\n') = true from by simpa using fun e => h.1 e.symm, ih h.2]

theorem continues_drop (inComment : Bool) (cs : List Char) :
    Continues (fun input rest => drop inComment input = rest) cs (drop inComment cs) := by
  fun_induction drop inComment cs with
  | case1 inComment =>
    cases inComment with
    | false => exact Or.inl fun more => rfl
    | true => exact Or.inr ⟨rfl, fun more hm => by simpa [drop] using drop_line hm⟩
  | case2 c rest ih => exact ih.imp fun more r hr => by rw [List.cons_append]; exact hr
  | case3 c rest hb ih => exact ih.imp fun more r hr => by rwa [List.cons_append, drop, if_pos hb]
  | case4 rest hb ih =>
    exact ih.imp fun more r hr => by rwa [List.cons_append, drop, if_neg hb, if_pos rfl]
  | case5 c rest hb hc =>
    exact Or.inl fun more => by simp only [List.cons_append, drop, if_neg hb, if_neg hc]

/-- **Blanks and comments** continue, or are the comment that swallows what follows. -/
theorem continues_skip (verbose : Bool) (cs : List Char) :
    Continues (fun input rest => skip verbose input = rest) cs (skip verbose cs) := by
  cases verbose with
  | false => exact Or.inl fun more => rfl
  | true => exact continues_drop false cs

@[simp] theorem skip_nil (verbose : Bool) : skip verbose [] = [] := by
  cases verbose <;> rfl

theorem skip_kept {verbose : Bool} {cs after : List Char} (h : skip verbose cs = after)
    (hne : after ≠ []) (more : List Char) :
    skip verbose (cs ++ ')' :: more) = after ++ ')' :: more := by
  subst h
  exact (continues_skip verbose cs).kept hne more

theorem drop_blank {inComment : Bool} {cs : List Char} (h : ∀ c ∈ cs, isBlank c = true) :
    drop inComment cs = [] := by
  fun_induction drop inComment cs with
  | case1 => rfl
  | case2 c rest ih => exact ih fun d hd => h d (List.mem_cons_of_mem _ hd)
  | case3 c rest hb ih => exact ih fun d hd => h d (List.mem_cons_of_mem _ hd)
  | case4 rest hb => exact absurd (h _ List.mem_cons_self) hb
  | case5 c rest hb => exact absurd (h _ List.mem_cons_self) hb

theorem drop_dropWhile (cs : List Char) : drop false (cs.dropWhile isBlank) = drop false cs := by
  induction cs with
  | nil => rfl
  | cons c cs ih =>
    rw [List.dropWhile_cons]
    split
    · rename_i hb
      rw [ih, drop, if_pos hb]
    · rfl

theorem takeWhile_kept {verbose : Bool} {test : Char → Bool} {inComment : Bool}
    {cs run after : List Char} (h : takeWhile verbose test inComment cs = (run, after))
    (hne : after ≠ []) (more : List Char) :
    takeWhile verbose test inComment (cs ++ ')' :: more) = (run, after ++ ')' :: more) := by
  fun_induction takeWhile verbose test inComment cs generalizing run after with
  | case1 => cases h; exact absurd rfl hne
  | case2 c rest ih => exact ih h hne
  | case3 c rest hb ih => rw [List.cons_append, takeWhile, if_pos hb]; exact ih h hne
  | case4 c rest hb hc ih =>
    rw [List.cons_append, takeWhile, if_neg hb, if_pos hc]; exact ih h hne
  | case5 c rest hb hc ht run' after' heq ih =>
    simp only [Prod.mk.injEq] at h
    obtain ⟨rfl, rfl⟩ := h
    rw [List.cons_append, takeWhile, if_neg hb, if_neg hc, if_pos ht, ih heq hne]
  | case6 c rest hb hc ht =>
    cases h
    rw [List.cons_append, takeWhile, if_neg hb, if_neg hc, if_neg ht]

theorem continues_takeCount {verbose : Bool} {n : Nat} {cs run after : List Char}
    (h : takeCount verbose n cs = some (run, after)) :
    Continues (fun input rest => takeCount verbose n input = some (run, rest)) cs after := by
  induction n generalizing cs run with
  | zero =>
    cases h
    exact Or.inl fun more => rfl
  | succ n ih =>
    cases cs with
    | nil => simp [takeCount] at h
    | cons c rest =>
      simp only [takeCount, Option.map_eq_some_iff] at h
      obtain ⟨⟨run', after'⟩, hrun, heq⟩ := h
      simp only [Prod.mk.injEq] at heq
      obtain ⟨rfl, rfl⟩ := heq
      refine ((continues_skip verbose rest).bind (ih hrun) fun hnil => ?_).imp ?_
      · rw [hnil] at hrun
        cases n <;> simp_all [takeCount]
      · rintro more r ⟨mid, hmid, hr⟩
        simp only [List.cons_append, takeCount, hmid, hr, Option.map_some]

end Layout

theorem span_kept {test : Char → Bool} {cs run after : List Char} (h : cs.span test = (run, after))
    (hne : after ≠ []) (suffix : List Char) :
    (cs ++ suffix).span test = (run, after ++ suffix) := by
  rw [List.span_eq_takeWhile_dropWhile, Prod.mk.injEq] at h ⊢
  obtain ⟨rfl, rfl⟩ := h
  induction cs with
  | nil => exact absurd rfl hne
  | cons c cs ih =>
    by_cases hc : test c
    · simp only [List.cons_append, List.takeWhile_cons, List.dropWhile_cons, hc, if_true] at hne ⊢
      obtain ⟨h1, h2⟩ := ih hne
      exact ⟨by rw [h1], h2⟩
    · simp [hc]

namespace Token

/-- Reading by a function that may fail, to a fixed outcome. -/
def Reads {α : Type} (f : List Char → Except PatternError (α × List Char)) (x : α)
    (cs rest : List Char) : Prop :=
  f cs = .ok (x, rest)

theorem continues_readLazy {cs after : List Char} {lazy : Bool}
    (h : readLazy cs = (lazy, after)) :
    Continues (fun input rest => readLazy input = (lazy, rest)) cs after := by
  refine Or.inl fun more => ?_
  unfold readLazy at h ⊢
  split at h
  · cases h; rfl
  · rename_i hne
    cases h
    cases cs with
    | nil => rfl
    | cons c cs =>
      rw [List.cons_append]
      split
      · rename_i heq; cases heq; exact absurd rfl (hne cs)
      · rfl

theorem continues_simpleRepetition {min : Nat} {max : Option Nat} {cs after : List Char} {t : Token}
    (h : simpleRepetition min max cs = (t, after)) :
    Continues (fun input rest => simpleRepetition min max input = (t, rest)) cs after := by
  unfold simpleRepetition at h ⊢
  cases hl : readLazy cs with
  | mk lazy rest =>
    rw [hl] at h
    cases h
    exact (continues_readLazy hl).imp fun more r hr => by rw [hr]

theorem dropWhile_kept {test : Char → Bool} {cs : List Char} (hne : cs.dropWhile test ≠ [])
    (suffix : List Char) : (cs ++ suffix).dropWhile test = cs.dropWhile test ++ suffix := by
  rw [List.dropWhile_append, if_neg (by simpa using hne)]

theorem readLazy_nil {cs after : List Char} {lazy : Bool} (h : readLazy cs = (lazy, after))
    (hcs : cs = []) : after = [] ∧ readLazy [] = (lazy, []) := by
  subst hcs
  cases h
  exact ⟨rfl, rfl⟩

theorem continues_closeRepetition {verbose : Bool} {min : Nat} {max : Option Nat}
    {cs after : List Char} {t : Token} (h : closeRepetition verbose min max cs = .ok (t, after)) :
    Continues (Reads (closeRepetition verbose min max) t) cs after := by
  unfold closeRepetition at h
  split at h
  · rename_i rest
    cases hl : readLazy (Layout.skip verbose rest) with
    | mk lazy after' =>
      simp only [hl] at h
      split at h
      · cases h
      · rename_i hmax
        cases h
        refine ((Layout.continues_skip verbose rest).bind (continues_readLazy hl)
          (readLazy_nil hl)).imp ?_
        rintro more r ⟨mid, hmid, hr⟩
        simp only [Reads, List.cons_append, closeRepetition, hmid, hr, if_neg hmax]
  · cases h

theorem readCount_kept {verbose : Bool} {cs after : List Char} {n : Nat}
    (h : readCount verbose cs = .ok (n, after)) (hne : after ≠ []) (more : List Char) :
    readCount verbose (cs ++ ')' :: more) = .ok (n, after ++ ')' :: more) := by
  unfold readCount at h ⊢
  cases ht : Layout.takeWhile verbose Char.isDigit false (cs.dropWhile Layout.isBlank) with
  | mk digits rest =>
    simp only [ht] at h
    split at h
    · cases h
    rename_i hdigits
    split at h
    · cases h
    rename_i hlarge
    simp only [Except.ok.injEq, Prod.mk.injEq] at h
    obtain ⟨rfl, hafter⟩ := h
    have hrest : rest ≠ [] := by
      rintro rfl
      exact hne (by rw [← hafter]; cases verbose <;> rfl)
    have hblank : cs.dropWhile Layout.isBlank ≠ [] := by
      intro hnil
      rw [hnil] at ht
      cases ht
      exact hrest rfl
    rw [dropWhile_kept hblank, Layout.takeWhile_kept ht hrest]
    simp only [if_neg hdigits, if_neg hlarge]
    cases verbose with
    | true => simp_all
    | false =>
      simp only [Bool.false_eq_true, if_false] at hafter ⊢
      rw [dropWhile_kept (by rwa [hafter]), hafter]

theorem readCount_ne_nil {verbose : Bool} {cs : List Char} {r : Nat × List Char}
    (h : readCount verbose cs = .ok r) : cs ≠ [] := by
  rintro rfl
  cases h

theorem closeRepetition_ne_nil {verbose : Bool} {min : Nat} {max : Option Nat} {cs : List Char}
    {r : Token × List Char} (h : closeRepetition verbose min max cs = .ok r) : cs ≠ [] := by
  rintro rfl
  cases h

/-- What follows the comma of a repetition, past blanks and comments. -/
def afterComma (verbose : Bool) (min : Nat) : List Char → Except PatternError (Token × List Char)
  | [] => .error .repetitionUnclosed
  | '}' :: rest => closeRepetition verbose min none ('}' :: rest)
  | rest => (readCount verbose rest).bind fun r => closeRepetition verbose min (some r.1) r.2

/-- What follows the first count of a repetition. -/
def afterCount (verbose : Bool) (min : Nat) : List Char → Except PatternError (Token × List Char)
  | ',' :: rest => afterComma verbose min (Layout.skip verbose rest)
  | rest => closeRepetition verbose min (some min) rest

theorem readRepetition_eq (verbose : Bool) (cs : List Char) : readRepetition verbose cs =
    (readCount verbose (Layout.skip verbose cs)).bind fun r => afterCount verbose r.1 r.2 := by
  unfold readRepetition
  rfl

theorem continues_afterComma {verbose : Bool} {min : Nat} {cs after : List Char} {t : Token}
    (h : afterComma verbose min cs = .ok (t, after)) :
    Continues (Reads (afterComma verbose min) t) cs after := by
  unfold afterComma at h
  split at h
  · cases h
  · exact (continues_closeRepetition h).imp fun _ _ hr => hr
  · rename_i hnil hclose
    obtain ⟨⟨max, rest⟩, hmax, h⟩ := of_bind_ok h
    refine (continues_closeRepetition h).imp fun more r hr => ?_
    have hread := readCount_kept hmax (closeRepetition_ne_nil h) more
    cases cs with
    | nil => exact absurd rfl hnil
    | cons c tail =>
      have hcount : afterComma verbose min (c :: (tail ++ ')' :: more)) =
          (readCount verbose (c :: (tail ++ ')' :: more))).bind fun r =>
            closeRepetition verbose min (some r.1) r.2 := by
        rw [afterComma]
        · exact fun heq => List.cons_ne_nil _ _ heq
        · rintro rest heq
          cases heq
          exact hclose tail rfl
      rw [List.cons_append] at hread ⊢
      rw [Reads, hcount, hread]
      exact hr

theorem continues_afterCount {verbose : Bool} {min : Nat} {cs after : List Char} {t : Token}
    (h : afterCount verbose min cs = .ok (t, after)) :
    Continues (Reads (afterCount verbose min) t) cs after := by
  unfold afterCount at h
  split at h
  · rename_i rest
    have hrest : Layout.skip verbose rest ≠ [] := by
      intro hnil
      rw [hnil] at h
      cases h
    refine (continues_afterComma h).imp fun more r hr => ?_
    rw [Reads, List.cons_append, afterCount, Layout.skip_kept rfl hrest]
    exact hr
  · rename_i hcomma
    refine (continues_closeRepetition h).imp fun more r hr => ?_
    cases cs with
    | nil => exact absurd rfl (closeRepetition_ne_nil h)
    | cons c tail =>
      rw [List.cons_append] at hr ⊢
      rw [Reads, afterCount]
      · exact hr
      · rintro rest heq
        cases heq
        exact hcomma tail rfl

theorem continues_readRepetition {verbose : Bool} {cs after : List Char} {t : Token}
    (h : readRepetition verbose cs = .ok (t, after)) :
    Continues (Reads (readRepetition verbose) t) cs after := by
  rw [readRepetition_eq] at h
  obtain ⟨⟨min, rest⟩, hmin, h⟩ := of_bind_ok h
  have hrest : rest ≠ [] := by
    rintro rfl
    cases h
  refine (continues_afterCount h).imp fun more r hr => ?_
  rw [Reads, readRepetition_eq, Layout.skip_kept rfl (readCount_ne_nil hmin),
    readCount_kept hmin hrest]
  exact hr

theorem readName_kept {cs after : List Char} {t : Token} (h : readName cs = .ok (t, after))
    (suffix : List Char) : readName (cs ++ suffix) = .ok (t, after ++ suffix) := by
  unfold readName at h
  split at h
  · cases h
  · rename_i c name close rest hspan
    split at h
    · rename_i hname
      cases h
      simp only [readName, span_kept hspan (List.cons_ne_nil _ _), List.cons_append, if_pos hname]
    · cases h
  · cases h

theorem readFlags_kept {cs after : List Char} {on dangling : Bool}
    {switches found : List (Flag × Bool)} {c : Char}
    (h : readFlags cs on dangling switches = .ok (found, c, after)) (suffix : List Char) :
    readFlags (cs ++ suffix) on dangling switches = .ok (found, c, after ++ suffix) := by
  fun_induction readFlags cs on dangling switches with
  | case1 => cases h
  | case2 => cases h
  | case3 c' rest on dangling switches hend hd =>
    cases h
    simp only [List.cons_append, readFlags, if_pos hend, if_neg hd]
  | case4 _ _ _ hend ih =>
    rw [List.cons_append, readFlags, if_neg hend, if_pos rfl, if_pos rfl]
    exact ih h
  | case5 => cases h
  | case6 => cases h
  | case7 => cases h
  | case8 c' rest on dangling switches hend hminus flag hflag hnew ih =>
    simp only [List.cons_append, readFlags, if_neg hend, if_neg hminus, hflag, if_neg hnew]
    exact ih h

/-- The opening of a group, past the blanks before it. -/
theorem readGroup_kept {cs after : List Char} {t : Token}
    (h : readGroup false cs = .ok (t, after)) (more : List Char) :
    readGroup false (cs ++ ')' :: more) = .ok (t, after ++ ')' :: more) := by
  unfold readGroup at h ⊢
  simp only [Layout.skip, Bool.false_eq_true, if_false] at h ⊢
  split at h
  · cases h
  · cases h
  · cases h
  · cases h
  · exact readName_kept h _
  · rename_i rest heq hne
    cases rest with
    | nil => cases h
    | cons c tail =>
      have hread := readName_kept h (')' :: more)
      rw [List.cons_append] at hread
      simp_all
  · -- flags, up to the end of the group or of the switch
    rename_i rest h1 h2 h3 h4 h5 h6
    cases rest with
    | nil => cases h
    | cons c tail =>
      cases hf : readFlags (c :: tail) true false [] with
      | error e => rw [hf] at h; cases h
      | ok r =>
        obtain ⟨switches, d, rest⟩ := r
        have hP : c ≠ 'P' := by rintro rfl; cases hf
        have hread := readFlags_kept hf (')' :: more)
        rw [List.cons_append] at hread
        simp_all [bind, Except.bind]
        split at h
        · rename_i heq; cases heq; cases h; rfl
        · cases h
        · rename_i hcolon hempty heq
          cases heq
          cases h
          split
          · rename_i heq; cases heq; exact (hcolon rfl).elim
          · rename_i heq; cases heq; exact (hempty rfl).elim
          · rename_i heq; cases heq; rfl
  · rename_i h1 h2 h3 h4 h5 h6 h7
    cases h
    cases cs with
    | nil => rfl
    | cons c tail => simp_all

theorem continues_readGroup {verbose : Bool} {cs after : List Char} {t : Token}
    (h : readGroup verbose cs = .ok (t, after)) :
    Continues (Reads (readGroup verbose) t) cs after := by
  have hread : Continues (Reads (readGroup false) t) (Layout.skip verbose cs) after :=
    Or.inl fun more => readGroup_kept h more
  refine ((Layout.continues_skip verbose cs).bind hread fun hnil => ?_).imp ?_
  · have h' : readGroup false (Layout.skip verbose cs) = .ok (t, after) := h
    rw [hnil] at h'
    cases h'
    exact ⟨rfl, rfl⟩
  · rintro more r ⟨mid, rfl, hr⟩
    exact hr

/-! ### Escapes -/

theorem continues_ofHex {verbose : Bool} {count : Nat} {cs after : List Char} {t : Token}
    (h : ofHex verbose count cs = .ok (t, after)) :
    Continues (Reads (ofHex verbose count) t) cs after := by
  unfold ofHex at h
  split at h
  · cases h
  · rename_i rest hskip
    have hopen := Layout.skip_kept hskip (List.cons_ne_nil _ _)
    split at h
    · rename_i digits close after' hdigits
      have hread := Layout.takeWhile_kept hdigits (List.cons_ne_nil _ _)
      obtain ⟨c, hc, h⟩ := of_bind_ok h
      cases h
      refine (Layout.continues_skip verbose after').imp fun more r hr => ?_
      simp only [Reads, ofHex, hopen, List.cons_append, hread, hc, hr, bind, Except.bind, pure,
        Except.pure]
    · cases h
  · rename_i hnil hbrace
    split at h
    · cases h
    · rename_i digits after' hdigits
      obtain ⟨c, hc, h⟩ := of_bind_ok h
      cases h
      refine (Layout.continues_takeCount hdigits).imp fun more r hr => ?_
      have hopen := Layout.skip_kept rfl (fun e => hnil e) more
      cases hs : Layout.skip verbose cs with
      | nil => exact absurd hs hnil
      | cons d tail => simp_all [Reads, ofHex, bind, Except.bind, pure, Except.pure]

theorem continues_ofProperty {verbose negated : Bool} {cs after : List Char} {t : Token}
    (h : ofProperty verbose negated cs = .ok (t, after)) :
    Continues (Reads (ofProperty verbose negated) t) cs after := by
  unfold ofProperty at h
  split at h
  · cases h
  · rename_i rest hskip
    have hopen := Layout.skip_kept hskip (List.cons_ne_nil _ _)
    split at h
    · rename_i query close after' hquery
      have hread := Layout.takeWhile_kept hquery (List.cons_ne_nil _ _)
      cases h
      refine Or.inl fun more => ?_
      simp only [Reads, ofProperty, hopen, List.cons_append, hread]
      rfl
    · cases h
  · cases h
  · rename_i c rest hbrace hslash hskip
    have hopen := Layout.skip_kept hskip (List.cons_ne_nil _ _)
    cases h
    refine (Layout.continues_skip verbose rest).imp fun more r hr => ?_
    simp_all [Reads, ofProperty]

theorem ofBoundary_kept {verbose : Bool} {cs after : List Char} {t : Token}
    (h : ofBoundary verbose cs = .ok (t, after)) (more : List Char) :
    ofBoundary verbose (cs ++ ')' :: more) = .ok (t, after ++ ')' :: more) := by
  unfold ofBoundary at h
  split at h
  · rename_i rest
    split at h
    · cases h
    · rename_i c rest' hskip
      have hopen := Layout.skip_kept hskip (List.cons_ne_nil _ _) more
      split at h
      · rename_i hc
        split at h
        · rename_i name after' hname
          have hread := Layout.takeWhile_kept hname (List.cons_ne_nil _ _) more
          split at h
          · rename_i mark hmark
            cases h
            simp only [List.cons_append] at hread
            simp only [ofBoundary, List.cons_append, hopen, if_pos hc, hread, hmark]
          · cases h
        · cases h
      · rename_i hc
        cases h
        simp only [ofBoundary, List.cons_append, hopen, if_neg hc]
  · rename_i hbrace
    cases h
    cases cs with
    | nil => rfl
    | cons c tail => simp_all [ofBoundary]

theorem continues_ofEscape {verbose : Bool} {cs after : List Char} {t : Token}
    (h : ofEscape verbose cs = .ok (t, after)) :
    Continues (Reads (ofEscape verbose) t) cs after := by
  cases cs with
  | nil => cases h
  | cons c rest =>
    unfold ofEscape at h
    simp only at h
    split at h
    · cases h
    rename_i hdigit
    split at h
    · rename_i hesc
      cases h
      exact Or.inl fun more => by
        simp only [Reads, List.cons_append, ofEscape, if_neg hdigit, if_pos hesc]
    rename_i hesc
    -- all other escapes read one letter and nothing else
    split at h
    case h_1 => exact (continues_ofHex h).imp fun _ _ hr => hr
    case h_2 => exact (continues_ofHex h).imp fun _ _ hr => hr
    case h_3 => exact (continues_ofHex h).imp fun _ _ hr => hr
    case h_4 => exact (continues_ofProperty h).imp fun _ _ hr => hr
    case h_5 => exact (continues_ofProperty h).imp fun _ _ hr => hr
    case h_20 => exact Or.inl fun more => ofBoundary_kept h more
    case h_24 => cases h
    all_goals cases h; exact Or.inl fun more => rfl

end Token

/-! ### Bracket expressions -/

/-- The names of classes between colons consist of letters. -/
theorem PosixClass.not_mem_of_ofName? {name : List Char} {kind : PosixClass}
    (h : ofName? (.ofList name) = some kind) : ')' ∉ name := by
  have hmem : String.ofList name ∈ ["alnum", "alpha", "ascii", "blank", "cntrl", "digit", "graph",
      "lower", "print", "punct", "space", "upper", "word", "xdigit"] := by
    unfold ofName? at h
    split at h <;> simp_all
  have hall : ∀ s ∈ ["alnum", "alpha", "ascii", "blank", "cntrl", "digit", "graph", "lower",
      "print", "punct", "space", "upper", "word", "xdigit"], ')' ∉ s.toList := by decide
  simpa using hall _ hmem

namespace ClassExpr

open Token (Reads)

/-- The start of a bracket expression, past its caret if it has one. -/
def pastCaret (verbose : Bool) : List Char → Bool × List Char
  | '^' :: rest => (true, Layout.skip verbose rest)
  | cs => (false, cs)

theorem pastCaret_kept {verbose negated : Bool} {cs rest : List Char}
    (h : pastCaret verbose cs = (negated, rest)) (hne : rest ≠ []) (more : List Char) :
    pastCaret verbose (cs ++ ')' :: more) = (negated, rest ++ ')' :: more) := by
  unfold pastCaret at h
  split at h
  · cases h
    simp only [List.cons_append, pastCaret, Layout.skip_kept rfl hne]
  · rename_i hcaret
    cases h
    cases cs with
    | nil => exact absurd rfl hne
    | cons c tail => simp_all [pastCaret]

/-- What follows the caret: the hyphens, and a closing bracket in the place of the first item. -/
def firstItems (verbose negated : Bool) (start : List Char) :
    Except PatternError (Bool × List ClassExpr × List Char) :=
  match (Layout.takeWhile verbose (· == '-') false start).1.map fun c => literal ⟨c, false⟩,
      (Layout.takeWhile verbose (· == '-') false start).2 with
  | _, [] => .error .classUnclosed
  | [], ']' :: rest =>
    match Layout.skip verbose rest with
    | [] => .error .classUnclosed
    | rest => .ok (negated, [literal ⟨']', false⟩], rest)
  | items, cs => .ok (negated, items, cs)

theorem readOpening_eq (verbose : Bool) (cs : List Char) :
    readOpening verbose cs = firstItems verbose (pastCaret verbose (Layout.skip verbose cs)).1
      (pastCaret verbose (Layout.skip verbose cs)).2 := by
  unfold readOpening
  rfl

theorem firstItems_kept {verbose caret negated : Bool} {start after : List Char}
    {items : List ClassExpr} (h : firstItems verbose caret start = .ok (negated, items, after))
    (more : List Char) :
    start ≠ [] ∧
      firstItems verbose caret (start ++ ')' :: more) = .ok (negated, items, after ++ ')' :: more) := by
  cases ht : Layout.takeWhile verbose (· == '-') false start with
  | mk hyphens rest =>
    cases rest with
    | nil => simp [firstItems, ht] at h
    | cons c tail =>
      have hstart : start ≠ [] := by rintro rfl; cases ht
      have ht' := Layout.takeWhile_kept ht (List.cons_ne_nil _ _) more
      refine ⟨hstart, ?_⟩
      unfold firstItems at h ⊢
      rw [ht] at h
      rw [ht']
      cases hyphens with
      | cons d hyphens =>
        simp only [List.map_cons, List.cons_append] at h ⊢
        cases h
        rfl
      | nil =>
        by_cases hc : c = ']'
        · subst hc
          cases hs : Layout.skip verbose tail with
          | nil => simp [hs] at h
          | cons d tail' =>
            have hs' := Layout.skip_kept hs (List.cons_ne_nil _ _) more
            simp_all
        · simp only [List.map_nil, List.cons_append] at h ⊢
          split at h
          · contradiction
          · rename_i heq; cases heq; exact absurd rfl hc
          · cases h
            split
            · contradiction
            · rename_i heq; cases heq; exact absurd rfl hc
            · rfl

theorem readOpening_kept {verbose negated : Bool} {cs after : List Char} {items : List ClassExpr}
    (h : readOpening verbose cs = .ok (negated, items, after)) (more : List Char) :
    readOpening verbose (cs ++ ')' :: more) = .ok (negated, items, after ++ ')' :: more) := by
  rw [readOpening_eq] at h ⊢
  obtain ⟨hstart, hfirst⟩ := firstItems_kept h more
  have hskip : Layout.skip verbose cs ≠ [] := by
    intro hnil
    rw [hnil] at hstart
    exact hstart rfl
  rw [Layout.skip_kept rfl hskip, pastCaret_kept rfl hstart]
  exact hfirst

/-- A class by its name, after the colon that opens it. -/
def namedClass? (negated : Bool) (cs : List Char) : Option (ClassExpr × List Char) :=
  match cs.span (· != ':') with
  | (name, ':' :: ']' :: after) =>
    (PosixClass.ofName? (.ofList name)).map fun kind => (posix negated kind, after)
  | _ => none

theorem namedClass?_kept (negated : Bool) (cs more : List Char) :
    namedClass? negated (cs ++ ')' :: more) =
      (namedClass? negated cs).map fun r => (r.1, r.2 ++ ')' :: more) := by
  cases hs : cs.span (· != ':') with
  | mk name tail =>
    cases tail with
    | nil =>
      -- the name runs on over the parenthesis, which no class has in its name
      have hname : ∀ name' after, (cs ++ ')' :: more).span (· != ':') = (name', after) →
          ')' ∈ name' := by
        intro name' after h
        have hall : ∀ c ∈ cs, (c != ':') = true := by
          rw [List.span_eq_takeWhile_dropWhile, Prod.mk.injEq] at hs
          exact List.dropWhile_eq_nil_iff.1 hs.2
        rw [List.span_eq_takeWhile_dropWhile, List.takeWhile_append_of_pos hall] at h
        cases h
        simp
      have hnone : namedClass? negated cs = none := by unfold namedClass?; rw [hs]
      rw [hnone]
      unfold namedClass?
      split
      · rename_i name' after h
        cases ho : PosixClass.ofName? (String.ofList name') with
        | none => rfl
        | some kind => exact absurd (hname _ _ h) (PosixClass.not_mem_of_ofName? ho)
      · rfl
    | cons c tail =>
      unfold namedClass?
      rw [hs, span_kept hs (List.cons_ne_nil _ _)]
      cases tail with
      | nil => simp
      | cons d tail =>
        rw [List.cons_append, List.cons_append]
        split
        · rename_i heq
          simp only [Prod.mk.injEq, List.cons.injEq] at heq
          obtain ⟨rfl, rfl, rfl, rfl⟩ := heq
          simp only [Option.map_map]
          rfl
        · rename_i hne
          split
          · rename_i heq
            simp only [Prod.mk.injEq, List.cons.injEq] at heq
            obtain ⟨rfl, rfl, rfl, rfl⟩ := heq
            exact (hne _ _ rfl).elim
          · rfl

/-- The name of a class, past the caret that negates it if it has one. -/
def pastNegation : List Char → Bool × List Char
  | '^' :: rest => (true, rest)
  | rest => (false, rest)

theorem pastNegation_kept (rest more : List Char) :
    pastNegation (rest ++ ')' :: more) =
      ((pastNegation rest).1, (pastNegation rest).2 ++ ')' :: more) := by
  cases rest with
  | nil => rfl
  | cons c tail =>
    by_cases hc : c = '^'
    · subst hc; rfl
    · simp_all [pastNegation]

theorem readPosix?_colon (rest : List Char) :
    readPosix? (':' :: rest) = namedClass? (pastNegation rest).1 (pastNegation rest).2 := by
  unfold readPosix?
  rfl

theorem readPosix?_kept (cs more : List Char) :
    readPosix? (cs ++ ')' :: more) =
      (readPosix? cs).map fun r => (r.1, r.2 ++ ')' :: more) := by
  cases cs with
  | nil => rfl
  | cons c rest =>
    by_cases hc : c = ':'
    · subst hc
      rw [List.cons_append, readPosix?_colon, readPosix?_colon, pastNegation_kept,
        namedClass?_kept]
    · simp_all [readPosix?]

/-- The item that an escape stands for inside brackets. -/
def itemOf : Token × List Char → Except PatternError (ClassExpr × List Char)
  | (.literal l, after) => .ok (literal l, after)
  | (.shorthand negated kind, after) => .ok (shorthand negated kind, after)
  | (.property negated query, after) => .ok (property negated query, after)
  | _ => .error .classEscape

theorem readItem_escape (verbose : Bool) (cs : List Char) :
    readItem verbose ('\\' :: cs) = (Token.ofEscape verbose cs).bind itemOf := rfl

theorem readItem_of_ne {verbose : Bool} {c : Char} (hc : c ≠ '\\') (cs : List Char) :
    readItem verbose (c :: cs) = .ok (literal ⟨c, false⟩, cs) := by
  unfold readItem
  split <;> simp_all

theorem itemOf_eq_ok {t : Token} {cs rest : List Char} {e : ClassExpr}
    (h : itemOf (t, cs) = .ok (e, rest)) :
    rest = cs ∧ t ≠ .anchor .wordBoundary ∧ ∀ after, itemOf (t, after) = .ok (e, after) := by
  unfold itemOf at h
  split at h
  case h_4 => cases h
  all_goals
    rename_i heq
    cases heq
    cases h
    exact ⟨rfl, by simp, fun after => rfl⟩

theorem continues_readItem {verbose : Bool} {cs after : List Char} {e : ClassExpr}
    (h : readItem verbose cs = .ok (e, after)) :
    Continues (Reads (readItem verbose) e) cs after := by
  cases cs with
  | nil => cases h
  | cons c rest =>
    by_cases hc : c = '\\'
    · subst hc
      rw [readItem_escape] at h
      obtain ⟨⟨t, mid⟩, hescape, h⟩ := of_bind_ok h
      obtain ⟨rfl, -, hitem⟩ := itemOf_eq_ok h
      refine (Token.continues_ofEscape hescape).imp fun more r hr => ?_
      have hread : Token.ofEscape verbose (rest ++ ')' :: more) = .ok (t, r) := hr
      rw [Reads, List.cons_append, readItem_escape, hread]
      exact hitem r
    · rw [readItem_of_ne hc] at h
      cases h
      exact Or.inl fun more => readItem_of_ne hc (after ++ ')' :: more)

theorem head?_dropWhile_kept {test : Char → Bool} {cs : List Char} {c : Char}
    (h : (cs.dropWhile test).head? = some c) (suffix : List Char) :
    ((cs ++ suffix).dropWhile test).head? = some c := by
  have hne : cs.dropWhile test ≠ [] := by
    intro hnil
    rw [hnil] at h
    cases h
  rw [Token.dropWhile_kept hne, List.head?_append, h]
  rfl

theorem peek?_kept {verbose : Bool} {cs : List Char} {c : Char} (h : peek? verbose cs = some c)
    (suffix : List Char) : peek? verbose (cs ++ suffix) = some c := by
  cases verbose with
  | false =>
    have h' : cs.head? = some c := h
    show (cs ++ suffix).head? = some c
    rw [List.head?_append, h']
    rfl
  | true =>
    simp only [peek?, if_true] at h ⊢
    cases hd : cs.dropWhile Layout.isBlank with
    | nil => rw [hd] at h; cases h
    | cons d tail =>
      have hne : cs.dropWhile Layout.isBlank ≠ [] := by rw [hd]; exact List.cons_ne_nil _ _
      rw [Token.dropWhile_kept hne, hd, List.cons_append]
      rw [hd] at h
      by_cases hhash : d = '#'
      · subst hhash
        exact head?_dropWhile_kept h suffix
      · simp_all

/-- Where nothing decides what a hyphen means, nothing but blanks and comments follow. -/
theorem skip_of_peek?_none {verbose : Bool} {cs : List Char} (h : peek? verbose cs = none) :
    Layout.skip verbose cs = [] := by
  cases verbose with
  | false => simpa [peek?, Layout.skip] using h
  | true =>
    simp only [peek?, if_true] at h
    show Layout.drop false cs = []
    rw [← Layout.drop_dropWhile]
    cases hd : cs.dropWhile Layout.isBlank with
    | nil => rfl
    | cons d tail =>
      rw [hd] at h
      by_cases hhash : d = '#'
      · subst hhash
        have hblank : ∀ c ∈ tail, Layout.isBlank c = true := by
          simp only [List.head?_eq_none_iff] at h
          exact List.dropWhile_eq_nil_iff.1 h
        have hd' : Layout.isBlank '#' = false := by decide
        rw [Layout.drop, hd', if_neg (by decide), if_pos rfl, Layout.drop_blank hblank]
      · simp_all

/-- The range between two items, if both are single characters and in order. -/
def rangeOf (after : List Char) : ClassExpr → ClassExpr → Except PatternError (ClassExpr × List Char)
  | literal lo, literal hi =>
    if lo.char ≤ hi.char then .ok (range lo hi, after) else .error .classRangeReversed
  | _, _ => .error .classRangeEnd

theorem rangeOf_eq_ok {first second e : ClassExpr} {cs after : List Char}
    (h : rangeOf cs first second = .ok (e, after)) :
    after = cs ∧ ∀ rest, rangeOf rest first second = .ok (e, rest) := by
  unfold rangeOf at h
  split at h
  · split at h
    · rename_i hle
      cases h
      exact ⟨rfl, fun rest => if_pos hle⟩
    · cases h
  · cases h

/-- What follows an item and a hyphen. -/
def afterHyphen (verbose : Bool) (first : ClassExpr) (rest : List Char) :
    Except PatternError (ClassExpr × List Char) :=
  if peek? verbose rest = some ']' ∨ peek? verbose rest = some '-' then .ok (first, '-' :: rest)
  else if Layout.skip verbose rest = [] then .error .classUnclosed
  else (readItem verbose (Layout.skip verbose rest)).bind fun r => rangeOf r.2 first r.1

/-- What follows an item, past blanks and comments. -/
def afterItem (verbose : Bool) (first : ClassExpr) :
    List Char → Except PatternError (ClassExpr × List Char)
  | [] => .error .classUnclosed
  | '-' :: rest => afterHyphen verbose first rest
  | rest => .ok (first, rest)

theorem readRange_of_readItem {verbose : Bool} {cs rest : List Char} {first : ClassExpr}
    (h : readItem verbose cs = .ok (first, rest)) :
    readRange verbose cs = afterItem verbose first (Layout.skip verbose rest) := by
  unfold readRange
  rw [h]
  simp only [bind, Except.bind]
  split
  · rename_i hs
    rw [hs]
    rfl
  · rename_i rest' hs
    rw [hs, afterItem, afterHyphen]
    split
    · rfl
    · cases hs' : Layout.skip verbose rest' with
      | nil => rfl
      | cons c tail =>
        rw [if_neg (List.cons_ne_nil _ _)]
        cases hr : readItem verbose (c :: tail) with
        | error e => simp only [hr]; rfl
        | ok r => simp only [hr]; rfl
  · rename_i hnil hhyphen
    rw [afterItem]
    · rfl
    · exact hnil
    · exact hhyphen

theorem continues_afterHyphen {verbose : Bool} {first e : ClassExpr} {rest after : List Char}
    (h : afterHyphen verbose first rest = .ok (e, after)) :
    Continues (Reads (afterHyphen verbose first) e) rest after := by
  unfold afterHyphen at h
  split at h
  · rename_i hpeek
    cases h
    refine Or.inl fun more => if_pos ?_
    exact hpeek.imp (fun h => peek?_kept h _) (fun h => peek?_kept h _)
  · rename_i hpeek
    split at h
    · cases h
    rename_i hrest
    -- something follows the hyphen, so the parenthesis is not what decides its meaning
    obtain ⟨d, hd⟩ := Option.ne_none_iff_exists'.1 fun hnone => hrest (skip_of_peek?_none hnone)
    obtain ⟨⟨second, after'⟩, hr, h⟩ := of_bind_ok h
    obtain ⟨rfl, hrange⟩ := rangeOf_eq_ok h
    refine (continues_readItem hr).imp fun more rest' hr' => ?_
    have hskip := Layout.skip_kept rfl hrest more
    have hopen : Layout.skip verbose rest ++ ')' :: more ≠ [] := by simp
    unfold Reads at hr'
    rw [Reads, afterHyphen, peek?_kept hd, ← hd, if_neg hpeek, hskip, if_neg hopen, hr']
    exact hrange rest'

theorem continues_afterItem {verbose : Bool} {first e : ClassExpr} {cs after : List Char}
    (h : afterItem verbose first cs = .ok (e, after)) :
    Continues (Reads (afterItem verbose first) e) cs after := by
  cases cs with
  | nil => cases h
  | cons c rest =>
    by_cases hc : c = '-'
    · subst hc
      exact (continues_afterHyphen h).imp fun _ _ hr => hr
    · have hitem : ∀ rest, afterItem verbose first (c :: rest) = .ok (first, c :: rest) := by
        intro rest
        unfold afterItem
        split
        · contradiction
        · rename_i heq; cases heq; exact absurd rfl hc
        · rfl
      rw [hitem] at h
      cases h
      exact Or.inl fun more => hitem _

theorem continues_readRange {verbose : Bool} {cs after : List Char} {e : ClassExpr}
    (h : readRange verbose cs = .ok (e, after)) :
    Continues (Reads (readRange verbose) e) cs after := by
  obtain ⟨⟨first, rest⟩, hf, -⟩ := of_bind_ok h
  rw [readRange_of_readItem hf] at h
  have hskip : Layout.skip verbose rest ≠ [] := by
    intro hnil
    rw [hnil] at h
    cases h
  have hrest : rest ≠ [] := by
    rintro rfl
    exact hskip (Layout.skip_nil verbose)
  refine (continues_afterItem h).imp fun more rest' hr => ?_
  rw [Reads, readRange_of_readItem ((continues_readItem hf).kept hrest more),
    Layout.skip_kept rfl hskip]
  exact hr

theorem readBody_ne_nil {verbose : Bool} {fuel : Nat} {frames : List ClassFrame}
    {items : List ClassExpr} {cs : List Char} {r : ClassExpr × List Char}
    (h : readBody verbose fuel frames items cs = .ok r) : cs ≠ [] := by
  rintro rfl
  cases fuel with
  | zero => cases h
  | succ fuel => simp [readBody] at h

theorem readBody_kept {verbose : Bool} {fuel fuel' : Nat} (hfuel : fuel ≤ fuel')
    {frames : List ClassFrame} {items : List ClassExpr} {cs after : List Char} {e : ClassExpr}
    (h : readBody verbose fuel frames items cs = .ok (e, after)) (more : List Char) :
    readBody verbose fuel' frames items (cs ++ ')' :: more) = .ok (e, after ++ ')' :: more) := by
  induction fuel generalizing fuel' frames items cs with
  | zero => cases h
  | succ fuel ih =>
    obtain ⟨fuel', rfl⟩ : ∃ k, fuel' = k + 1 := ⟨fuel' - 1, by omega⟩
    have ih := fun {frames} {items} {cs} => @ih fuel' (by omega) frames items cs
    have hne : Layout.skip verbose cs ≠ [] := by
      intro hnil
      simp [readBody, hnil] at h
    have hskip := Layout.skip_kept rfl hne more
    rw [readBody] at h ⊢
    rw [hskip]
    simp only at h ⊢
    cases hs : Layout.skip verbose cs with
    | nil => exact absurd hs hne
    | cons c rest =>
      rw [hs] at h
      split at h
      case h_1 => contradiction
      case h_2 rest' heq =>
        -- an inner bracket, which may be a class by its name
        cases heq
        cases hposix : readPosix? rest with
        | some r =>
          rw [hposix] at h
          simp only [List.cons_append, readPosix?_kept, hposix, Option.map_some]
          exact ih h
        | none =>
          rw [hposix] at h
          obtain ⟨⟨negated, first, after'⟩, ho, h⟩ := of_bind_ok h
          simp only [List.cons_append, readPosix?_kept, hposix, Option.map_none,
            readOpening_kept ho more, bind, Except.bind]
          exact ih h
      case h_3 rest' heq =>
        -- the end of a bracket, and of the whole if no other is open
        cases heq
        simp only [List.cons_append]
        split at h
        · cases h; rfl
        · exact ih h
        · cases h
      case h_4 rest' heq => cases heq; exact ih h
      case h_5 rest' heq => cases heq; exact ih h
      case h_6 rest' heq => cases heq; exact ih h
      case h_7 =>
        -- an item: the parenthesis after the text makes no operator of it
        obtain ⟨⟨item, after'⟩, hr, h⟩ := of_bind_ok h
        have hitem : readRange verbose (c :: (rest ++ ')' :: more)) = _ :=
          (continues_readRange hr).kept (readBody_ne_nil h) more
        cases rest with
        | nil => simp_all [bind, Except.bind]
        | cons d tail => simp_all [bind, Except.bind]

/-- **Bracket expressions** are read alike whatever follows. -/
theorem read_kept {verbose : Bool} {cs after : List Char} {e : ClassExpr}
    (h : read verbose cs = .ok (e, after)) (more : List Char) :
    read verbose (cs ++ ')' :: more) = .ok (e, after ++ ')' :: more) := by
  unfold read at h ⊢
  obtain ⟨⟨negated, items, rest⟩, ho, h⟩ := of_bind_ok h
  rw [readOpening_kept ho more]
  exact readBody_kept (by simp) h more

end ClassExpr

namespace Token

/-- **The first token of a text** is the same if the text goes on with a closing parenthesis. -/
theorem continues_next {verbose : Bool} {c : Char} {cs after : List Char} {t : Token}
    (h : next verbose c cs = .ok (t, after)) :
    Continues (Reads (next verbose c) t) cs after := by
  unfold next at h
  split at h
  case h_1 => exact (continues_readGroup h).imp fun _ _ hr => hr
  case h_4 =>
    obtain ⟨⟨e, rest⟩, he, h⟩ := of_bind_ok h
    cases h
    refine Or.inl fun more => ?_
    simp only [Reads, next, ClassExpr.read_kept he more]
    rfl
  case h_5 =>
    refine (continues_simpleRepetition (Except.ok.inj h)).imp fun more r hr => ?_
    simp only [Reads, next, hr]
  case h_6 =>
    refine (continues_simpleRepetition (Except.ok.inj h)).imp fun more r hr => ?_
    simp only [Reads, next, hr]
  case h_7 =>
    refine (continues_simpleRepetition (Except.ok.inj h)).imp fun more r hr => ?_
    simp only [Reads, next, hr]
  case h_8 => exact (continues_readRepetition h).imp fun _ _ hr => hr
  case h_9 => exact (continues_ofEscape h).imp fun _ _ hr => hr
  case h_13 =>
    cases h
    exact Or.inl fun more => by simp_all [Reads, next]
  all_goals cases h; exact Or.inl fun more => rfl

end Token

end RequestRouter.Regex
