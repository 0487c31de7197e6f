import Mathlib.Tactic
import RequestRouter.Template.Piece

/-!
# Braces and pieces

Braces are balanced if none is closed before it is opened, and as many are closed as are opened. A
counter finds out, the *level*: the number of braces that are open. What is between the outermost braces
is balanced itself, so a text whose braces are balanced can be cut up in one way only.

* `Balanced`, `Unbalanced`: whether the braces of a text are balanced.
* `levelAfter?`, `levelAfter?_eq_some`, `Leads`: the level after a text, in closed form and step by step.
* `Piece.Grammar`: the pieces of a template.
* `Piece.split?_eq_some_iff`, `Piece.split?_eq_none_iff`: **the pieces of a text** are the only ones, and a
  text has some exactly if its braces are balanced.
* `Piece.outermost`: a part in braces is not inside another one.
-/

namespace RequestRouter.Template

/-- No brace is closed before it is opened, and as many are closed as are opened. -/
def Balanced (cs : List Char) : Prop :=
  (∀ start, start <+: cs → start.count '}' ≤ start.count '{') ∧ cs.count '{' = cs.count '}'

/-- A brace is closed before it is opened, or the braces that are closed are not as many as are opened. -/
def Unbalanced (cs : List Char) : Prop :=
  (∃ start, start <+: cs ∧ start.count '{' < start.count '}') ∨ cs.count '{' ≠ cs.count '}'

/-- The level after one more character, unless it closes a brace and none is open. -/
def levelStep? (level : Nat) (c : Char) : Option Nat :=
  if c = '{' then some (level + 1)
  else if c = '}' then if level = 0 then none else some (level - 1)
  else some level

/-- The level after a text, given the level before it. -/
def levelAfter? (level : Nat) (cs : List Char) : Option Nat :=
  cs.foldlM levelStep? level

variable {cs start body inner rest : List Char} {c : Char} {j k m : Nat}

/-! ### Levels -/

theorem levelAfter?_open : levelAfter? k ('{' :: cs) = levelAfter? (k + 1) cs := rfl

theorem levelAfter?_close : levelAfter? (k + 1) ('}' :: cs) = levelAfter? k cs := rfl

theorem levelAfter?_close_zero : levelAfter? 0 ('}' :: cs) = none := rfl

theorem levelAfter?_of_ne (hopen : c ≠ '{') (hclose : c ≠ '}') :
    levelAfter? k (c :: cs) = levelAfter? k cs := by
  rw [levelAfter?, List.foldlM_cons, levelStep?, if_neg hopen, if_neg hclose]
  rfl

/-- A text leads from one level to another, character by character. -/
inductive Leads (m : Nat) : Nat → List Char → Prop
  | nil : Leads m m []
  | opening {k : Nat} {cs : List Char} (h : Leads m (k + 1) cs) : Leads m k ('{' :: cs)
  | closing {k : Nat} {cs : List Char} (h : Leads m k cs) : Leads m (k + 1) ('}' :: cs)
  | other {k : Nat} {c : Char} {cs : List Char} (hopen : c ≠ '{') (hclose : c ≠ '}')
    (h : Leads m k cs) : Leads m k (c :: cs)

theorem leads_of_levelAfter? (h : levelAfter? k cs = some m) : Leads m k cs := by
  induction cs generalizing k with
  | nil =>
    cases h
    exact .nil
  | cons c cs ih =>
    by_cases hopen : c = '{'
    · rw [hopen, levelAfter?_open] at h
      rw [hopen]
      exact .opening (ih h)
    · by_cases hclose : c = '}'
      · cases k with
        | zero =>
          rw [hclose, levelAfter?_close_zero] at h
          cases h
        | succ k =>
          rw [hclose, levelAfter?_close] at h
          rw [hclose]
          exact .closing (ih h)
      · rw [levelAfter?_of_ne hopen hclose] at h
        exact .other hopen hclose (ih h)

theorem levelAfter?_append : levelAfter? k (cs ++ rest) =
    (levelAfter? k cs).bind fun level => levelAfter? level rest :=
  List.foldlM_append

theorem forall_prefix_cons {P : List Char → Prop} :
    (∀ start, start <+: c :: cs → P start) ↔ P [] ∧ ∀ start, start <+: cs → P (c :: start) := by
  constructor
  · exact fun h => ⟨h [] List.nil_prefix, fun start hstart => h _ ((List.prefix_cons_inj c).2 hstart)⟩
  · rintro ⟨hnil, hcons⟩ start hstart
    rcases List.prefix_cons_iff.1 hstart with rfl | ⟨start, rfl, hrest⟩
    · exact hnil
    · exact hcons start hrest

/-- **The level after a text** counts the braces that it opens and does not close. -/
theorem levelAfter?_eq_some : levelAfter? k cs = some m ↔
    (∀ start, start <+: cs → start.count '}' ≤ k + start.count '{') ∧
      m + cs.count '}' = k + cs.count '{' := by
  induction cs generalizing k with
  | nil => simp [levelAfter?, eq_comm]
  | cons c cs ih =>
    rw [forall_prefix_cons]
    by_cases hopen : c = '{'
    · rw [hopen, levelAfter?_open, ih]
      simp [Nat.add_assoc, Nat.add_comm 1]
    · by_cases hclose : c = '}'
      · rw [hclose]
        cases k with
        | zero =>
          rw [levelAfter?_close_zero]
          refine iff_of_false (by simp) fun h => ?_
          have hfirst := h.1.2 [] List.nil_prefix
          simp at hfirst
        | succ k =>
          rw [levelAfter?_close, ih]
          simp [← Nat.add_assoc, Nat.add_right_comm _ 1]
      · rw [levelAfter?_of_ne hopen hclose, ih]
        simp [hopen, hclose]

theorem balanced_iff : Balanced cs ↔ levelAfter? 0 cs = some 0 := by
  rw [levelAfter?_eq_some, Balanced]
  simp [eq_comm]

instance (cs : List Char) : Decidable (Balanced cs) :=
  decidable_of_iff (levelAfter? 0 cs = some 0) balanced_iff.symm

/-- From a higher level, a text leads to a level that is higher by as much. -/
theorem levelAfter?_add (h : levelAfter? k cs = some m) (j : Nat) :
    levelAfter? (k + j) cs = some (m + j) := by
  obtain ⟨hstarts, hcount⟩ := levelAfter?_eq_some.1 h
  refine levelAfter?_eq_some.2 ⟨fun start hstart => ?_, by omega⟩
  have hle := hstarts start hstart
  omega

theorem unbalanced_iff : Unbalanced cs ↔ ¬Balanced cs := by
  rw [Balanced, not_and_or]
  push Not
  rfl

/-- A balanced text ends where a brace is closed that it did not open. -/
theorem balanced_inj {rest' : List Char} (hbody : Balanced body) (hinner : Balanced inner)
    (h : body ++ '}' :: rest = inner ++ '}' :: rest') : body = inner := by
  have hle : ∀ {a b x y : List Char}, Balanced a → Balanced b → a ++ '}' :: x = b ++ '}' :: y →
      a.length ≤ b.length → a = b := by
    intro a b x y ha hb hab hlength
    obtain ⟨e, rfl⟩ := List.prefix_of_prefix_length_le ⟨_, rfl⟩ ⟨_, hab.symm⟩ hlength
    cases e with
    | nil => exact (List.append_nil a).symm
    | cons c e =>
      rw [List.append_assoc, List.append_cancel_left_eq, List.cons_append] at hab
      rw [balanced_iff, levelAfter?_append, balanced_iff.1 ha, ← (List.cons.inj hab).1] at hb
      cases hb
  rcases Nat.le_total body.length inner.length with hlength | hlength
  · exact hle hbody hinner h hlength
  · exact (hle hinner hbody h.symm hlength).symm

namespace Piece

/-- The pieces of a template: literal text without braces, of which no two pieces follow each other, and
parts in braces that are balanced. -/
inductive Grammar : List Piece → Prop
  | nil : Grammar []
  | literal {text : List Char} {pieces : List Piece} (hne : text ≠ []) (hopen : '{' ∉ text)
    (hclose : '}' ∉ text) (hapart : ∀ next, pieces.head? ≠ some (.literal next))
    (hrest : Grammar pieces) : Grammar (.literal text :: pieces)
  | braced {body : List Char} {pieces : List Piece} (hbody : Balanced body)
    (hrest : Grammar pieces) : Grammar (.braced body :: pieces)

variable {pieces earlier later : List Piece} {acc : List Char}

/-! ### From pieces to text and back -/

theorem splitAt?_literal (hopen : '{' ∉ cs) (hclose : '}' ∉ cs) (acc rest : List Char) :
    splitAt? 0 acc (cs ++ rest) = splitAt? 0 (cs.reverse ++ acc) rest := by
  induction cs generalizing acc with
  | nil => rfl
  | cons c cs ih =>
    rw [List.mem_cons, not_or] at hopen hclose
    rw [List.cons_append, splitAt?, if_neg (Ne.symm hopen.1), if_neg (Ne.symm hclose.1),
      ih hopen.2 hclose.2, List.reverse_cons, List.append_assoc, List.singleton_append]

/-- Inside a part in braces, the depth goes along with the level. -/
theorem splitAt?_body (h : Leads m k body) (acc rest : List Char) :
    splitAt? (k + 1) acc (body ++ rest) = splitAt? (m + 1) (body.reverse ++ acc) rest := by
  induction h generalizing acc with
  | nil => rfl
  | opening _ ih =>
    rw [List.cons_append, splitAt?, if_pos rfl, ih, List.reverse_cons, List.append_assoc]
    rfl
  | @closing k _ _ ih =>
    rw [List.cons_append, splitAt?, if_neg (by decide), if_pos rfl, if_neg (Nat.succ_ne_zero k), ih,
      List.reverse_cons, List.append_assoc]
    rfl
  | other hopen hclose _ ih =>
    rw [List.cons_append, splitAt?, if_neg hopen, if_neg hclose, ih, List.reverse_cons,
      List.append_assoc]
    rfl

/-- A part in braces is a piece of its own. -/
theorem splitAt?_braced (hbody : Balanced body) (acc rest : List Char) :
    splitAt? 0 acc ((braced body).text ++ rest) =
      (splitAt? 0 [] rest).map fun pieces => literalOf acc ++ braced body :: pieces := by
  have htext : (braced body).text ++ rest = '{' :: (body ++ '}' :: rest) := by simp [text]
  rw [htext, splitAt?, if_pos rfl, splitAt?_body (leads_of_levelAfter? (balanced_iff.1 hbody)), splitAt?,
    if_neg (by decide), if_pos rfl, if_pos rfl, List.append_nil, List.reverse_reverse,
    Option.map_map]
  rfl

theorem literalOf_reverse (hne : cs ≠ []) : literalOf cs.reverse = [literal cs] := by
  rw [literalOf, List.isEmpty_reverse, List.reverse_reverse]
  simp [hne]

/-- Pieces are cut out of their text as they are, `acc` being literal text that has been passed. -/
theorem splitAt?_of_grammar (h : Grammar pieces)
    (hacc : ∀ next, pieces.head? = some (.literal next) → acc = []) :
    splitAt? 0 acc (pieces.flatMap text) = some (literalOf acc ++ pieces) := by
  induction h generalizing acc with
  | nil => simp [splitAt?]
  | @literal text pieces hne hopen hclose hapart hrest ih =>
    rw [hacc text rfl, List.flatMap_cons, show (literal text).text = text from rfl,
      splitAt?_literal hopen hclose, ih fun next hnext => absurd hnext (hapart next),
      List.append_nil, literalOf_reverse hne]
    rfl
  | @braced body pieces hbody hrest ih =>
    rw [List.flatMap_cons, splitAt?_braced hbody, ih fun _ _ => rfl]
    rfl

theorem grammar_literalOf (hopen : '{' ∉ acc) (hclose : '}' ∉ acc) (hrest : Grammar pieces)
    (hapart : ∀ next, pieces.head? ≠ some (.literal next)) : Grammar (literalOf acc ++ pieces) := by
  cases acc with
  | nil => exact hrest
  | cons c acc =>
    refine .literal ?_ ?_ ?_ hapart hrest
    · simp
    · rwa [List.mem_reverse]
    · rwa [List.mem_reverse]

/-- What the text since the last cut is like, given in reverse: without braces outside of a part in
braces, and inside of one what leads to the depth there. -/
def Pending : Nat → List Char → Prop
  | 0, acc => '{' ∉ acc ∧ '}' ∉ acc
  | level + 1, acc => levelAfter? 0 acc.reverse = some level

theorem levelAfter?_reverse_cons (h : levelAfter? 0 acc.reverse = some k) (c : Char) :
    levelAfter? 0 (c :: acc).reverse = levelAfter? k [c] := by
  rw [List.reverse_cons, levelAfter?_append, h]
  rfl

/-- What is cut out of a text are pieces of the grammar, and inside a part in braces that part comes
first. -/
theorem grammar_of_splitAt? (depth : Nat) (acc cs : List Char) (pieces : List Piece)
    (h : splitAt? depth acc cs = some pieces) (hacc : Pending depth acc) :
    Grammar pieces ∧ (depth ≠ 0 → ∀ next, pieces.head? ≠ some (.literal next)) := by
  fun_induction splitAt? depth acc cs generalizing pieces with
  | case1 acc =>
    cases h
    rw [← List.append_nil (literalOf acc)]
    exact ⟨grammar_literalOf hacc.1 hacc.2 .nil (by simp), fun hne => absurd rfl hne⟩
  | case2 => cases h
  | case3 acc rest ih =>
    obtain ⟨tail, htail, rfl⟩ := Option.map_eq_some_iff.1 h
    obtain ⟨hgrammar, hapart⟩ := ih tail htail rfl
    exact ⟨grammar_literalOf hacc.1 hacc.2 hgrammar (hapart Nat.one_ne_zero),
      fun hne => absurd rfl hne⟩
  | case4 => cases h
  | case5 acc c rest hopen hclose ih =>
    exact ih pieces h ⟨List.not_mem_cons_of_ne_of_not_mem (Ne.symm hopen) hacc.1,
      List.not_mem_cons_of_ne_of_not_mem (Ne.symm hclose) hacc.2⟩
  | case6 depth acc rest ih =>
    obtain ⟨hgrammar, hapart⟩ := ih pieces h (levelAfter?_reverse_cons hacc '{')
    exact ⟨hgrammar, fun _ => hapart (Nat.succ_ne_zero _)⟩
  | case7 acc rest hopen ih =>
    obtain ⟨tail, htail, rfl⟩ := Option.map_eq_some_iff.1 h
    obtain ⟨hgrammar, -⟩ := ih tail htail ⟨List.not_mem_nil, List.not_mem_nil⟩
    exact ⟨.braced (balanced_iff.2 hacc) hgrammar, by simp⟩
  | case8 depth acc rest hdepth hopen ih =>
    obtain ⟨level, rfl⟩ := Nat.exists_eq_succ_of_ne_zero hdepth
    obtain ⟨hgrammar, hapart⟩ := ih pieces h (levelAfter?_reverse_cons hacc '}')
    exact ⟨hgrammar, fun _ => hapart hdepth⟩
  | case9 depth acc c rest hopen hclose ih =>
    have hacc' : Pending (depth + 1) (c :: acc) :=
      (levelAfter?_reverse_cons hacc c).trans (levelAfter?_of_ne hopen hclose)
    obtain ⟨hgrammar, hapart⟩ := ih pieces h hacc'
    exact ⟨hgrammar, fun _ => hapart (Nat.succ_ne_zero _)⟩

theorem isSome_splitAt? (depth : Nat) (acc cs : List Char) :
    (splitAt? depth acc cs).isSome ↔ levelAfter? depth cs = some 0 := by
  fun_induction splitAt? depth acc cs with
  | case1 => exact ⟨fun _ => rfl, fun _ => rfl⟩
  | case2 => simp [levelAfter?]
  | case3 acc rest ih => rw [Option.isSome_map, ih, levelAfter?_open]
  | case4 => simp [levelAfter?_close_zero]
  | case5 acc c rest hopen hclose ih => rw [ih, levelAfter?_of_ne hopen hclose]
  | case6 depth acc rest ih => rw [ih, levelAfter?_open]
  | case7 acc rest hopen ih => rw [Option.isSome_map, ih, levelAfter?_close]
  | case8 depth acc rest hdepth hopen ih => rw [ih, levelAfter?_close]
  | case9 depth acc c rest hopen hclose ih => rw [ih, levelAfter?_of_ne hopen hclose]

/-- **The pieces of a text** are the only ones that the grammar allows. -/
theorem split?_eq_some_iff : split? cs = some pieces ↔ Grammar pieces ∧ pieces.flatMap text = cs := by
  constructor
  · intro h
    have hpending : Pending 0 [] := ⟨List.not_mem_nil, List.not_mem_nil⟩
    exact ⟨(grammar_of_splitAt? 0 [] cs pieces h hpending).1, flatMap_text_of_split? h⟩
  · rintro ⟨hgrammar, rfl⟩
    exact splitAt?_of_grammar hgrammar fun _ _ => rfl

/-- A text has pieces exactly if its braces are balanced. -/
theorem split?_eq_none_iff : split? cs = none ↔ Unbalanced cs := by
  rw [unbalanced_iff, balanced_iff, ← isSome_splitAt? 0 [] cs, Bool.not_eq_true, Option.isSome_eq_false_iff,
    Option.isNone_iff_eq_none]
  rfl

theorem balanced_of_grammar (h : Grammar pieces) : Balanced (pieces.flatMap text) := by
  by_contra hunbalanced
  rw [← unbalanced_iff, ← split?_eq_none_iff, split?_eq_some_iff.2 ⟨h, rfl⟩] at hunbalanced
  cases hunbalanced

theorem Grammar.of_append (h : Grammar (earlier ++ .braced body :: later)) :
    Grammar earlier ∧ Balanced body ∧ Grammar later := by
  induction earlier with
  | nil =>
    cases h with
    | braced hbody hrest => exact ⟨.nil, hbody, hrest⟩
  | cons piece earlier ih =>
    rw [List.cons_append] at h
    cases h with
    | literal hne hopen hclose hapart hrest =>
      obtain ⟨hearlier, hothers⟩ := ih hrest
      refine ⟨.literal hne hopen hclose (fun next hnext => hapart next ?_) hearlier, hothers⟩
      rw [List.head?_append, hnext]
      rfl
    | braced hbody hrest => exact ⟨.braced hbody (ih hrest).1, (ih hrest).2⟩

/-- **A part in braces is not inside another one**: whatever stands in balanced braces and covers it is
the part itself. -/
theorem outermost (h : Grammar (earlier ++ braced body :: later)) {before after : List Char}
    (hinner : Balanced inner)
    (htext : before ++ (braced inner).text ++ after = (earlier ++ braced body :: later).flatMap text)
    (hstart : before.length ≤ (earlier.flatMap text).length)
    (hstop : (earlier.flatMap text ++ (braced body).text).length ≤
      (before ++ (braced inner).text).length) :
    before = earlier.flatMap text ∧ inner = body := by
  obtain ⟨hearlier, hbody, -⟩ := h.of_append
  have hlevel := balanced_iff.1 (balanced_of_grammar hearlier)
  rw [List.flatMap_append, List.flatMap_cons] at htext
  have hbefore : before <+: earlier.flatMap text :=
    List.prefix_of_prefix_length_le ⟨_, by rw [← List.append_assoc]; exact htext⟩ ⟨_, rfl⟩ hstart
  obtain ⟨between, hbetween⟩ := hbefore
  rw [← hbetween] at htext hlevel hstop ⊢
  simp only [text, List.append_assoc, List.cons_append, List.append_cancel_left_eq] at htext
  cases between with
  | nil =>
    exact ⟨(List.append_nil before).symm, balanced_inj hinner hbody (List.cons.inj htext).2⟩
  | cons c between =>
    -- what is between would close the brace, but the body of the other part does not
    obtain ⟨rfl, hinside⟩ := List.cons.inj htext
    have hcovered : between <+: inner := by
      refine List.prefix_of_prefix_length_le ⟨_, hinside.symm⟩ ⟨_, rfl⟩ ?_
      simp [text] at hstop
      omega
    obtain ⟨others, rfl⟩ := hcovered
    rw [levelAfter?_append, Option.bind_eq_some_iff] at hlevel
    obtain ⟨k, -, hclosed⟩ := hlevel
    rw [levelAfter?_open] at hclosed
    rw [balanced_iff, levelAfter?_append, Option.bind_eq_some_iff] at hinner
    obtain ⟨m, hopened, -⟩ := hinner
    have hadd := levelAfter?_add hopened (k + 1)
    rw [Nat.zero_add, hclosed, Option.some.injEq] at hadd
    omega

end Piece

end RequestRouter.Template
