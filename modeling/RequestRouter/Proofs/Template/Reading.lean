import Mathlib.Tactic
import RequestRouter.Proofs.Regex.Numbering
import RequestRouter.Proofs.Regex.Code
import RequestRouter.Template.Basic

/-!
# How the expression of a template is read

The expression of a template is its literal text, escaped, with a group for every variable. It is
read as one sequence: a text for every literal character and a capture for every variable, whatever
the patterns of the variables are, as long as each of them is an expression on its own.

* `Parser.Extends`: the parser has read parts of a sequence.
* `extends_escape`: **escaped text is read literally.**
* `validator_spec`: **the validator of a variable**, and that its pattern can stand in a group.
* `extends_expression`: **the expression of a whole template.**
-/

namespace RequestRouter

open Regex

namespace Regex.Parser

/-- The patterns of the alternative that is being read, in order. -/
def patterns (parser : Parser) : List Pattern :=
  parser.items.reverse.map (·.node.pattern)

/-- A parser has read some parts of a sequence more than another one. -/
structure Extends (parser later : Parser) (ps : List Pattern) : Prop where
  flags : later.flags = parser.flags
  branches : later.branches = parser.branches
  openGroups : later.openGroups = parser.openGroups
  patterns : later.patterns = parser.patterns ++ ps
  names : ∀ e ∈ parser.names, e ∈ later.names

variable {parser later r s : Parser} {ps qs : List Pattern} {cs more : List Char}

theorem Extends.refl (parser : Parser) : parser.Extends parser [] :=
  ⟨rfl, rfl, rfl, by simp, fun _ h => h⟩

theorem Extends.trans (h : parser.Extends later ps) (h' : later.Extends r qs) :
    parser.Extends r (ps ++ qs) where
  flags := h'.flags.trans h.flags
  branches := h'.branches.trans h.branches
  openGroups := h'.openGroups.trans h.openGroups
  patterns := by rw [h'.patterns, h.patterns, List.append_assoc]
  names := fun e he => h'.names e (h.names e he)

theorem extends_pushLeaf (parser : Parser) (p : Pattern) :
    parser.Extends (parser.pushLeaf p) [p] :=
  ⟨rfl, rfl, rfl, by simp [patterns, pushLeaf, push, Item.node], fun _ h => h⟩

theorem matches_sequence (nodes : List Node) {text : Array Char} {i j : Nat} {s : Slots} :
    (Node.sequence nodes).pattern.Matches text i j s ↔
      Pattern.MatchesAll text (nodes.map (·.pattern)) i j s := by
  match nodes with
  | [] => rfl
  | [node] => exact (matchesAll_singleton node.pattern i j s).symm
  | a :: b :: nodes => exact matches_concat ((a :: b :: nodes).map (·.pattern)) i j s

theorem groups_sequence (nodes : List Node) :
    (Node.sequence nodes).pattern.groups = (nodes.map (·.pattern)).flatMap Pattern.groups := by
  match nodes with
  | [] => rfl
  | [node] => simp [Node.sequence]
  | a :: b :: nodes => exact groups_concat ((a :: b :: nodes).map (·.pattern))

theorem node_of_branches_nil (h : parser.branches = []) :
    parser.node = .sequence (parser.items.reverse.map Item.node) := by
  rw [node, finish, h]
  rfl

/-- The only alternative is a sequence of what has been read. -/
theorem matches_node (h : parser.branches = []) {text : Array Char} {i j : Nat} {s : Slots} :
    parser.node.pattern.Matches text i j s ↔ Pattern.MatchesAll text parser.patterns i j s := by
  rw [node_of_branches_nil h, matches_sequence, List.map_map]
  rfl

theorem groups_node (h : parser.branches = []) :
    parser.node.pattern.groups = parser.patterns.flatMap Pattern.groups := by
  rw [node_of_branches_nil h, groups_sequence, List.map_map]
  rfl

/-! ### Literal text -/

theorem next_of_not_meta {c : Char} (hc : isMeta c = false) (rest : List Char) :
    Token.next false c rest = .ok (.literal ⟨c, false⟩, rest) := by
  simp only [isMeta, List.mem_cons, List.not_mem_nil, or_false, decide_eq_false_iff_not,
    not_or] at hc
  unfold Token.next
  split <;> simp_all

theorem next_of_meta {c : Char} (hc : isMeta c = true) (rest : List Char) :
    Token.next false '\\' (c :: rest) = .ok (.literal ⟨c, false⟩, rest) := by
  simp only [isMeta, List.mem_cons, List.not_mem_nil, or_false, decide_eq_true_eq] at hc
  rcases hc with rfl | rfl | rfl | rfl | rfl | rfl | rfl | rfl | rfl | rfl | rfl | rfl | rfl | rfl |
    rfl | rfl | rfl | rfl <;> rfl

/-- Where a literal is read and no flags have been switched, it is a character. -/
theorem Ends.literal {c d : Char} {rest : List Char} (h : parser.Ends (d :: rest) r)
    (hflags : parser.flags = .initial)
    (hnext : Token.next false d rest = .ok (.literal ⟨c, false⟩, more)) :
    (parser.pushLeaf (.char c)).Ends more r := by
  have hverbose : parser.flags.verbose = false := by rw [hflags]; rfl
  obtain ⟨next, hstep, hends⟩ := h.go_on (by rw [hverbose]; rfl) (by rw [hverbose]; exact hnext)
  rw [step, hflags] at hstep
  cases hstep
  exact hends

/-- **Escaped text is read literally**, one character after the other. -/
theorem extends_escape (h : parser.Ends (escapeChars cs ++ more) r)
    (hflags : parser.flags = .initial) :
    ∃ later, later.Ends more r ∧ parser.Extends later (cs.map Pattern.char) ∧
      later.groups = parser.groups := by
  induction cs generalizing parser with
  | nil => exact ⟨parser, h, .refl parser, rfl⟩
  | cons c cs ih =>
    have hpush : (parser.pushLeaf (.char c)).Ends (escapeChars cs ++ more) r := by
      rw [escapeChars, List.flatMap_cons, List.append_assoc] at h
      split at h
      · rename_i hc
        exact h.literal hflags (next_of_meta hc _)
      · rename_i hc
        exact h.literal hflags (next_of_not_meta (by simpa using hc) _)
    obtain ⟨later, hends, hext, hgroups⟩ := ih hpush hflags
    exact ⟨later, hends, (extends_pushLeaf parser (.char c)).trans hext, hgroups⟩

/-! ### Groups -/

theorem finished_of_compile {source : String} {regex : Regex}
    (h : Regex.compile source = .ok regex) : ∃ s, Finished source.toList s ∧
      regex.pattern = s.node.pattern ∧
      regex.groupNames = groupNamesOf s.node.pattern s.names := by
  unfold Regex.compile at h
  obtain ⟨parsed, hp, h⟩ := of_bind_ok h
  obtain ⟨s, hs, rfl⟩ := finished_of_ofText hp
  simp only at h
  split at h
  · cases h
    exact ⟨s, hs, rfl, rfl⟩
  · cases h

/-- The anchors of a template, where no flags have been switched. -/
theorem Ends.anchor {c : Char} {mark : AnchorMark} {rest : List Char}
    (h : parser.Ends (c :: rest) r) (hflags : parser.flags = .initial)
    (hnext : Token.next false c rest = .ok (.anchor mark, rest)) :
    (parser.pushLeaf (.assert (anchor .initial mark))).Ends rest r := by
  have hverbose : parser.flags.verbose = false := by rw [hflags]; rfl
  obtain ⟨next, hstep, hends⟩ := h.go_on (by rw [hverbose]; rfl) (by rw [hverbose]; exact hnext)
  rw [step, hflags] at hstep
  cases hstep
  exact hends

theorem extends_afterGroup (parser : Parser) (index : Option Nat) (k : Nat)
    (names : List (String × Nat)) (s : Parser) (hnames : ∀ e ∈ parser.names, e ∈ names) :
    parser.Extends (parser.afterGroup index k names s)
      [grouped index (s.node.pattern.renumber k)] :=
  ⟨rfl, rfl, rfl, by simp [patterns, afterGroup, Item.node],
    fun e he => List.mem_append_right _ (hnames e he)⟩

/-- Names that consist of name characters open a group. -/
theorem next_openCapture (c : Char) (name : List Char) (hc : Token.isNameStart c = true)
    (hname : name.all Token.isNameChar = true) (hclose : '>' ∉ c :: name) (rest : List Char) :
    Token.next false '(' ('?' :: 'P' :: '<' :: (c :: name ++ '>' :: rest)) =
      .ok (.openCapture (some (.ofList (c :: name))), rest) := by
  have hspan : (c :: name ++ '>' :: rest).span (· != '>') = (c :: name, '>' :: rest) := by
    have hall : ∀ d ∈ c :: name, (d != '>') = true := fun d hd => by
      have hne : d ≠ '>' := by
        rintro rfl
        exact hclose hd
      simpa using hne
    rw [List.span_eq_takeWhile_dropWhile, List.takeWhile_append_of_pos hall,
      List.dropWhile_append_of_pos hall]
    simp
  show Token.readName (c :: name ++ '>' :: rest) = _
  unfold Token.readName
  rw [hspan]
  simp [hc, hname]

theorem renumber_zero (p : Pattern) : p.renumber 0 = p := by
  induction p <;> simp_all [Pattern.renumber]

end Regex.Parser

namespace Template

open Regex.Parser

variable {r s : Parser} {cs more : List Char}

theorem next_groupName (index : Nat) (rest : List Char) :
    Token.next false '(' ('?' :: 'P' :: '<' :: ((groupName index).toList ++ '>' :: rest)) =
      .ok (.openCapture (some (groupName index)), rest) := by
  have hdigit : ∀ c ∈ Nat.toDigits 10 index, c.isDigit = true := fun c hc =>
    Nat.isDigit_of_mem_toDigits (by decide) (by decide) hc
  have hlist : (groupName index).toList = '_' :: ("_mux_v".toList ++ Nat.toDigits 10 index) := by
    simp [groupName]
  have hname := next_openCapture '_' ("_mux_v".toList ++ Nat.toDigits 10 index) (by decide) ?_ ?_ rest
  · rwa [← hlist, String.ofList_toList] at hname
  · rw [List.all_append, Bool.and_eq_true]
    refine ⟨by decide, List.all_eq_true.2 fun c hc => ?_⟩
    simp [Token.isNameChar, hdigit c hc]
  · intro hmem
    rcases List.mem_cons.1 hmem with h | h
    · cases h
    rcases List.mem_append.1 h with h | h
    · exact absurd h (by decide)
    · exact absurd (hdigit _ h) (by decide)

theorem next_plain (rest : List Char) :
    Token.next false '(' ('?' :: ':' :: rest) = .ok (.openPlain [], rest) := rfl

/-- **The validator of a variable.** If it compiles, the pattern of the variable can stand in a group
wherever it is put, and the validator matches what the pattern matches as a whole. -/
theorem validator_spec {pattern : String} {validator : Regex} (hs : Finished pattern.toList s)
    (h : Regex.compile (validatorText pattern) = .ok validator) :
    Closes pattern.toList s ∧ ∀ x : String, validator.isMatch x = true ↔
      ∃ t, s.node.pattern.Matches x.toList.toArray 0 x.toList.length t := by
  obtain ⟨r, ⟨hends, hopen⟩, hpattern, -⟩ := finished_of_compile h
  have htext : (validatorText pattern).toList =
      '^' :: '(' :: '?' :: ':' :: (pattern.toList ++ ')' :: ['$']) := by simp [validatorText]
  rw [htext] at hends
  have hcaret := hends.anchor rfl (show Token.next false '^' _ = .ok (.anchor .caret, _) from rfl)
  have hcloses : Closes pattern.toList s :=
    closes_of_inside hs (List.cons_ne_nil _ _) (by decide)
      (hcaret.open_plain rfl rfl (next_plain _)) hopen
  refine ⟨hcloses, fun x => ?_⟩
  have hgroup := hcaret.plain hcloses hs.closed rfl rfl (next_plain _)
  have hdollar := hgroup.anchor rfl (show Token.next false '$' _ = .ok (.anchor .dollar, _) from rfl)
  -- between its two anchors the validator is the pattern, whose groups keep their indices
  have hr := hdollar.eq_of_skip_nil (Layout.skip_nil _)
  have hpatterns : r.patterns = [.assert .textStart] ++ [s.node.pattern] ++ [.assert .textEnd] := by
    rw [hr, ← renumber_zero s.node.pattern]
    rfl
  have hmatch : ∀ i k u, i ≤ x.toList.length →
      (validator.pattern.Matches x.toList.toArray i k u ↔
        i = 0 ∧ s.node.pattern.Matches x.toList.toArray 0 k u ∧ x.toList.length ≤ k) := by
    intro i k u hi
    rw [hpattern, matches_node (by rw [hr]; rfl), hpatterns, matchesAll_textEnd, List.singleton_append,
      matchesAll_textStart (by simpa using hi), matchesAll_singleton, and_assoc]
    simp
  rw [Regex.isMatch_iff]
  constructor
  · rintro ⟨i, k, u, hi, hm⟩
    obtain ⟨-, hm, hk⟩ := (hmatch i k u hi).1 hm
    have hle : k ≤ x.toList.length := by simpa using hm.le.2 (Nat.zero_le _)
    exact ⟨u, le_antisymm hle hk ▸ hm⟩
  · rintro ⟨u, hm⟩
    exact ⟨0, _, u, Nat.zero_le _, (hmatch 0 _ u (Nat.zero_le _)).2 ⟨rfl, hm, le_rfl⟩⟩

/-! ### The whole expression -/

/-- What the expression of a template has for its pieces, when `n` variables are before them. -/
def expressionText (default : String) : Nat → List Piece → List Char
  | _, [] => []
  | n, .literal text :: pieces => Regex.escapeChars text ++ expressionText default n pieces
  | n, .braced body :: pieces =>
    (groupText n (nameAndPattern default body).2).toList ++ expressionText default (n + 1) pieces

/-- A part of the pattern of a template: characters as they are, or the group of a variable with its
index and the pattern of the variable on its own. -/
inductive Part where
  | literal (text : List Char)
  | group (index : Nat) (pattern : Pattern)

/-- The patterns that a part is read as. In a group the groups of the pattern come after its own. -/
def Part.patterns : Part → List Pattern
  | literal text => text.map Pattern.char
  | group index pattern => [.capture index (pattern.renumber index)]

/-- The index of the group of a part. -/
def Part.index? : Part → Option Nat
  | literal _ => none
  | group index _ => some index

/-- The pieces of a template laid out as parts, when the next group to open has the index `g`. Every
variable takes a group of its own and those of its pattern. -/
inductive Laid (default : String) : Nat → List Piece → List Part → Prop
  | nil {g : Nat} : Laid default g [] []
  | literal {g : Nat} {text : List Char} {pieces : List Piece} {parts : List Part}
    (h : Laid default g pieces parts) :
    Laid default g (.literal text :: pieces) (.literal text :: parts)
  | braced {g : Nat} {body : List Char} {pieces : List Piece} {parts : List Part} {s : Parser}
    (hs : Finished (nameAndPattern default body).2.toList s)
    (hcloses : Closes (nameAndPattern default body).2.toList s)
    (h : Laid default (s.groups + g) pieces parts) :
    Laid default g (.braced body :: pieces) (.group g s.node.pattern :: parts)

theorem toList_groupText (n : Nat) (pattern : String) : (groupText n pattern).toList =
    '(' :: '?' :: 'P' :: '<' :: ((groupName n).toList ++ '>' :: (pattern.toList ++ [')'])) := by
  simp [groupText]

/-- The group of a variable is read as one part. -/
theorem ends_groupText {parser : Parser} {n : Nat} {pattern : String}
    (hs : Finished pattern.toList s) (hcloses : Closes pattern.toList s)
    (hflags : parser.flags = .initial)
    (h : parser.Ends ((groupText n pattern).toList ++ more) r) :
    (parser.afterGroup (some parser.groups) parser.groups
      ((groupName n, parser.groups) :: parser.names) s).Ends more r := by
  rw [toList_groupText] at h
  simp only [List.cons_append, List.append_assoc] at h
  exact h.capture hcloses hs.closed hflags (next_groupName n _)

/-- **The expression of a template** is read as a sequence of its parts, and the group of every
variable has its name. -/
theorem extends_expression {default : String} {n : Nat} {pieces : List Piece} {parts : List Part}
    {parser : Parser} (hlaid : Laid default parser.groups pieces parts)
    (hflags : parser.flags = .initial)
    (h : parser.Ends (expressionText default n pieces ++ more) r) :
    ∃ later, later.Ends more r ∧ parser.Extends later (parts.flatMap Part.patterns) ∧
      ∀ i g, (parts.filterMap Part.index?)[i]? = some g → (groupName (n + i), g) ∈ later.names := by
  generalize hg : parser.groups = g at hlaid
  induction hlaid generalizing parser n with
  | nil => exact ⟨parser, h, .refl parser, fun i g hi => by simp at hi⟩
  | @literal g text pieces parts hlaid ih =>
    rw [expressionText, List.append_assoc] at h
    obtain ⟨mid, hends, hext, hgroups⟩ := extends_escape h hflags
    obtain ⟨later, hends', hext', hnames⟩ := ih (hext.flags.trans hflags) hends (hgroups.trans hg)
    exact ⟨later, hends', hext.trans hext', hnames⟩
  | @braced g body pieces parts s hs hcloses hlaid ih =>
    subst hg
    rw [expressionText, List.append_assoc] at h
    -- the group is one part, whose pattern has its groups after that of the variable
    have hgroup := ends_groupText hs hcloses hflags h
    have hext := extends_afterGroup parser (some parser.groups) parser.groups
      ((groupName n, parser.groups) :: parser.names) s fun e he => List.mem_cons_of_mem _ he
    obtain ⟨later, hends, hext', hnames⟩ :=
      @ih _ (parser.afterGroup _ _ _ _) hflags hgroup rfl
    refine ⟨later, hends, hext.trans hext', fun i g hi => ?_⟩
    cases i with
    | zero =>
      simp only [List.filterMap_cons, Part.index?, List.getElem?_cons_zero, Option.some.injEq] at hi
      subst hi
      exact hext'.names _ (List.mem_append_right _ List.mem_cons_self)
    | succ i =>
      rw [show n + (i + 1) = n + 1 + i by omega]
      exact hnames i g (by simpa [Part.index?] using hi)

end Template

end RequestRouter
