import Mathlib.Tactic
import RequestRouter.Proofs.Template.Compiled

/-!
# Matches of a template as tilings

A match of a template cuts what it consumes into the literal text of the template and one value for
each variable, and notes where the values are. Turned around, a text that is cut like that is matched.

* `Piece.weave`: the text that pieces make with values in the place of the variables.
* `tiles_of_matches`: **what a match consumes is woven from the pieces and the values that it notes.**
* `matches_of_tiles`: **what is woven from the pieces and admitted values is matched.**
-/

namespace RequestRouter.Template

open Regex Regex.Parser

/-- The text that pieces make with values in the place of the variables. -/
def Piece.weave : List Piece → List (List Char) → List Char
  | [], _ => []
  | .literal text :: pieces, values => text ++ weave pieces values
  | .braced _ :: pieces, value :: values => value ++ weave pieces values
  | .braced _ :: pieces, [] => weave pieces []

/-- The characters of a text between two positions. -/
def slice (text : List Char) (span : Nat × Nat) : List Char :=
  (text.drop span.1).take (span.2 - span.1)

variable {default : String} {pieces : List Piece} {parts : List Part} {text : List Char}
  {g i j k : Nat} {s : Slots}

theorem slice_append (text : List Char) (hij : i ≤ j) (hjk : j ≤ k) :
    slice text (i, j) ++ slice text (j, k) = slice text (i, k) := by
  unfold slice
  rw [show k - i = (j - i) + (k - j) by omega, List.take_add, List.drop_drop,
    show i + (j - i) = j by omega]

theorem slice_of_spells {cs : List Char} (h : Spells text.toArray i cs) :
    slice text (i, i + cs.length) = cs := by
  refine List.ext_getElem? fun n => ?_
  rw [slice, Nat.add_sub_cancel_left, List.getElem?_take]
  split
  · rename_i hn
    rw [List.getElem?_drop, List.getElem?_eq_getElem hn]
    simpa using (spells_iff i cs).1 h n _ (List.getElem?_eq_getElem hn)
  · rename_i hn
    rw [List.getElem?_eq_none (by omega)]

/-- A run of literal characters before other parts. -/
theorem matchesAll_chars {cs : List Char} {ps : List Pattern} {text : Array Char} :
    Pattern.MatchesAll text (cs.map Pattern.char ++ ps) i k s ↔
      Spells text i cs ∧ Pattern.MatchesAll text ps (i + cs.length) k s := by
  induction cs generalizing i with
  | nil => simp [Spells]
  | cons c cs ih =>
    simp only [List.map_cons, List.cons_append, Pattern.MatchesAll, Pattern.char, Pattern.Matches,
      Spells, and_true, List.length_nil, List.length_cons]
    rw [show i + (cs.length + 1) = i + 1 + cs.length by omega]
    constructor
    · rintro ⟨_, _, u, ⟨hc, rfl, rfl⟩, hrest, rfl⟩
      obtain ⟨hcs, hps⟩ := @ih (i + 1) |>.1 (by simpa using hrest)
      exact ⟨⟨hc, hcs⟩, hps⟩
    · rintro ⟨⟨hc, hcs⟩, hps⟩
      exact ⟨i + 1, [], s, ⟨hc, rfl, rfl⟩, ih.2 ⟨hcs, hps⟩, by simp⟩

theorem le_of_matchesAll {ps : List Pattern} {text : Array Char}
    (h : Pattern.MatchesAll text ps i k s) : i ≤ k :=
  ((matches_concat ps i k s).2 h).le.1

/-- The slots of a group note a span. -/
def Noted (s : Slots) (g : Nat) (span : Nat × Nat) : Prop :=
  s.lookup (2 * g) = some span.1 ∧ s.lookup (2 * g + 1) = some span.2

/-- A pattern matches between two positions of a text. -/
def MatchedAt (text : List Char) (p : Pattern) (span : Nat × Nat) : Prop :=
  span.2 ≤ text.length ∧ ∃ s, p.Matches text.toArray span.1 span.2 s

/-- What is noted for later groups only has no note for the slots of an earlier one. -/
theorem lookup_eq_none_of_lt {slot : Nat} (h : ∀ e ∈ s, slot / 2 < e.1 / 2) :
    s.lookup slot = none := by
  refine List.lookup_eq_none_iff.2 fun e he => ?_
  have := h e he
  simp only [bne_iff_ne, ne_eq]
  rintro rfl
  omega

/-- **What a match consumes is woven from the pieces and the values that it notes.** The groups are
numbered in order, so the notes of one do not hide those of another. -/
theorem tiles_of_matches (hlaid : Laid default g pieces parts) (hi : i ≤ text.length)
    (h : Pattern.MatchesAll text.toArray (parts.flatMap Part.patterns) i k s) :
    (∀ e ∈ s, g ≤ e.1 / 2) ∧ ∃ spans : List (Nat × Nat),
      Piece.weave pieces (spans.map (slice text)) = slice text (i, k) ∧
      List.Forall₂ (Noted s) (parts.filterMap Part.index?) spans ∧
      List.Forall₂ (MatchedAt text) (parts.filterMap Part.pattern?) spans := by
  induction hlaid generalizing i s with
  | nil =>
    obtain ⟨rfl, rfl⟩ := h
    exact ⟨fun e he => absurd he List.not_mem_nil, [], by simp [Piece.weave, slice], .nil, .nil⟩
  | @literal g cs pieces parts hlaid ih =>
    obtain ⟨hcs, hrest⟩ := matchesAll_chars.1 h
    have hi' : i + cs.length ≤ text.length := by simpa using hcs.le (by simpa using hi)
    obtain ⟨hnotes, spans, hweave, hnoted, hspans⟩ := ih hi' hrest
    refine ⟨hnotes, spans, ?_, hnoted, hspans⟩
    rw [Piece.weave, hweave, ← slice_append text (Nat.le_add_right i cs.length)
      (le_of_matchesAll hrest), slice_of_spells hcs]
  | @braced g body pieces parts p hp hcloses hlaid ih =>
    obtain ⟨b, _, u, ⟨t, hbody, rfl⟩, hrest, rfl⟩ := h
    have hb : b ≤ text.length := by simpa using hbody.le.2 (by simpa using hi)
    obtain ⟨hnotes, spans, hweave, hnoted, hspans⟩ := ih hb hrest
    have hnumbered := numbered_start.ends hp.ends
    have hpositive := hnumbered.positive
    -- the groups of the pattern come after its own and before those of the next variable
    have hinner : ∀ e ∈ t, g < e.1 / 2 := by
      intro e he
      have hmem := hbody.group_of_note e he
      rw [groups_renumber] at hmem
      obtain ⟨g', hg', heq⟩ := List.mem_map.1 hmem
      have := (groupsBelow_finish hnumbered.parts g' hg').1
      omega
    have houter : ∀ e ∈ u, g < e.1 / 2 := fun e he => by
      have := hnotes e he
      omega
    have hnone : ∀ (v : Slots) (slot : Nat), (∀ e ∈ v, g < e.1 / 2) → slot / 2 = g →
        v.lookup slot = none := fun v slot hv hslot =>
      lookup_eq_none_of_lt fun e he => by rw [hslot]; exact hv e he
    refine ⟨?_, (i, b) :: spans, ?_, .cons ⟨?_, ?_⟩ (hnoted.imp ?_), .cons ?_ hspans⟩
    · intro e he
      simp only [List.mem_append, List.mem_cons, List.not_mem_nil, or_false] at he
      rcases he with he | rfl | he | rfl
      · exact (houter e he).le
      · simp only; omega
      · exact (hinner e he).le
      · simp only; omega
    · rw [List.map_cons, Piece.weave, hweave]
      exact slice_append text hbody.le.1 (le_of_matchesAll hrest)
    · rw [List.lookup_append, hnone u _ houter (by omega), Option.none_or, List.lookup_cons,
        show (2 * g == 2 * g + 1) = false by simp]
      simp [List.lookup_append, hnone t _ hinner]
    · rw [List.lookup_append, hnone u _ houter (by omega), Option.none_or]
      simp
    · rintro g' span ⟨h1, h2⟩
      simp only [Noted, List.lookup_append, h1, h2, Option.some_or, and_self]
    · exact ⟨hb, (matches_renumber g _ i b).1 ⟨t, hbody⟩⟩

/-- **What is woven from the pieces and admitted values is matched.** -/
theorem matches_of_tiles (hlaid : Laid default g pieces parts) {values : List (List Char)}
    (hspells : Spells text.toArray i (Piece.weave pieces values))
    (hvalues : List.Forall₂ (fun p (x : List Char) => ∀ a, Spells text.toArray a x →
      ∃ t, p.Matches text.toArray a (a + x.length) t) (parts.filterMap Part.pattern?) values) :
    ∃ s, Pattern.MatchesAll text.toArray (parts.flatMap Part.patterns) i
      (i + (Piece.weave pieces values).length) s := by
  induction hlaid generalizing i values with
  | nil => exact ⟨[], by simp [Piece.weave], rfl⟩
  | @literal g cs pieces parts hlaid ih =>
    rw [Piece.weave, spells_append] at hspells
    obtain ⟨s, hs⟩ := ih hspells.2 hvalues
    refine ⟨s, matchesAll_chars.2 ⟨hspells.1, ?_⟩⟩
    rw [Piece.weave, List.length_append, ← Nat.add_assoc]
    exact hs
  | @braced g body pieces parts p hp hcloses hlaid ih =>
    cases hvalues with
    | @cons _ x _ values hx hvalues =>
      rw [Piece.weave, spells_append] at hspells
      obtain ⟨t, ht⟩ := (matches_renumber g p.node.pattern i _).2 (hx i hspells.1)
      obtain ⟨s, hs⟩ := ih hspells.2 hvalues
      rw [Piece.weave, List.length_append, ← Nat.add_assoc]
      exact ⟨_, i + x.length, _, s, ⟨t, ht, rfl⟩, hs, rfl⟩

/-! ### Captures -/

/-- The notes of a whole match have those of every group. -/
theorem spanOf_wholeNotes {span : Nat × Nat} (hg : 1 ≤ g) (h : Noted s g span) :
    spanOf (Program.wholeNotes i k s) g = some span := by
  have h1 : (2 * g == 1) = false := by simp
  have h2 : (2 * g + 1 == 1) = false := by simpa using Nat.ne_of_gt hg
  simp [spanOf, Program.wholeNotes, List.lookup_cons, List.lookup_append, h1, h2, h.1, h.2]

theorem spanOf_wholeNotes_zero (h : ∀ e ∈ s, 1 ≤ e.1 / 2) :
    spanOf (Program.wholeNotes i k s) 0 = some (i, k) := by
  have hnone : s.lookup 0 = none := lookup_eq_none_of_lt h
  simp [spanOf, Program.wholeNotes, List.lookup_cons, List.lookup_append, hnone]

theorem le_index_of_laid (hlaid : Laid default g pieces parts) :
    ∀ g' ∈ parts.filterMap Part.index?, g ≤ g' := by
  induction hlaid with
  | nil => exact fun g' h => absurd h List.not_mem_nil
  | literal hlaid ih => exact ih
  | braced hs hcloses hlaid ih =>
    intro g' h
    rcases List.mem_cons.1 h with rfl | h
    · exact le_rfl
    · exact le_trans (Nat.le_add_left _ _) (ih g' h)

theorem filterMap_eq_zip {vars : List Variable} {f : Variable → Option String} {xs : List String}
    (h : List.Forall₂ (fun v x => f v = some x) vars xs) :
    (vars.filterMap fun v => (f v).map fun x => (v.name, x)) = (vars.map (·.name)).zip xs := by
  induction h with
  | nil => rfl
  | cons hv _ ih => rw [List.filterMap_cons, hv, ih]; rfl

/-- **What a template captures.** The part of the text that it consumes is woven from the pieces and
the values of the variables, which are matched where they stand. -/
theorem captures_tiles {reserved : List String} {t : Template} {input : String}
    {caps : Regex.Captures} (hc : Compiled default reserved t pieces parts)
    (h : t.captures? input = some caps) :
    ∃ (k : Nat) (spans : List (Nat × Nat)), (t.isPrefix = false → input.toList.length ≤ k) ∧
      caps.get? 0 = some (.ofList (input.toList.take k)) ∧
      Piece.weave pieces (spans.map (slice input.toList)) = input.toList.take k ∧
      t.extract caps = t.varNames.zip (spans.map fun span => .ofList (slice input.toList span)) ∧
      List.Forall₂ (MatchedAt input.toList) (parts.filterMap Part.pattern?) spans := by
  obtain ⟨i, k, s, hi, hmatch, rfl⟩ := Regex.captures?_eq_some h
  obtain ⟨rfl, hparts, hend⟩ := (hc.matches_iff (by simpa using hi)).1 hmatch
  obtain ⟨hnotes, spans, hweave, hnoted, hmatched⟩ := tiles_of_matches hc.laid (Nat.zero_le _) hparts
  -- every group has its place among the captures
  have hget : ∀ g ∈ 0 :: parts.filterMap Part.index?, ∀ span,
      spanOf (Program.wholeNotes 0 k s) g = some span →
      Regex.Captures.get? ⟨input.toList, (List.range t.regex.groupNames.length).map
        (spanOf (Program.wholeNotes 0 k s))⟩ g = some (.ofList (slice input.toList span)) := by
    intro g hg span hspan
    simp only [Regex.Captures.get?, List.getElem?_map,
      List.getElem?_range (hc.names_length g hg), Option.map_some, hspan]
    rfl
  refine ⟨k, spans, fun hp => by simpa using hend hp, ?_, ?_, ?_, hmatched⟩
  · rw [hget 0 List.mem_cons_self (0, k) (spanOf_wholeNotes_zero hnotes)]
    simp [slice]
  · rw [hweave]
    simp [slice]
  · have hindices := hc.groups ▸ hnoted
    refine filterMap_eq_zip ?_
    rw [List.forall₂_map_right_iff]
    have hlt : ∀ g ∈ t.vars.map (·.group), g ∈ parts.filterMap Part.index? := fun g hg =>
      hc.groups ▸ hg
    have hboth := (List.forall₂_and_left _ _).2 ⟨hlt, hindices⟩
    rw [List.forall₂_map_left_iff] at hboth
    exact hboth.imp fun v span h => hget v.group (List.mem_cons_of_mem _ h.1) span
      (spanOf_wholeNotes (le_index_of_laid hc.laid _ h.1) h.2)

end RequestRouter.Template
