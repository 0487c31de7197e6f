import RequestRouter.Unicode.BinaryProperty
import RequestRouter.Unicode.CaseMap
import RequestRouter.Unicode.CharRange
import RequestRouter.Unicode.GeneralCategory

/-!
# Character sets

A character set is the list of its ranges. Two sets are equal when they have the same ranges, which
is more than to contain the same characters: ranges that meet at the surrogates stay apart, and so
do those that an operation on ranges has left side by side.

* `CharSet.contains`: membership.
* `CharSet.union`, `CharSet.compl`, `CharSet.inter`, `CharSet.diff`, `CharSet.symmDiff`: the
  operations on sets, each with a lemma that says what it contains.
* `CharSet.caseless`: a set with all that differs from it in case only.
* `CharSet.digit`, `CharSet.space`, `CharSet.word`: the classes that have an escape of their own.
-/

namespace RequestRouter.Regex

open Unicode (RangeTable CaseMap BinaryProperty GeneralCategory)

/-- Sets of characters. -/
structure CharSet where
  /-- The ranges of the set by number. -/
  ranges : RangeTable
  ascending : ranges.Ascending 0
  overChars : ranges.OverChars
deriving DecidableEq, Repr

namespace CharSet

/-- Membership of a character. -/
def contains (set : CharSet) (c : Char) : Bool :=
  set.ranges.contains c

/-- The set without characters. -/
def empty : CharSet := ⟨[], trivial, fun _ h => absurd h List.not_mem_nil⟩

/-- The characters of a list of ranges, in any order. -/
def ofRanges (ranges : RangeTable) : CharSet :=
  ⟨.merged ranges, RangeTable.ascending_weaken (RangeTable.ascending_merged ranges),
    RangeTable.overChars_merged ranges⟩

/-- The same characters, ranges that touch being one. -/
def joined (set : CharSet) : CharSet := ofRanges set.ranges

/-- The characters from `lo` to `hi`, both ends included. -/
def range (lo hi : Char) : CharSet :=
  ofRanges [(lo.toNat, hi.toNat)]

/-- The set of one character. -/
def single (c : Char) : CharSet :=
  ⟨[(c.toNat, c.toNat)], ⟨Nat.le_refl _, by simp, trivial⟩, fun r hr => by
    simp only [List.mem_singleton] at hr
    subst hr
    exact ⟨c.valid, c.valid⟩⟩

/-- The characters of a list. -/
def ofList (cs : List Char) : CharSet :=
  ofRanges (cs.map fun c => (c.toNat, c.toNat))

/-- What is in one of the two sets. -/
def union (a b : CharSet) : CharSet :=
  ofRanges (a.ranges ++ b.ranges)

/-- All characters that a set does not contain. Where ranges meet at the surrogates, the two
characters next to these lie between the ranges and are in the complement as well. -/
def compl (a : CharSet) : CharSet :=
  have ascending := RangeTable.ascending_merged a.ranges
  have overChars := RangeTable.overChars_merged a.ranges
  ⟨.gaps a.joined.ranges, RangeTable.ascending_gaps ascending overChars,
    RangeTable.overChars_gaps ascending overChars⟩

/-- What is in both sets. -/
def inter (a b : CharSet) : CharSet :=
  ⟨a.ranges.flatMap fun r => RangeTable.meet r.1 r.2 b.ranges,
    RangeTable.ascending_flatMap _ a.ascending
      (fun _ _ => RangeTable.ascending_meet _ _ b.ascending)
      fun _ _ => RangeTable.bounds_of_mem_meet,
    fun q hq => by
      obtain ⟨r, hr, hq⟩ := List.mem_flatMap.1 hq
      have h := a.overChars r hr
      exact RangeTable.overChars_meet h.1 h.2 b.overChars q hq⟩

/-- What is in the first set and not in the second. -/
def diff (a b : CharSet) : CharSet :=
  ⟨a.ranges.flatMap fun r => RangeTable.minus r.1 r.2 b.ranges,
    RangeTable.ascending_flatMap _ a.ascending
      (fun r hr => RangeTable.ascending_minus (RangeTable.le_of_mem a.ascending r hr)
        (a.overChars r hr).1 (a.overChars r hr).2 b.ascending b.overChars)
      fun _ _ => RangeTable.bounds_of_mem_minus,
    fun q hq => by
      obtain ⟨r, hr, hq⟩ := List.mem_flatMap.1 hq
      have h := a.overChars r hr
      exact RangeTable.overChars_minus h.1 h.2 b.overChars q hq⟩

/-- What is in exactly one of the two sets. -/
def symmDiff (a b : CharSet) : CharSet := (a.union b).diff (a.inter b)

/-- The only character of a set. -/
def only? (set : CharSet) : Option Char :=
  match set.ranges with
  | [(lo, hi)] => if lo = hi then some (Char.ofNat lo) else none
  | _ => none

/-- Whether a set contains ASCII characters alone. -/
def isAscii (set : CharSet) : Bool :=
  set.ranges.all fun r => r.2 < 128

/-- The characters that differ in case only from one of the set. First come those that the set's
characters fold to, then all that fold to one of these. -/
def caseless (set : CharSet) : CharSet :=
  let folded := CaseMap.foldPairs.filter fun pair => set.ranges.containsCode pair.1
  let reached := set.union (ofRanges (folded.map fun pair => (pair.2, pair.2)))
  let folding := CaseMap.foldPairs.filter fun pair => reached.ranges.containsCode pair.2
  (ofRanges (folding.map fun pair => (pair.1, pair.1))).union reached

/-- The same for ASCII letters alone. -/
def asciiCaseless (set : CharSet) : CharSet :=
  let letters := (List.range 26).map fun i => ('a'.toNat + i, 'A'.toNat + i)
  let folded := letters.filter fun pair =>
    set.ranges.containsCode pair.1 || set.ranges.containsCode pair.2
  (ofRanges (folded.flatMap fun pair => [(pair.1, pair.1), (pair.2, pair.2)])).union set

/-- The set of a property. -/
def ofProperty (property : BinaryProperty) : CharSet := ofRanges property.table

/-- The characters that are in one of several categories. -/
def ofCategories (categories : List GeneralCategory) : CharSet :=
  ofRanges (categories.flatMap (·.table))

/-- The set of all characters. -/
def all : CharSet := empty.compl

/-- The decimal digits of every script. -/
def digit : CharSet := ofCategories [.decimalNumber]

/-- White space. -/
def space : CharSet := ofProperty .whiteSpace

/-- The ASCII digits. -/
def asciiDigit : CharSet := range '0' '9'

/-- ASCII white space, the vertical tab included. -/
def asciiSpace : CharSet := ofRanges [(9, 13), (32, 32)]

/-- ASCII letters, digits and the underscore. -/
def asciiWord : CharSet := ofRanges [(48, 57), (65, 90), (95, 95), (97, 122)]

/-- The characters that words are made of: letters and other alphabetic characters, marks, decimal
digits, connectors and the two joiners. -/
def word : CharSet :=
  (ofCategories [.nonspacingMark, .spacingMark, .enclosingMark, .decimalNumber,
    .connectorPunctuation]).union ((ofProperty .joinControl).union (ofProperty .alphabetic))

theorem contains_eq_holds (a : CharSet) (c : Char) : a.contains c = a.ranges.holds c.toNat :=
  RangeTable.containsCode_eq_any a.ascending c.toNat

/-- A list of ranges of characters contains what one of them does. -/
theorem contains_ofRanges {ranges : RangeTable} (h : ranges.OverChars) (c : Char) :
    (ofRanges ranges).contains c =
      ranges.any fun r => decide (r.1 ≤ c.toNat ∧ c.toNat ≤ r.2) := by
  rw [contains_eq_holds]
  exact RangeTable.holds_merged h c.toNat

/-- A range contains its ends and what is between them. -/
@[simp] theorem contains_range (lo hi c : Char) :
    (range lo hi).contains c = decide (lo ≤ c ∧ c ≤ hi) := by
  rw [range, contains_ofRanges fun r hr => ?_]
  · simp [Char.le_def, UInt32.le_iff_toNat_le]
  · simp only [List.mem_singleton] at hr
    subst hr
    exact ⟨lo.valid, hi.valid⟩

/-- A set of one character contains that one alone. -/
@[simp] theorem contains_single (a c : Char) : (single a).contains c = decide (c = a) := by
  have h : c = a ↔ c.toNat = a.toNat := ⟨fun h => h ▸ rfl, fun h => Char.ext (UInt32.toNat_inj.1 h)⟩
  simp only [contains_eq_holds, single, RangeTable.holds_cons, RangeTable.holds_nil, h]
  grind

@[simp] theorem contains_union (a b : CharSet) (c : Char) :
    (a.union b).contains c = (a.contains c || b.contains c) := by
  have h : RangeTable.OverChars (a.ranges ++ b.ranges) := fun r hr =>
    (List.mem_append.1 hr).elim (a.overChars r) (b.overChars r)
  rw [union, contains_ofRanges h, List.any_append]
  simp only [contains_eq_holds, RangeTable.holds]

/-- Whether ranges of a set meet at the surrogates. -/
def meetsAtSurrogates (a : CharSet) : Bool :=
  a.joined.ranges.meetsAtSurrogates

/-- A complement contains what the set does not, and beyond that at most the two characters next to
the surrogates. -/
theorem contains_compl (a : CharSet) (c : Char) : a.compl.contains c =
    (!a.contains c || (a.meetsAtSurrogates && (c == '\uD7FF' || c == '\uE000'))) := by
  have hc : ∀ d : Char, (c.toNat == d.toNat) = (c == d) := fun d => by
    rw [Bool.eq_iff_iff, beq_iff_eq, beq_iff_eq]
    exact ⟨fun h => Char.ext (UInt32.toNat_inj.1 h), fun h => h ▸ rfl⟩
  have hgaps := RangeTable.holds_gaps (show c.toNat.isValidChar from c.valid)
    (RangeTable.ascending_merged a.ranges) (RangeTable.overChars_merged a.ranges)
  rw [RangeTable.holds_merged a.overChars] at hgaps
  rw [contains_eq_holds, contains_eq_holds, ← hc, ← hc]
  exact hgaps

@[simp] theorem contains_inter (a b : CharSet) (c : Char) :
    (a.inter b).contains c = (a.contains c && b.contains c) := by
  simp only [contains_eq_holds, inter, RangeTable.holds_flatMap, RangeTable.holds_meet]
  exact List.and_any_distrib_right.symm

@[simp] theorem contains_diff (a b : CharSet) (c : Char) :
    (a.diff b).contains c = (a.contains c && !b.contains c) := by
  have hc : c.toNat.isValidChar := c.valid
  simp only [contains_eq_holds, diff, RangeTable.holds_flatMap,
    RangeTable.holds_minus hc b.ascending]
  exact List.and_any_distrib_right.symm

@[simp] theorem contains_symmDiff (a b : CharSet) (c : Char) :
    (a.symmDiff b).contains c = (a.contains c != b.contains c) := by
  cases ha : a.contains c <;> cases hb : b.contains c <;> simp [symmDiff, ha, hb]

end CharSet

end RequestRouter.Regex
