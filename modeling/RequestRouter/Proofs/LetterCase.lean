import Mathlib
import RequestRouter.Unicode.LetterCase

/-!
# Upper case twice is upper case

The table of upper-case forms has some fifteen hundred code points, and the forms of those are never in
it again. Two sets of code points are compared as two numbers, a bit for each code point.

* `CaseMap.pairs`, `CaseMap.apply_cases`: the moved code points as a list, and what a map does to a
  character in its terms.
* `codeBits`, `codesDisjoint`: **sets of code points as numbers**, which are disjoint if no bit is in
  both.
* `changedCodes_disjoint_formCodes`: no upper-case form is changed by upper case.
* `upperCase_upperCase`: **upper case twice is upper case once.**
-/

namespace RequestRouter.Unicode

/-! ### The moved code points of a map -/

/-- The code points that a run moves, each with the one it goes to. -/
def CaseRun.pairs (run : CaseRun) : List (Nat × Nat) :=
  (List.range (run.steps + 1)).map fun i => (run.first + i * run.step, run.target + i * run.step)

theorem CaseRun.mem_pairs_of_image? {run : CaseRun} {n m : Nat} (h : run.image? n = some m) :
    (n, m) ∈ run.pairs := by
  unfold image? spaced at h
  split at h
  · next hspaced =>
    simp only [Bool.and_eq_true, decide_eq_true_eq] at hspaced
    obtain ⟨⟨hfirst, hlast⟩, hmod⟩ := hspaced
    have hsteps : (n - run.first) / run.step * run.step = n - run.first :=
      Nat.div_mul_cancel (Nat.dvd_of_mod_eq_zero hmod)
    have hbound : (n - run.first) / run.step ≤ run.steps :=
      Nat.div_le_of_le_mul (by rw [Nat.mul_comm]; omega)
    refine List.mem_map.2 ⟨(n - run.first) / run.step, List.mem_range.2 (by omega), ?_⟩
    rw [hsteps, ← Option.some.inj h, Nat.add_sub_cancel' hfirst]
  · cases h

/-- The code points that a map moves, each with the one it goes to. -/
def CaseMap.pairs (table : CaseMap) : List (Nat × Nat) :=
  table.flatMap CaseRun.pairs

/-- **What a map does to a character**: it goes where the list of moved code points says, or stays. -/
theorem CaseMap.apply_cases (table : CaseMap) (c : Char) :
    (∃ n, (c.toNat, n) ∈ table.pairs ∧ table.apply c = .ofNat n) ∨ table.apply c = c := by
  unfold apply
  split
  · next n h =>
    obtain ⟨run, hrun, himage⟩ := List.exists_of_findSome?_eq_some h
    exact Or.inl ⟨n, List.mem_flatMap.2 ⟨run, hrun, CaseRun.mem_pairs_of_image? himage⟩, rfl⟩
  · exact Or.inr rfl

/-- The text of a map is given as characters, so that they can be computed with. -/
theorem CaseMap.decode_of_eq_ofList {text : String} {cs : List Char} (h : text = .ofList cs) :
    decode text = ofNumbers (RangeTable.numbers cs none) := by
  rw [decode, h, String.toList_ofList]

/-! ### Sets of code points as numbers -/

/-- A set of code points as a number, with a bit for each of them. -/
def codeBits (codes : List Nat) : Nat :=
  codes.foldr (fun n bits => 1 <<< n ||| bits) 0

theorem testBit_codeBits {codes : List Nat} {n : Nat} :
    (codeBits codes).testBit n = true ↔ n ∈ codes := by
  induction codes with
  | nil => simp [codeBits]
  | cons m codes ih =>
    have hbits : codeBits (m :: codes) = 1 <<< m ||| codeBits codes := rfl
    rw [hbits, Nat.testBit_or, Bool.or_eq_true, ih, List.mem_cons, Nat.one_shiftLeft,
      Nat.testBit_two_pow, decide_eq_true_eq]
    exact or_congr_left eq_comm

/-- Whether no code point is in both of two sets: no bit is in both numbers. -/
def codesDisjoint (codes codes' : List Nat) : Bool :=
  codeBits codes &&& codeBits codes' == 0

theorem disjoint_of_codesDisjoint {codes codes' : List Nat} (h : codesDisjoint codes codes' = true) :
    codes.Disjoint codes' := by
  intro n hn hn'
  have hboth : (codeBits codes &&& codeBits codes').testBit n = true := by
    rw [Nat.testBit_and, testBit_codeBits.2 hn, testBit_codeBits.2 hn']
    rfl
  rw [beq_iff_eq.1 h, Nat.zero_testBit] at hboth
  cases hboth

/-! ### Upper case -/

/-- The code points that upper case changes. -/
def changedCodes : List Nat :=
  List.range' 'a'.toNat 26 ++ CaseMap.upper.pairs.map (·.1) ++ upperExpansions.map (·.1)

/-- The code points that upper case puts in their place. -/
def formCodes : List Nat :=
  List.range' 'A'.toNat 26 ++ CaseMap.upper.pairs.map (·.2) ++ upperExpansions.flatMap (·.2)

set_option maxRecDepth 100000 in
/-- **No form is changed again.** -/
theorem changedCodes_disjoint_formCodes : changedCodes.Disjoint formCodes := by
  apply disjoint_of_codesDisjoint
  rw [changedCodes, formCodes, CaseMap.upper, CaseMap.decode_of_eq_ofList rfl]
  decide +kernel

set_option maxRecDepth 100000 in
theorem isValidChar_of_mem_formCodes : ∀ n ∈ formCodes, n.isValidChar := by
  rw [formCodes, CaseMap.upper, CaseMap.decode_of_eq_ofList rfl]
  decide +kernel

theorem upperCaseOf_ascii {c : Char} (h : c.toNat < 128) : upperCaseOf c = [c.toUpper] := by
  rw [upperCaseOf, if_pos h]

theorem isLower_iff_mem_range' {c : Char} :
    c.isLower = true ↔ c.toNat ∈ List.range' 'a'.toNat 26 := by
  simp only [Char.isLower, UInt32.le_iff_toNat_le, Bool.and_eq_true, decide_eq_true_eq,
    List.mem_range'_1]
  exact and_congr_right fun _ => Nat.lt_succ_iff.symm

/-- A character that is in no table, and is no letter of ASCII, is its own upper-case form. -/
theorem upperCaseOf_of_not_mem {c : Char} (h : c.toNat ∉ changedCodes) : upperCaseOf c = [c] := by
  simp only [changedCodes, List.mem_append, not_or] at h
  obtain ⟨⟨hletter, hpairs⟩, hexpansions⟩ := h
  by_cases hc : c.toNat < 128
  · rw [upperCaseOf_ascii hc, Char.toUpper_eq_of_not_isLower (mt isLower_iff_mem_range'.1 hletter)]
  · have hlookup : upperExpansions.lookup c.toNat = none :=
      List.lookup_eq_none_iff.2 fun entry hentry => bne_iff_ne.2 fun heq =>
        hexpansions (List.mem_map.2 ⟨entry, hentry, heq.symm⟩)
    have happly : CaseMap.upper.apply c = c := by
      rcases CaseMap.upper.apply_cases c with ⟨n, hn, -⟩ | happly
      · exact absurd (List.mem_map.2 ⟨_, hn, rfl⟩) hpairs
      · exact happly
    rw [upperCaseOf, if_neg hc, hlookup]
    exact congrArg ([·]) happly

theorem upperCaseOf_ofNat {n : Nat} (h : n ∈ formCodes) :
    upperCaseOf (.ofNat n) = [.ofNat n] := by
  have hcode : (Char.ofNat n).toNat = n := by
    rw [Char.toNat_ofNat, if_pos (isValidChar_of_mem_formCodes n h)]
  refine upperCaseOf_of_not_mem fun hchanged => ?_
  rw [hcode] at hchanged
  exact changedCodes_disjoint_formCodes hchanged h

/-- **A character of an upper-case form is its own upper-case form.** -/
theorem upperCaseOf_of_mem {c d : Char} (h : d ∈ upperCaseOf c) : upperCaseOf d = [d] := by
  by_cases hc : c.toNat < 128
  · rw [upperCaseOf_ascii hc, List.mem_singleton] at h
    by_cases hlower : c.isLower = true
    · have hletter := List.mem_range'_1.1 (isLower_iff_mem_range'.1 hlower)
      have hform : c.toNat - 32 ∈ List.range' 'A'.toNat 26 := by
        rw [List.mem_range'_1]
        simp only [Char.reduceToNat] at hletter ⊢
        omega
      rw [h, Char.toUpper_eq_of_isLower hlower]
      exact upperCaseOf_ofNat (List.mem_append_left _ (List.mem_append_left _ hform))
    · -- a character that is no small letter is its own form, and is looked up once more
      have hself : c.toUpper = c := Char.toUpper_eq_of_not_isLower hlower
      rw [h, hself, upperCaseOf_ascii hc, hself]
  · rw [upperCaseOf, if_neg hc] at h
    split at h
    · next codes hlookup =>
      obtain ⟨n, hn, rfl⟩ := List.mem_map.1 h
      obtain ⟨before, later, hentries, -⟩ := List.lookup_eq_some_iff.1 hlookup
      have hentry : (c.toNat, codes) ∈ upperExpansions := by
        rw [hentries]
        exact List.mem_append_right _ List.mem_cons_self
      exact upperCaseOf_ofNat (List.mem_append_right _ (List.mem_flatMap.2 ⟨_, hentry, hn⟩))
    · next hlookup =>
      rw [List.mem_singleton] at h
      rcases CaseMap.upper.apply_cases c with ⟨n, hn, happly⟩ | hself
      · have hform : n ∈ CaseMap.upper.pairs.map (·.2) := List.mem_map.2 ⟨_, hn, rfl⟩
        rw [h, happly]
        exact upperCaseOf_ofNat (List.mem_append_left _ (List.mem_append_right _ hform))
      · rw [h, hself, upperCaseOf, if_neg hc, hlookup]
        exact congrArg ([·]) hself

/-- **Upper case twice is upper case once.** -/
theorem upperCase_upperCase (text : String) : upperCase (upperCase text) = upperCase text := by
  have hforms : ∀ d ∈ text.toList.flatMap upperCaseOf, upperCaseOf d = [d] := by
    intro d hd
    obtain ⟨c, -, hc⟩ := List.mem_flatMap.1 hd
    exact upperCaseOf_of_mem hc
  rw [upperCase, upperCase, String.toList_ofList, List.flatMap_congr hforms, List.flatMap_singleton']

end RequestRouter.Unicode
