import RequestRouter.Unicode.RangeTable

/-!
# Ranges of characters

A range of characters has a character at both ends. Surrogates are no characters: the first after
U+D7FF is U+E000. Ranges by number may still run across them, and two ranges that meet there are not
taken as one.

* `RangeTable.OverChars`: both ends of every range are characters.
* `RangeTable.gaps`: what lies between, before and after the ranges.
* `RangeTable.meet`, `RangeTable.minus`: what a range shares with others, and what they leave of it.
* `RangeTable.merged`: ranges in any order as a table, in which ranges that overlap or touch are one.
* `holds_gaps`, `holds_meet`, `holds_minus`, `holds_merged`: what these contain.
-/

namespace RequestRouter.Unicode

/-- The character after another, by number. -/
def after (n : Nat) : Nat := if n = 0xD7FF then 0xE000 else n + 1

/-- The character before another, by number. -/
def before (n : Nat) : Nat := if n = 0xE000 then 0xD7FF else n - 1

namespace RangeTable

/-- Both ends of every range are characters. -/
def OverChars (table : RangeTable) : Prop :=
  ∀ r ∈ table, r.1.isValidChar ∧ r.2.isValidChar

/-- Whether a number is in one of the ranges. -/
def holds (table : RangeTable) (n : Nat) : Bool :=
  table.any fun r => decide (r.1 ≤ n ∧ n ≤ r.2)

/-- The range between two others, from the character after the first to the one before the second.
Where no character is between them it runs from the end of the first to the start of the second. -/
def between (hi lo : Nat) : Nat × Nat :=
  (Nat.min (after hi) (before lo), Nat.max (after hi) (before lo))

/-- What lies after a range that ends at `hi`, between the ranges that follow it, and after the
last. -/
def gapsAfter (hi : Nat) : RangeTable → RangeTable
  | [] => if hi < 0x10FFFF then [(after hi, 0x10FFFF)] else []
  | (lo, stop) :: rest => between hi lo :: gapsAfter stop rest

/-- What lies before, between and after the ranges. -/
def gaps : RangeTable → RangeTable
  | [] => [(0, 0x10FFFF)]
  | (lo, hi) :: rest =>
    if 0 < lo then (0, before lo) :: gapsAfter hi rest else gapsAfter hi rest

/-- What a range shares with others. -/
def meet (lo hi : Nat) (table : RangeTable) : RangeTable :=
  table.filterMap fun r =>
    if Nat.max lo r.1 ≤ Nat.min hi r.2 then some (Nat.max lo r.1, Nat.min hi r.2) else none

/-- What is left of a range without others, which ascend. -/
def minus (lo hi : Nat) : RangeTable → RangeTable
  | [] => [(lo, hi)]
  | (start, stop) :: rest =>
    if stop < lo ∨ hi < start then minus lo hi rest
    else
      (if lo < start then [(lo, before start)] else []) ++
        (if stop < hi then minus (after stop) hi rest else [])

/-- Ranges in any order as a table. Those that do not end at characters, being ranges of surrogates,
are left out after all have been joined. -/
def merged (ranges : RangeTable) : RangeTable :=
  (union ranges []).filter fun r => decide (r.1.isValidChar ∧ r.2.isValidChar)

/-- Whether one range ends before the surrogates and another starts after them. -/
def meetsAtSurrogates (table : RangeTable) : Bool :=
  table.any (·.2 == 0xD7FF) && table.any (·.1 == 0xE000)

theorem isValidChar_before {n : Nat} (h : n.isValidChar) (hpos : 0 < n) :
    (before n).isValidChar := by
  simp only [Nat.isValidChar, before] at *
  split <;> omega

theorem isValidChar_after {n : Nat} (h : n.isValidChar) (hlt : n < 0x10FFFF) :
    (after n).isValidChar := by
  simp only [Nat.isValidChar, after] at *
  split <;> omega

theorem ascending_weaken {table : RangeTable} (h : table.Ascending 1) : table.Ascending 0 := by
  induction table with
  | nil => trivial
  | cons r rest ih =>
    obtain ⟨a, b⟩ := r
    exact ⟨h.1, fun r hr => Nat.lt_of_succ_lt (h.2.1 r hr), ih h.2.2⟩

theorem le_of_mem {gap : Nat} {table : RangeTable} (h : table.Ascending gap) :
    ∀ r ∈ table, r.1 ≤ r.2 := by
  induction table with
  | nil => simp
  | cons r rest ih =>
    obtain ⟨a, b⟩ := r
    intro r hr
    rcases List.mem_cons.1 hr with rfl | hr
    · exact h.1
    · exact ih h.2.2 r hr

theorem ascending_filter {gap : Nat} (keep : Nat × Nat → Bool) {table : RangeTable}
    (h : table.Ascending gap) : Ascending gap (table.filter keep) := by
  induction table with
  | nil => trivial
  | cons r rest ih =>
    obtain ⟨a, b⟩ := r
    obtain ⟨hle, hlt, hrest⟩ := h
    rw [List.filter_cons]
    split
    · exact ⟨hle, fun r hr => hlt r (List.mem_filter.1 hr).1, ih hrest⟩
    · exact ih hrest

theorem ascending_append {s t : RangeTable} (hs : s.Ascending 0) (ht : t.Ascending 0)
    (hst : ∀ r ∈ s, ∀ q ∈ t, r.2 < q.1) : Ascending 0 (s ++ t) := by
  induction s with
  | nil => exact ht
  | cons r rest ih =>
    obtain ⟨a, b⟩ := r
    obtain ⟨hle, hlt, hrest⟩ := hs
    refine ⟨hle, fun q hq => ?_, ih hrest fun r hr => hst r (List.mem_cons_of_mem _ hr)⟩
    rcases List.mem_append.1 hq with hq | hq
    · exact hlt q hq
    · exact hst (a, b) List.mem_cons_self q hq

/-- Pieces of ranges that ascend do so too, one range after the other. -/
theorem ascending_flatMap {table : RangeTable} (pieces : Nat × Nat → RangeTable)
    (h : table.Ascending 0) (hasc : ∀ r ∈ table, (pieces r).Ascending 0)
    (hin : ∀ r ∈ table, ∀ q ∈ pieces r, r.1 ≤ q.1 ∧ q.2 ≤ r.2) :
    Ascending 0 (table.flatMap pieces) := by
  induction table with
  | nil => trivial
  | cons r rest ih =>
    obtain ⟨a, b⟩ := r
    obtain ⟨hle, hlt, hrest⟩ := h
    rw [List.flatMap_cons]
    refine ascending_append (hasc _ List.mem_cons_self)
      (ih hrest (fun r hr => hasc r (List.mem_cons_of_mem _ hr))
        fun r hr => hin r (List.mem_cons_of_mem _ hr)) fun q hq p hp => ?_
    obtain ⟨r, hr, hp⟩ := List.mem_flatMap.1 hp
    have h1 := (hin (a, b) List.mem_cons_self q hq).2
    have h2 := (hin r (List.mem_cons_of_mem _ hr) p hp).1
    have h3 := hlt r hr
    simp only at h1
    omega

/-! ## What operations contain -/

@[simp] theorem holds_nil (n : Nat) : holds [] n = false := rfl

@[simp] theorem holds_cons (r : Nat × Nat) (rest : RangeTable) (n : Nat) :
    holds (r :: rest) n = (decide (r.1 ≤ n ∧ n ≤ r.2) || holds rest n) := rfl

@[simp] theorem holds_append (s t : RangeTable) (n : Nat) :
    holds (s ++ t) n = (s.holds n || t.holds n) := List.any_append

theorem holds_flatMap (table : RangeTable) (pieces : Nat × Nat → RangeTable) (n : Nat) :
    holds (table.flatMap pieces) n = table.any fun r => (pieces r).holds n := by
  simp [holds, List.any_flatMap]

theorem holds_eq_false {table : RangeTable} {n : Nat} (h : ∀ r ∈ table, n < r.1) :
    table.holds n = false := by
  simp only [holds, List.any_eq_false, decide_eq_true_eq]
  intro r hr hn
  have := h r hr
  omega

/-! ### Joining -/

theorem overChars_insert {lo hi : Nat} {table : RangeTable} (hlo : lo.isValidChar)
    (hhi : hi.isValidChar) (h : table.OverChars) : OverChars (insert lo hi table) := by
  induction table generalizing lo hi with
  | nil => intro r hr; simp only [insert, List.mem_singleton] at hr; subst hr; exact ⟨hlo, hhi⟩
  | cons r rest ih =>
    obtain ⟨a, b⟩ := r
    obtain ⟨ha, hb⟩ := h (a, b) List.mem_cons_self
    have hrest : OverChars rest := fun r hr => h r (List.mem_cons_of_mem _ hr)
    simp only [insert]
    split
    · intro r hr
      rcases List.mem_cons.1 hr with rfl | hr
      · exact ⟨hlo, hhi⟩
      · exact h r hr
    · split
      · intro r hr
        rcases List.mem_cons.1 hr with rfl | hr
        · exact ⟨ha, hb⟩
        · exact ih hlo hhi hrest r hr
      · refine ih ?_ ?_ hrest
        · simp only [Nat.min_def]; split <;> assumption
        · simp only [Nat.max_def]; split <;> assumption

theorem overChars_union {ranges table : RangeTable} (hr : ranges.OverChars)
    (ht : table.OverChars) : OverChars (union ranges table) := by
  induction ranges with
  | nil => exact ht
  | cons r rest ih =>
    obtain ⟨a, b⟩ := r
    obtain ⟨ha, hb⟩ := hr (a, b) List.mem_cons_self
    have hrest := ih fun r h => hr r (List.mem_cons_of_mem _ h)
    simp only [union, List.foldr_cons] at hrest ⊢
    split
    · exact overChars_insert ha hb hrest
    · exact hrest

theorem ascending_merged (ranges : RangeTable) : (merged ranges).Ascending 1 :=
  ascending_filter _ (ascending_union ranges trivial)

theorem overChars_merged (ranges : RangeTable) : OverChars (merged ranges) := fun r hr => by
  simpa using (List.mem_filter.1 hr).2

/-- Joining ranges of characters changes nothing about what is in them. -/
theorem holds_merged {ranges : RangeTable} (h : ranges.OverChars) (n : Nat) :
    (merged ranges).holds n = ranges.holds n := by
  have hover := overChars_union h (show OverChars [] from fun _ hr => absurd hr (by simp))
  have hasc : (union ranges []).Ascending 1 := ascending_union ranges trivial
  have hkeep : merged ranges = union ranges [] :=
    List.filter_eq_self.2 fun r hr => by simpa using hover r hr
  rw [hkeep, holds, ← containsCode_eq_any hasc, containsCode_union ranges (show Ascending 1 [] from trivial)]
  simp [containsCode, holds]

/-! ### Meeting -/

theorem overChars_meet {lo hi : Nat} {table : RangeTable} (hlo : lo.isValidChar)
    (hhi : hi.isValidChar) (h : table.OverChars) : OverChars (meet lo hi table) := by
  intro r hr
  obtain ⟨q, hq, hr⟩ := List.mem_filterMap.1 hr
  have hq := h q hq
  split at hr
  · cases hr
    simp only [Nat.max_def, Nat.min_def]
    constructor <;> split <;> simp_all
  · cases hr

theorem bounds_of_mem_meet {lo hi : Nat} {table : RangeTable} :
    ∀ r ∈ meet lo hi table, lo ≤ r.1 ∧ r.2 ≤ hi := by
  intro r hr
  obtain ⟨q, -, hr⟩ := List.mem_filterMap.1 hr
  split at hr
  · cases hr
    exact ⟨Nat.le_max_left .., Nat.min_le_left ..⟩
  · cases hr

theorem ascending_meet (lo hi : Nat) {table : RangeTable} (h : table.Ascending 0) :
    (meet lo hi table).Ascending 0 := by
  induction table with
  | nil => trivial
  | cons r rest ih =>
    obtain ⟨a, b⟩ := r
    obtain ⟨-, hlt, hrest⟩ := h
    simp only [meet, List.filterMap_cons]
    split
    · exact ih hrest
    · next heq =>
      split at heq
      · next hle =>
        cases heq
        refine ⟨hle, fun q hq => ?_, ih hrest⟩
        obtain ⟨p, hp, hq⟩ := List.mem_filterMap.1 hq
        split at hq
        · cases hq
          have hbp := hlt p hp
          have hmin : Nat.min hi b ≤ b := Nat.min_le_right ..
          have hmax : p.1 ≤ Nat.max lo p.1 := Nat.le_max_right ..
          simp only
          omega
        · cases hq
      · cases heq

/-- What a range shares with others is in it and in one of them. -/
theorem holds_meet (lo hi : Nat) (table : RangeTable) (n : Nat) :
    (meet lo hi table).holds n = (decide (lo ≤ n ∧ n ≤ hi) && table.holds n) := by
  induction table with
  | nil => simp [meet]
  | cons r rest ih =>
    obtain ⟨a, b⟩ := r
    simp only [meet, List.filterMap_cons, Nat.max_def, Nat.min_def] at ih ⊢
    grind [holds_cons]

/-! ### Taking away -/

theorem overChars_minus {lo hi : Nat} {table : RangeTable} (hlo : lo.isValidChar)
    (hhi : hi.isValidChar) (h : table.OverChars) : OverChars (minus lo hi table) := by
  induction table generalizing lo with
  | nil => intro r hr; simp only [minus, List.mem_singleton] at hr; subst hr; exact ⟨hlo, hhi⟩
  | cons r rest ih =>
    obtain ⟨a, b⟩ := r
    have hab := h (a, b) List.mem_cons_self
    have hrest : OverChars rest := fun r hr => h r (List.mem_cons_of_mem _ hr)
    simp only [minus]
    split
    · exact ih hlo hrest
    · intro q hq
      rcases List.mem_append.1 hq with hq | hq
      · split at hq
        · simp only [List.mem_singleton] at hq
          subst hq
          exact ⟨hlo, isValidChar_before hab.1 (by omega)⟩
        · simp at hq
      · split at hq
        · refine ih (isValidChar_after hab.2 ?_) hrest q hq
          simp only [Nat.isValidChar] at hhi
          omega
        · simp at hq

theorem le_before_iff {n m : Nat} (h : n.isValidChar) (hpos : 0 < m) : n ≤ before m ↔ n < m := by
  simp only [Nat.isValidChar, before] at *
  split <;> omega

theorem after_le_iff {n m : Nat} (h : n.isValidChar) : after m ≤ n ↔ m < n := by
  simp only [Nat.isValidChar, after] at *
  split <;> omega

theorem bounds_of_mem_minus {lo hi : Nat} {table : RangeTable} :
    ∀ r ∈ minus lo hi table, lo ≤ r.1 ∧ r.2 ≤ hi := by
  induction table generalizing lo with
  | nil => intro r hr; simp only [minus, List.mem_singleton] at hr; subst hr; simp
  | cons r rest ih =>
    obtain ⟨a, b⟩ := r
    simp only [minus]
    split
    · exact ih
    · intro q hq
      rcases List.mem_append.1 hq with hq | hq
      · split at hq
        · simp only [List.mem_singleton] at hq
          subst hq
          simp only [before]
          split <;> omega
        · simp at hq
      · split at hq
        · have := ih q hq
          simp only [after] at this
          split at this <;> omega
        · simp at hq

theorem ascending_minus {lo hi : Nat} {table : RangeTable} (hle : lo ≤ hi) (hlo : lo.isValidChar)
    (hhi : hi.isValidChar) (h : table.Ascending 0) (hc : table.OverChars) :
    (minus lo hi table).Ascending 0 := by
  induction table generalizing lo with
  | nil => exact ⟨hle, by simp, trivial⟩
  | cons r rest ih =>
    obtain ⟨a, b⟩ := r
    obtain ⟨hab, hlt, hrest⟩ := h
    obtain ⟨ha, hb⟩ := hc (a, b) List.mem_cons_self
    have hcrest : OverChars rest := fun r hr => hc r (List.mem_cons_of_mem _ hr)
    simp only [minus]
    split
    · exact ih hle hlo hrest hcrest
    · refine ascending_append ?_ ?_ fun q hq p hp => ?_
      · split
        · next hlt => exact ⟨(le_before_iff hlo (by omega)).2 hlt, by simp, trivial⟩
        · trivial
      · split
        · next hlt =>
          refine ih ((after_le_iff hhi).2 hlt) (isValidChar_after hb ?_) hrest hcrest
          simp only [Nat.isValidChar] at hhi
          omega
        · trivial
      · split at hq
        · split at hp
          · next hlo_lt _ =>
            simp only [List.mem_singleton] at hq
            subst hq
            have hp := (bounds_of_mem_minus p hp).1
            have hbefore : before a < a := by simp only [before]; split <;> omega
            have hafter : b < after b := by simp only [after]; split <;> omega
            simp only
            omega
          · simp at hp
        · simp at hq

/-- What is left of a range is in it and in none of the others. -/
theorem holds_minus {lo hi n : Nat} {table : RangeTable} (hn : n.isValidChar)
    (h : table.Ascending 0) :
    (minus lo hi table).holds n = (decide (lo ≤ n ∧ n ≤ hi) && !table.holds n) := by
  induction table generalizing lo with
  | nil => simp [minus]
  | cons r rest ih =>
    obtain ⟨a, b⟩ := r
    obtain ⟨hab, hlt, hrest⟩ := h
    have hout : n ≤ b → holds rest n = false := fun hnb =>
      holds_eq_false fun r hr => by have := hlt r hr; omega
    simp only [minus]
    split
    · rw [ih hrest]
      grind [holds_cons]
    · rw [holds_append]
      by_cases hlo : lo < a <;> by_cases hhi : b < hi <;>
        simp only [hlo, hhi, if_true, if_false, holds_cons, holds_nil, ih hrest, after_le_iff hn]
      · have := le_before_iff hn (show 0 < a by omega)
        grind
      · have := le_before_iff hn (show 0 < a by omega)
        grind
      · grind
      · grind

/-! ### What is left out -/

theorem overChars_gapsAfter {hi : Nat} {table : RangeTable} (hhi : hi.isValidChar)
    (hlt : ∀ r ∈ table, hi < r.1) (h : table.Ascending 1) (hc : table.OverChars) :
    OverChars (gapsAfter hi table) := by
  induction table generalizing hi with
  | nil =>
    intro r hr
    simp only [gapsAfter] at hr
    split at hr
    · next hlt =>
      simp only [List.mem_singleton] at hr
      subst hr
      exact ⟨isValidChar_after hhi hlt, (by decide : Nat.isValidChar 0x10FFFF)⟩
    · simp at hr
  | cons r rest ih =>
    obtain ⟨a, b⟩ := r
    obtain ⟨ha, hb⟩ := hc (a, b) List.mem_cons_self
    have hia : hi < a := hlt (a, b) List.mem_cons_self
    have hlast : hi < 0x10FFFF := by
      simp only [Nat.isValidChar] at ha
      omega
    have hafter := isValidChar_after hhi hlast
    have hbefore := isValidChar_before ha (by omega)
    intro q hq
    rcases List.mem_cons.1 hq with rfl | hq
    · simp only [between, Nat.min_def, Nat.max_def]
      constructor <;> split <;> assumption
    · exact ih hb (fun r hr => Nat.lt_of_succ_lt (h.2.1 r hr)) h.2.2
        (fun r hr => hc r (List.mem_cons_of_mem _ hr)) q hq

theorem le_of_mem_gapsAfter {hi : Nat} {table : RangeTable} (hhi : hi.isValidChar)
    (hlt : ∀ r ∈ table, hi + 1 < r.1) (h : table.Ascending 1) (hc : table.OverChars) :
    ∀ r ∈ gapsAfter hi table, hi ≤ r.1 ∧ (hi ≠ 0xD7FF → hi < r.1) := by
  induction table generalizing hi with
  | nil =>
    intro r hr
    simp only [gapsAfter] at hr
    split at hr
    · simp only [List.mem_singleton] at hr
      subst hr
      simp only [after]
      split <;> omega
    · simp at hr
  | cons r rest ih =>
    obtain ⟨a, b⟩ := r
    obtain ⟨ha, hb⟩ := hc (a, b) List.mem_cons_self
    have hia : hi + 1 < a := hlt (a, b) List.mem_cons_self
    have hab : a ≤ b := h.1
    intro q hq
    rcases List.mem_cons.1 hq with rfl | hq
    · simp only [Nat.isValidChar] at hhi ha
      simp only [between, Nat.min_def, after, before]
      split <;> split <;> split <;> omega
    · have := (ih hb h.2.1 h.2.2 (fun r hr => hc r (List.mem_cons_of_mem _ hr)) q hq).1
      omega

theorem ascending_gapsAfter {hi : Nat} {table : RangeTable} (hhi : hi.isValidChar)
    (hlt : ∀ r ∈ table, hi + 1 < r.1) (h : table.Ascending 1) (hc : table.OverChars) :
    (gapsAfter hi table).Ascending 0 := by
  induction table generalizing hi with
  | nil =>
    simp only [gapsAfter]
    split
    · next hlast =>
      refine ⟨?_, by simp, trivial⟩
      simp only [after]
      split <;> omega
    · trivial
  | cons r rest ih =>
    obtain ⟨a, b⟩ := r
    obtain ⟨ha, hb⟩ := hc (a, b) List.mem_cons_self
    have hia : hi + 1 < a := hlt (a, b) List.mem_cons_self
    have hab : a ≤ b := h.1
    have hcrest : OverChars rest := fun r hr => hc r (List.mem_cons_of_mem _ hr)
    refine ⟨?_, fun q hq => ?_, ih hb h.2.1 h.2.2 hcrest⟩
    · simp only [Nat.min_def, Nat.max_def]
      split <;> omega
    · obtain ⟨hbq, hbq_lt⟩ := le_of_mem_gapsAfter hb h.2.1 h.2.2 hcrest q hq
      simp only [Nat.isValidChar] at hhi ha
      simp only [Nat.max_def, after, before]
      split <;> split <;> split <;> omega

/-- What lies before, between and after ranges ascends. -/
theorem ascending_gaps {table : RangeTable} (h : table.Ascending 1) (hc : table.OverChars) :
    (gaps table).Ascending 0 := by
  cases table with
  | nil => exact ⟨by decide, by simp, trivial⟩
  | cons r rest =>
    obtain ⟨a, b⟩ := r
    obtain ⟨ha, hb⟩ := hc (a, b) List.mem_cons_self
    have hab : a ≤ b := h.1
    have hcrest : OverChars rest := fun r hr => hc r (List.mem_cons_of_mem _ hr)
    have hrest := ascending_gapsAfter hb h.2.1 h.2.2 hcrest
    simp only [gaps]
    split
    · refine ⟨Nat.zero_le _, fun q hq => ?_, hrest⟩
      have := (le_of_mem_gapsAfter hb h.2.1 h.2.2 hcrest q hq).1
      simp only [before]
      split <;> omega
    · exact hrest

/-- What lies before, between and after ranges has characters at its ends. -/
theorem overChars_gaps {table : RangeTable} (h : table.Ascending 1) (hc : table.OverChars) :
    OverChars (gaps table) := by
  cases table with
  | nil => intro r hr; simp only [gaps, List.mem_singleton] at hr; subst hr; decide
  | cons r rest =>
    obtain ⟨a, b⟩ := r
    obtain ⟨ha, hb⟩ := hc (a, b) List.mem_cons_self
    have hrest := overChars_gapsAfter hb (fun r hr => Nat.lt_of_succ_lt (h.2.1 r hr)) h.2.2
      fun r hr => hc r (List.mem_cons_of_mem _ hr)
    simp only [gaps]
    split
    · next hpos =>
      intro q hq
      rcases List.mem_cons.1 hq with rfl | hq
      · exact ⟨(by decide : Nat.isValidChar 0), isValidChar_before ha hpos⟩
      · exact hrest q hq
    · exact hrest

theorem holds_between {hi lo n : Nat} (hhi : hi.isValidChar) (hlo : lo.isValidChar)
    (hn : n.isValidChar) (hlt : hi + 1 < lo) :
    holds [between hi lo] n = (decide (hi < n ∧ n < lo) ||
      (hi == 0xD7FF && lo == 0xE000 && (n == 0xD7FF || n == 0xE000))) := by
  simp only [holds_cons, holds_nil, between, Nat.min_def, Nat.max_def, after, before,
    Nat.isValidChar] at *
  grind

theorem holds_gapsAfter {hi n : Nat} {table : RangeTable} (hhi : hi.isValidChar)
    (hn : n.isValidChar) (hlt : ∀ r ∈ table, hi + 1 < r.1) (h : table.Ascending 1)
    (hc : table.OverChars) :
    (gapsAfter hi table).holds n = ((decide (hi < n) && !table.holds n) ||
      ((hi == 0xD7FF || table.any (·.2 == 0xD7FF)) && table.any (·.1 == 0xE000) &&
        (n == 0xD7FF || n == 0xE000))) := by
  induction table generalizing hi with
  | nil =>
    simp only [gapsAfter, Nat.isValidChar] at *
    split <;> simp only [holds_cons, holds_nil, after] <;> grind
  | cons r rest ih =>
    obtain ⟨a, b⟩ := r
    obtain ⟨ha, hb⟩ := hc (a, b) List.mem_cons_self
    have hia : hi + 1 < a := hlt (a, b) List.mem_cons_self
    obtain ⟨hab, hnext, hrest⟩ := h
    have hout : n ≤ b → holds rest n = false := fun hnb =>
      holds_eq_false fun r hr => by have := hnext r hr; omega
    have hstart : 0xE000 ≤ a → rest.any (·.1 == 0xE000) = false := fun hle => by
      simp only [List.any_eq_false, beq_iff_eq]
      intro r hr
      have := hnext r hr
      omega
    have hstop : 0xE000 ≤ a → rest.any (·.2 == 0xD7FF) = false := fun hle => by
      simp only [List.any_eq_false, beq_iff_eq]
      intro r hr
      have h1 := hnext r hr
      have h2 := le_of_mem hrest r hr
      omega
    have hbetween := holds_between hhi ha hn hia
    simp only [holds_cons, holds_nil, Bool.or_false] at hbetween
    rw [gapsAfter, holds_cons, hbetween,
      ih hb hnext hrest fun r hr => hc r (List.mem_cons_of_mem _ hr)]
    simp only [Nat.isValidChar, holds_cons, List.any_cons] at *
    by_cases hle : 0xE000 ≤ a
    · simp only [hstart hle, hstop hle]
      grind
    · grind

/-- What lies before, between and after ranges is what they leave out, and the two characters next
to the surrogates where ranges meet there. -/
theorem holds_gaps {n : Nat} {table : RangeTable} (hn : n.isValidChar) (h : table.Ascending 1)
    (hc : table.OverChars) : (gaps table).holds n =
      (!table.holds n || (table.meetsAtSurrogates && (n == 0xD7FF || n == 0xE000))) := by
  cases table with
  | nil => simp only [Nat.isValidChar] at hn; simp [gaps, meetsAtSurrogates]; omega
  | cons r rest =>
    obtain ⟨a, b⟩ := r
    obtain ⟨ha, hb⟩ := hc (a, b) List.mem_cons_self
    obtain ⟨hab, hnext, hrest⟩ := h
    have hout : n ≤ b → holds rest n = false := fun hnb =>
      holds_eq_false fun r hr => by have := hnext r hr; omega
    have hstop : 0xE000 ≤ a → rest.any (·.2 == 0xD7FF) = false := fun hle => by
      simp only [List.any_eq_false, beq_iff_eq]
      intro r hr
      have h1 := hnext r hr
      have h2 := le_of_mem hrest r hr
      omega
    have hafter := holds_gapsAfter hb hn hnext hrest fun r hr => hc r (List.mem_cons_of_mem _ hr)
    simp only [gaps, meetsAtSurrogates, List.any_cons, holds_cons]
    by_cases hpos : 0 < a
    · have hbefore := le_before_iff hn hpos
      by_cases hle : 0xE000 ≤ a
      · simp only [if_pos hpos, holds_cons, hafter, hstop hle]
        grind
      · simp only [if_pos hpos, holds_cons, hafter]
        grind
    · simp only [if_neg hpos, hafter]
      grind

end RangeTable

end RequestRouter.Unicode
