/-!
# Range tables

A set of code points is kept as an ascending list of closed ranges. The tables of the standard are
written as text, as pairs of hexadecimal numbers: how many code points to skip, then how many
more than one to take.

* `RangeTable.containsCode`: membership, with an early exit.
* `RangeTable.insert`, `RangeTable.union`: one more range, and the union of two sets.
* `containsCode_insert`, `containsCode_union`: what these contain.
* `RangeTable.decode`: the table that a text spells.
-/

namespace RequestRouter.Unicode

/-- Closed ranges of code points, in ascending order. -/
abbrev RangeTable := List (Nat × Nat)

namespace RangeTable

/-- Membership of a code point. The ranges ascend, so the first one above it ends the search. -/
def containsCode : RangeTable → Nat → Bool
  | [], _ => false
  | (lo, hi) :: rest, n => if n < lo then false else n ≤ hi || containsCode rest n

/-- Membership of a character. -/
def contains (table : RangeTable) (c : Char) : Bool :=
  table.containsCode c.toNat

/-- No range is empty, and between two of them at least `gap` code points are left out. With a gap
of one a set of code points has one table of this form. -/
def Ascending (gap : Nat) : RangeTable → Prop
  | [] => True
  | (lo, hi) :: rest => lo ≤ hi ∧ (∀ r ∈ rest, hi + gap < r.1) ∧ Ascending gap rest

/-- A set with one more range. Ranges that overlap or touch become one. -/
def insert (lo hi : Nat) : RangeTable → RangeTable
  | [] => [(lo, hi)]
  | (a, b) :: rest =>
    if hi + 1 < a then (lo, hi) :: (a, b) :: rest
    else if b + 1 < lo then (a, b) :: insert lo hi rest
    else insert (Nat.min lo a) (Nat.max hi b) rest

/-- The union of a list of ranges and a set. Empty ranges add nothing. -/
def union (ranges table : RangeTable) : RangeTable :=
  ranges.foldr (fun r acc => if r.1 ≤ r.2 then insert r.1 r.2 acc else acc) table

theorem containsCode_eq_false {table : RangeTable} {n : Nat} (h : ∀ r ∈ table, n < r.1) :
    table.containsCode n = false := by
  cases table with
  | nil => rfl
  | cons r rest => simp [containsCode, h r List.mem_cons_self]

/-- In a table that ascends the early exit loses nothing. -/
theorem containsCode_eq_any {gap : Nat} {table : RangeTable} (h : table.Ascending gap) (n : Nat) :
    table.containsCode n = table.any fun r => decide (r.1 ≤ n ∧ n ≤ r.2) := by
  induction table with
  | nil => rfl
  | cons r rest ih =>
    obtain ⟨a, b⟩ := r
    obtain ⟨hab, hlt, hrest⟩ := h
    have hout : n < a → containsCode rest n = false := fun hn =>
      containsCode_eq_false fun r hr => by have := hlt r hr; omega
    rw [List.any_cons, ← ih hrest]
    simp only [containsCode]
    grind

theorem lt_of_mem_insert {lo hi n : Nat} {table : RangeTable} (hlo : n < lo)
    (h : ∀ r ∈ table, n < r.1) : ∀ r ∈ insert lo hi table, n < r.1 := by
  induction table generalizing lo hi with
  | nil => simpa [insert] using hlo
  | cons r rest ih =>
    obtain ⟨a, b⟩ := r
    have ha : n < a := h (a, b) List.mem_cons_self
    have hrest : ∀ r ∈ rest, n < r.1 := fun r hr => h r (List.mem_cons_of_mem _ hr)
    simp only [insert]
    split
    · simpa [hlo, ha] using hrest
    · split
      · simpa [ha] using ih hlo hrest
      · exact ih (by simp only [Nat.min_def]; split <;> omega) hrest

/-- One more range leaves a table in its form. -/
theorem ascending_insert {lo hi : Nat} {table : RangeTable} (hle : lo ≤ hi)
    (h : table.Ascending 1) : (insert lo hi table).Ascending 1 := by
  induction table generalizing lo hi with
  | nil => simpa [insert, Ascending] using hle
  | cons r rest ih =>
    obtain ⟨a, b⟩ := r
    obtain ⟨hab, hlt, hrest⟩ := h
    simp only [insert]
    split
    · next hi_lt =>
      refine ⟨hle, ?_, hab, hlt, hrest⟩
      intro r hr
      rcases List.mem_cons.1 hr with rfl | hr
      · exact hi_lt
      · have := hlt r hr
        omega
    · split
      · next b_lt => exact ⟨hab, lt_of_mem_insert b_lt hlt, ih hle hrest⟩
      · refine ih ?_ hrest
        simp only [Nat.min_def, Nat.max_def]
        split <;> split <;> omega

/-- One more range adds its own code points and no others. -/
theorem containsCode_insert {lo hi : Nat} {table : RangeTable} (hle : lo ≤ hi)
    (h : table.Ascending 1) (n : Nat) :
    (insert lo hi table).containsCode n = (decide (lo ≤ n ∧ n ≤ hi) || table.containsCode n) := by
  induction table generalizing lo hi with
  | nil => simp only [insert, containsCode]; grind
  | cons r rest ih =>
    obtain ⟨a, b⟩ := r
    obtain ⟨hab, hlt, hrest⟩ := h
    have hout : n ≤ b → containsCode rest n = false := fun hn =>
      containsCode_eq_false fun r hr => by have := hlt r hr; omega
    simp only [insert]
    split
    · simp only [containsCode]; grind
    · split
      · simp only [containsCode, ih hle hrest]; grind
      · rw [ih (by simp only [Nat.min_def, Nat.max_def]; split <;> split <;> omega) hrest]
        simp only [containsCode, Nat.min_def, Nat.max_def]
        grind

/-- The union has the form of its second argument. -/
theorem ascending_union (ranges : RangeTable) {table : RangeTable} (h : table.Ascending 1) :
    (union ranges table).Ascending 1 := by
  induction ranges with
  | nil => exact h
  | cons r rest ih =>
    simp only [union, List.foldr_cons] at ih ⊢
    split
    · next hle => exact ascending_insert hle ih
    · exact ih

/-- A union contains what one of its two sides does. -/
theorem containsCode_union (ranges : RangeTable) {table : RangeTable} (h : table.Ascending 1)
    (n : Nat) : (union ranges table).containsCode n =
      (ranges.any (fun r => decide (r.1 ≤ n ∧ n ≤ r.2)) || table.containsCode n) := by
  induction ranges with
  | nil => simp [union]
  | cons r rest ih =>
    have hrest := ascending_union rest h
    simp only [union, List.foldr_cons, List.any_cons] at ih hrest ⊢
    split
    · next hle => rw [containsCode_insert hle hrest, ih, Bool.or_assoc]
    · next hle => rw [ih]; grind

/-- The value of a hexadecimal digit, in either case. -/
def hexValue? (c : Char) : Option Nat :=
  if '0' ≤ c ∧ c ≤ '9' then some (c.toNat - '0'.toNat)
  else if 'a' ≤ c ∧ c ≤ 'f' then some (c.toNat - 'a'.toNat + 10)
  else if 'A' ≤ c ∧ c ≤ 'F' then some (c.toNat - 'A'.toNat + 10)
  else none

/-- The hexadecimal numbers of a text, whatever stands between them. The last argument is the
number being read, if any. -/
def numbers : List Char → Option Nat → List Nat
  | [], acc => acc.toList
  | c :: rest, acc =>
    match hexValue? c with
    | some d => numbers rest (some (16 * acc.getD 0 + d))
    | none => acc.toList ++ numbers rest none

/-- Reads skip and take counts as ranges, `start` being the first code point not yet decided. -/
def ofCounts : Nat → List Nat → RangeTable
  | start, skip :: more :: rest =>
    (start + skip, start + skip + more) :: ofCounts (start + skip + more + 1) rest
  | _, _ => []

/-- The table that a text of skip and take counts spells. -/
def decode (text : String) : RangeTable :=
  ofCounts 0 (numbers text.toList none)

end RangeTable

end RequestRouter.Unicode
