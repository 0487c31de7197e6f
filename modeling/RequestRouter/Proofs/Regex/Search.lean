import Mathlib.Data.Finset.Card
import Mathlib.Data.Finset.Prod
import RequestRouter.Regex.Search

/-!
# What a search finds

A thread *arrives* if some of the ways on from it end at an accepting address. A search enters no
pair of address and position twice, so it may miss ways on, but never the last one:

* `search_sound`: the slots that a search gives are those of a thread that arrives.
* `search_isSome`: a search gives something as soon as a thread that starts anywhere arrives.

The second rests on the pairs entered when a search ends without a result: they are closed under
going on, and none of them accepts (`closed_of_run`).
-/

namespace RequestRouter.Regex

namespace Entered

/-- A row that is extended by an address has the bit of this address besides those that it had. -/
theorem testBit_extend (row : Array Nat) (a b : Nat) :
    ((extend a row)[b / block]?.getD 0).testBit (b % block) =
      ((row[b / block]?.getD 0).testBit (b % block) || b == a) := by
  simp only [extend]
  -- the block of `a` is there once the row is long enough
  set long := if a / block < row.size then row
    else row ++ Array.replicate (a / block + 1 - row.size) 0 with hlong
  have hsize : a / block < long.size := by
    by_cases h : a / block < row.size <;> simp [hlong, h]; omega
  have hget : ∀ k : Nat, long[k]?.getD 0 = row[k]?.getD 0 := by
    intro k
    by_cases h : a / block < row.size
    · simp [hlong, h]
    · simp only [hlong, h, if_false, Array.getElem?_append, Array.getElem?_replicate]
      by_cases hk : k < row.size
      · simp [hk]
      · by_cases hk' : k - row.size < a / block + 1 - row.size <;> simp [hk, hk']
  rw [Array.getElem?_modify]
  by_cases hab : a / block = b / block
  · rw [if_pos hab, ← hab, ← hget (a / block), Array.getElem?_eq_getElem hsize]
    -- two addresses of one block are told apart by their bits
    have hba : (b % block = a % block) ↔ b = a := by
      constructor
      · intro h; rw [← Nat.div_add_mod b block, ← Nat.div_add_mod a block, h, hab]
      · rintro rfl; rfl
    simp only [Option.map_some, Option.getD_some, Nat.testBit_or, Nat.one_shiftLeft,
      Nat.testBit_two_pow]
    congr 1
    rw [Bool.eq_iff_iff, decide_eq_true_iff, beq_iff_eq, ← hba]
    exact eq_comm
  · have hne : b ≠ a := by rintro rfl; exact hab rfl
    simp [hab, hget, hne]

/-- **What an insertion changes**, for positions inside the text. -/
theorem contains_insert (e : Entered) {a i : Nat} (hi : i < e.rows.size) (b j : Nat) :
    (e.insert a i).contains b j = (e.contains b j || (b == a && j == i)) := by
  unfold insert contains
  rw [Array.getElem?_modify]
  by_cases hij : i = j
  · subst hij
    rw [Array.getElem?_eq_getElem hi]
    simp only [if_true, Option.map_some, testBit_extend, beq_self_eq_true, Bool.and_true]
  · have hji : j ≠ i := fun h => hij h.symm
    simp [hij, hji]

theorem size_insert (e : Entered) (a i : Nat) : (e.insert a i).rows.size = e.rows.size := by
  simp [insert]

theorem contains_none (length a i : Nat) : (none length).contains a i = false := by
  unfold none contains
  rw [Array.getElem?_replicate]
  by_cases h : i < length + 1 <;> simp [h]

end Entered

namespace Program

variable {program : Program} {text : Array Char}

/-- A thread arrives in so many steps, with these slots. -/
inductive Arrives (program : Program) (text : Array Char) : Nat → Thread → Slots → Prop
  | here {t : Thread} (h : program.accepts t = true) : Arrives program text 0 t t.slots
  | step {n : Nat} {t u : Thread} {s : Slots} (h : u ∈ program.successors text t)
    (hu : Arrives program text n u s) : Arrives program text (n + 1) t s

/-- A thread goes on to where its address and position lead, whatever its slots. -/
theorem successors_of_same {t t' u : Thread} (ha : t.address = t'.address)
    (hp : t.position = t'.position) (h : u ∈ program.successors text t) :
    ∃ u' ∈ program.successors text t', u'.address = u.address ∧ u'.position = u.position := by
  unfold successors at h ⊢
  rw [← ha, ← hp]
  split at h <;> simp_all
  · split at h <;> simp_all
  · rcases h with rfl | rfl
    · exact Or.inl ⟨rfl, rfl⟩
    · exact Or.inr ⟨rfl, rfl⟩

/-- There are at most two ways on from a thread, and none from outside the program. -/
theorem length_successors (program : Program) (text : Array Char) (t : Thread) :
    (program.successors text t).length ≤ if t.address < program.size then 2 else 0 := by
  by_cases h : t.address < program.size
  · rw [if_pos h]
    unfold successors
    split <;> (try split) <;> (try split) <;> simp
  · simp [successors, h]

/-- A thread stays inside the text. -/
theorem position_of_mem_successors {t u : Thread} (ht : t.position ≤ text.size)
    (h : u ∈ program.successors text t) : u.position ≤ text.size := by
  have hlt : ∀ c, text[t.position]? = some c → t.position + 1 ≤ text.size := by
    intro c hc
    obtain ⟨hp, -⟩ := Array.getElem?_eq_some_iff.1 hc
    omega
  unfold successors at h
  split at h <;> simp_all
  · split at h <;> simp_all
  · rcases h with rfl | rfl <;> exact ht

/-- **Soundness of a run**: its slots are those of one of the threads that it follows. -/
theorem arrives_of_run {fuel : Nat} {ts : List Thread} {e : Entered} {s : Slots}
    (h : program.run text fuel ts e = some s) : ∃ t ∈ ts, ∃ n, Arrives program text n t s := by
  fun_induction run program text fuel ts e with
  | case1 => simp at h
  | case2 => simp at h
  | case3 fuel t rest e _ ih =>
    obtain ⟨u, hu, hn⟩ := ih h
    exact ⟨u, List.mem_cons_of_mem _ hu, hn⟩
  | case4 fuel t rest e _ hacc =>
    cases h
    exact ⟨t, List.mem_cons_self, 0, .here hacc⟩
  | case5 fuel t rest e _ _ ih =>
    obtain ⟨u, hu, n, hn⟩ := ih h
    rcases List.mem_append.1 hu with hu | hu
    · exact ⟨t, List.mem_cons_self, n + 1, .step hu hn⟩
    · exact ⟨u, List.mem_cons_of_mem _ hu, n, hn⟩

/-- The invariant of a search: no entered pair accepts, and the ways on from it have been entered or
are still to be followed. -/
def Closed (program : Program) (text : Array Char) (e : Entered) (ts : List Thread) : Prop :=
  ∀ t : Thread, e.contains t.address t.position = true → program.accepts t = false ∧
    ∀ u ∈ program.successors text t, e.contains u.address u.position = true ∨
      ∃ v ∈ ts, v.address = u.address ∧ v.position = u.position

/-- The pairs of the program that have not been entered. -/
def pending (program : Program) (text : Array Char) (e : Entered) : Finset (Nat × Nat) :=
  (Finset.range program.size ×ˢ Finset.range (text.size + 1)).filter
    fun q => e.contains q.1 q.2 = false

theorem closed_tail {e : Entered} {t : Thread} {ts : List Thread}
    (h : Closed program text e (t :: ts)) (ht : e.contains t.address t.position = true) :
    Closed program text e ts := by
  intro u hu
  obtain ⟨hacc, hnext⟩ := h u hu
  refine ⟨hacc, fun v hv => ?_⟩
  rcases hnext v hv with h | ⟨w, hw, ha, hp⟩
  · exact Or.inl h
  · rcases List.mem_cons.1 hw with rfl | hw
    · exact Or.inl (by rw [← ha, ← hp]; exact ht)
    · exact Or.inr ⟨w, hw, ha, hp⟩

theorem closed_insert {e : Entered} {t : Thread} {ts : List Thread}
    (h : Closed program text e (t :: ts)) (hacc : program.accepts t = false)
    (hp : t.position < e.rows.size) :
    Closed program text (e.insert t.address t.position) (program.successors text t ++ ts) := by
  intro u hu
  rw [Entered.contains_insert e hp] at hu
  simp only [Bool.or_eq_true, Bool.and_eq_true, beq_iff_eq] at hu
  rcases hu with hu | ⟨ha, hp'⟩
  · obtain ⟨hua, hnext⟩ := h u hu
    refine ⟨hua, fun v hv => ?_⟩
    rw [Entered.contains_insert e hp]
    rcases hnext v hv with h | ⟨w, hw, ha, hp'⟩
    · exact Or.inl (by rw [h]; rfl)
    · rcases List.mem_cons.1 hw with rfl | hw
      · exact Or.inl (by simp [ha, hp'])
      · exact Or.inr ⟨w, List.mem_append_right _ hw, ha, hp'⟩
  · -- the new pair: the ways on from it are those of the thread, up to their slots
    refine ⟨by unfold accepts at hacc ⊢; rw [ha]; exact hacc, fun v hv => Or.inr ?_⟩
    obtain ⟨w, hw, hwa, hwp⟩ := successors_of_same ha hp' hv
    exact ⟨w, List.mem_append_left _ hw, hwa, hwp⟩

/-- A pair that is entered is pending no more. -/
theorem card_pending_insert (program : Program) {e : Entered} {a i : Nat}
    (hrows : e.rows.size = text.size + 1) (hi : i ≤ text.size) (hnew : e.contains a i = false) :
    (pending program text (e.insert a i)).card + (if a < program.size then 1 else 0) ≤
      (pending program text e).card := by
  have hins := fun b j => Entered.contains_insert e (a := a) (i := i) (by omega) b j
  have hsub : pending program text (e.insert a i) ⊆ pending program text e := by
    intro q hq
    simp only [pending, Finset.mem_filter, hins, Bool.or_eq_false_iff] at hq ⊢
    exact ⟨hq.1, hq.2.1⟩
  by_cases ha : a < program.size
  · rw [if_pos ha]
    refine Finset.card_lt_card ⟨hsub, fun hback => ?_⟩
    have hmem : (a, i) ∈ pending program text e := by
      simp only [pending, Finset.mem_filter, Finset.mem_product, Finset.mem_range]
      exact ⟨⟨ha, by omega⟩, hnew⟩
    have := hback hmem
    simp [pending, hins] at this
  · rw [if_neg ha]; exact Finset.card_le_card hsub

/-- **The pairs entered by a run that gives nothing** are closed under going on, and include those
of the threads that it follows. Each round takes a thread away or enters a pair, which puts up to
two in its place: so many rounds are enough. -/
theorem closed_of_run {fuel : Nat} {ts : List Thread} {e : Entered}
    (h : program.run text fuel ts e = none) (hrows : e.rows.size = text.size + 1)
    (hpos : ∀ t ∈ ts, t.position ≤ text.size) (hclosed : Closed program text e ts)
    (hfuel : 2 * (pending program text e).card + ts.length < fuel) :
    ∃ e', Closed program text e' [] ∧
      (∀ a i, e.contains a i = true → e'.contains a i = true) ∧
      ∀ t ∈ ts, e'.contains t.address t.position = true := by
  fun_induction run program text fuel ts e with
  | case1 => omega
  | case2 fuel e => exact ⟨e, hclosed, fun _ _ h => h, by simp⟩
  | case3 fuel t rest e hin ih =>
    -- the thread is dropped: what it leads to was entered or is still to be followed
    obtain ⟨e', hc, hmono, hts⟩ := ih h hrows (fun u hu => hpos u (List.mem_cons_of_mem _ hu))
      (closed_tail hclosed hin) (by simp only [List.length_cons] at hfuel; omega)
    refine ⟨e', hc, hmono, fun u hu => ?_⟩
    rcases List.mem_cons.1 hu with rfl | hu
    · exact hmono _ _ hin
    · exact hts u hu
  | case4 => simp at h
  | case5 fuel t rest e hin hacc ih =>
    have ht := hpos t List.mem_cons_self
    have hin' : e.contains t.address t.position = false := by simpa using hin
    -- one pair less is pending, which pays for the two ways on from it
    have hcard := card_pending_insert program hrows ht hin'
    have hlen := length_successors program text t
    obtain ⟨e', hc, hmono, hts⟩ := ih h (by rw [Entered.size_insert, hrows])
      (fun u hu => (List.mem_append.1 hu).elim (position_of_mem_successors ht)
        fun hu => hpos u (List.mem_cons_of_mem _ hu))
      (closed_insert hclosed (by simpa using hacc) (by omega))
      (by
        simp only [List.length_cons, List.length_append] at hfuel ⊢
        split at hcard <;> simp_all <;> omega)
    have hins := fun b j => Entered.contains_insert e (a := t.address) (i := t.position)
      (by omega) b j
    refine ⟨e', hc, fun a i hai => hmono a i (by rw [hins, hai]; rfl), fun u hu => ?_⟩
    rcases List.mem_cons.1 hu with rfl | hu
    · exact hmono _ _ (by rw [hins]; simp)
    · exact hts u (List.mem_append_right _ hu)

/-- No thread arrives from a set of pairs that is closed under going on. -/
theorem Arrives.not_of_closed {e : Entered} (hc : Closed program text e []) {n : Nat} {t : Thread}
    {s : Slots} (h : Arrives program text n t s) : e.contains t.address t.position = false := by
  induction h with
  | @here t h =>
    by_contra hin
    rw [(hc t (by simpa using hin)).1] at h
    cases h
  | @step n t u s h _ ih =>
    by_contra hin
    rcases (hc t (by simpa using hin)).2 u h with hu | ⟨v, hv, -⟩
    · rw [ih] at hu; cases hu
    · cases hv

/-- **Soundness of a search**: its slots are those of a thread that starts somewhere in the text and
arrives. -/
theorem search_sound {s : Slots} (h : program.search text = some s) :
    ∃ start ≤ text.size, ∃ n, Arrives program text n ⟨0, start, []⟩ s := by
  obtain ⟨t, ht, hn⟩ := arrives_of_run h
  simp only [List.mem_map, List.mem_range] at ht
  obtain ⟨start, hstart, rfl⟩ := ht
  exact ⟨start, by omega, hn⟩

/-- **Completeness of a search**: it gives something if a thread that starts somewhere arrives. -/
theorem search_isSome {start n : Nat} {s : Slots} (hstart : start ≤ text.size)
    (h : Arrives program text n ⟨0, start, []⟩ s) : (program.search text).isSome = true := by
  -- otherwise the pairs entered at the end are closed, and include the one that arrives
  by_contra hnone
  have hrun : program.search text = none := by simpa using hnone
  have hpend : (pending program text (.none text.size)).card ≤
      program.size * (text.size + 1) := by
    refine le_trans (Finset.card_filter_le _ _) ?_
    simp
  obtain ⟨e, hc, -, hts⟩ := closed_of_run hrun (by simp [Entered.none])
    (by simp only [List.mem_map, List.mem_range]; rintro t ⟨i, hi, rfl⟩; exact Nat.le_of_lt_succ hi)
    (fun t ht => by rw [Entered.contains_none] at ht; cases ht)
    (by
      simp only [List.length_map, List.length_range, rounds, Nat.add_mul, Nat.mul_assoc]
      omega)
  have hin := hts ⟨0, start, []⟩ (List.mem_map.2 ⟨start, List.mem_range.2 (by omega), rfl⟩)
  rw [h.not_of_closed hc] at hin
  cases hin

end Program

end RequestRouter.Regex
