import RequestRouter.Proofs.Regex.Matching
import RequestRouter.Proofs.Regex.Search
import RequestRouter.Regex.Basic

/-!
# What code does

The code of a pattern is entered at its base address and left towards the address after it. It
*implements* the relation that the pattern denotes: what goes in at one position can come out at
another, with more notes, exactly when the pattern matches between the two.

* `implements_code`: the code of a pattern implements `Pattern.Matches`.
* `captures?_eq_some`: the groups that an expression captures are noted by one of its matches.
* `captures?_isSome`, `isMatch_iff`: **an expression matches in a text if and only if its pattern
  does between two positions.**
-/

namespace RequestRouter.Regex

namespace Program

variable {program : Program} {text : Array Char}

/-- Instructions stand in a program from an address on. -/
def Located (program : Program) (base : Nat) (code : List Instruction) : Prop :=
  ∀ k c, code[k]? = some c → program[base + k]? = some c

/-- Between two addresses, a program does what a relation between positions says. -/
structure Implements (program : Program) (text : Array Char) (base next : Nat)
    (R : Nat → Nat → Slots → Prop) : Prop where
  enter : ∀ {i j : Nat} {s s₀ r : Slots} {n : Nat}, R i j s →
    Arrives program text n ⟨next, j, s ++ s₀⟩ r → ∃ m, Arrives program text m ⟨base, i, s₀⟩ r
  -- the way out is shorter than the way in, which carries the induction over loops
  leave : ∀ {n i : Nat} {s₀ r : Slots}, Arrives program text n ⟨base, i, s₀⟩ r →
    ∃ j s m, m < n ∧ R i j s ∧ Arrives program text m ⟨next, j, s ++ s₀⟩ r

theorem located_cons (base : Nat) (c : Instruction) (code : List Instruction) :
    Located program base (c :: code) ↔
      program[base]? = some c ∧ Located program (base + 1) code := by
  constructor
  · intro h
    refine ⟨h 0 c rfl, fun k d hd => ?_⟩
    have := h (k + 1) d (by simpa using hd)
    rwa [show base + 1 + k = base + (k + 1) by omega]
  · rintro ⟨h0, h⟩ k d hd
    cases k with
    | zero => simp_all
    | succ k =>
      rw [show base + (k + 1) = base + 1 + k by omega]
      exact h k d (by simpa using hd)

theorem located_append (base : Nat) (code rest : List Instruction) :
    Located program base (code ++ rest) ↔
      Located program base code ∧ Located program (base + code.length) rest := by
  induction code generalizing base with
  | nil => simp [Located]
  | cons c code ih =>
    rw [List.cons_append, located_cons, ih, located_cons, and_assoc, List.length_cons,
      show base + 1 + code.length = base + (code.length + 1) by omega]

/-- A thread that has not arrived goes on. -/
theorem Arrives.next {n : Nat} {t : Thread} {r : Slots} (h : Arrives program text n t r)
    (ht : program.accepts t = false) :
    ∃ m u, n = m + 1 ∧ u ∈ program.successors text t ∧ Arrives program text m u r := by
  cases h with
  | here h => rw [ht] at h; cases h
  | step hu h => exact ⟨_, _, rfl, hu, h⟩

/-- A single instruction implements what the ways on from it say. -/
theorem implements_instruction {base next : Nat} {c : Instruction}
    {R : Nat → Nat → Slots → Prop} (hc : program[base]? = some c) (hne : c ≠ .accept)
    (hR : ∀ i s₀ u, u ∈ program.successors text ⟨base, i, s₀⟩ ↔
      ∃ j s, R i j s ∧ u = ⟨next, j, s ++ s₀⟩) : Implements program text base next R := by
  constructor
  · intro i j s s₀ r n h ha
    exact ⟨n + 1, .step ((hR i s₀ _).2 ⟨j, s, h, rfl⟩) ha⟩
  · intro n i s₀ r ha
    obtain ⟨m, u, rfl, hu, ha⟩ := ha.next (by unfold accepts; cases c <;> simp_all)
    obtain ⟨j, s, h, rfl⟩ := (hR i s₀ u).1 hu
    exact ⟨j, s, m, Nat.lt_succ_self m, h, ha⟩

theorem Implements.congr {base next : Nat} {R R' : Nat → Nat → Slots → Prop}
    (h : Implements program text base next R) (hR : ∀ i j s, R i j s ↔ R' i j s) :
    Implements program text base next R' := by
  have : R = R' := by funext i j s; exact propext (hR i j s)
  exact this ▸ h

theorem Implements.trans {base mid next : Nat} {R Q : Nat → Nat → Slots → Prop}
    (hR : Implements program text base mid R) (hQ : Implements program text mid next Q) :
    Implements program text base next
      fun i k s => ∃ j t u, R i j t ∧ Q j k u ∧ s = u ++ t := by
  constructor
  · rintro i k - s₀ r n ⟨j, t, u, h1, h2, rfl⟩ ha
    rw [List.append_assoc] at ha
    obtain ⟨m, ha⟩ := hQ.enter h2 ha
    exact hR.enter h1 ha
  · intro n i s₀ r ha
    obtain ⟨j, t, m, hm, h1, ha⟩ := hR.leave ha
    obtain ⟨k, u, l, hl, h2, ha⟩ := hQ.leave ha
    exact ⟨k, u ++ t, l, by omega, ⟨j, t, u, h1, h2, rfl⟩, by rwa [List.append_assoc]⟩

/-- A branch goes on at one of two addresses. -/
theorem mem_successors_branch {a inside outside i : Nat} {greedy : Bool} {s₀ : Slots}
    (hc : program[a]? = some (.branch greedy inside outside)) (u : Thread) :
    u ∈ program.successors text ⟨a, i, s₀⟩ ↔ u = ⟨inside, i, s₀⟩ ∨ u = ⟨outside, i, s₀⟩ := by
  cases greedy <;> simp_all [Instruction.branch, successors, or_comm]

theorem accepts_branch {a inside outside i : Nat} {greedy : Bool} {s₀ : Slots}
    (hc : program[a]? = some (.branch greedy inside outside)) :
    program.accepts ⟨a, i, s₀⟩ = false := by
  cases greedy <;> simp_all [Instruction.branch, accepts]

/-- A choice between a way that implements one relation and a way out. -/
theorem implements_option {base inside next : Nat} {greedy : Bool}
    {R : Nat → Nat → Slots → Prop} (hc : program[base]? = some (.branch greedy inside next))
    (hR : Implements program text inside next R) :
    Implements program text base next fun i j s => (i = j ∧ s = []) ∨ R i j s := by
  constructor
  · rintro i j s s₀ r n (⟨rfl, rfl⟩ | h) ha
    · exact ⟨n + 1, .step ((mem_successors_branch hc _).2 (Or.inr rfl)) ha⟩
    · obtain ⟨m, ha⟩ := hR.enter h ha
      exact ⟨m + 1, .step ((mem_successors_branch hc _).2 (Or.inl rfl)) ha⟩
  · intro n i s₀ r ha
    obtain ⟨m, u, rfl, hu, ha⟩ := ha.next (accepts_branch hc)
    rcases (mem_successors_branch hc u).1 hu with rfl | rfl
    · obtain ⟨j, s, l, hl, h, ha⟩ := hR.leave ha
      exact ⟨j, s, l, by omega, Or.inr h, ha⟩
    · exact ⟨i, [], m, Nat.lt_succ_self m, Or.inl ⟨rfl, rfl⟩, ha⟩

/-- **A loop**: a branch into a body that comes back to it implements any number of rounds. -/
theorem implements_loop {base inside next : Nat} {greedy : Bool}
    {R : Nat → Nat → Slots → Prop} (hc : program[base]? = some (.branch greedy inside next))
    (hR : Implements program text inside base R) :
    Implements program text base next fun i j s => ∃ n, Rounds R n i j s := by
  constructor
  · rintro i j s s₀ r n ⟨k, hk⟩ ha
    induction k generalizing i s s₀ with
    | zero =>
      obtain ⟨rfl, rfl⟩ := hk
      exact ⟨n + 1, .step ((mem_successors_branch hc _).2 (Or.inr rfl)) ha⟩
    | succ k ih =>
      obtain ⟨l, t, u, h1, h2, rfl⟩ := hk
      rw [List.append_assoc] at ha
      obtain ⟨m, ha⟩ := ih h2 ha
      obtain ⟨m, ha⟩ := hR.enter h1 ha
      exact ⟨m + 1, .step ((mem_successors_branch hc _).2 (Or.inl rfl)) ha⟩
  · intro n i s₀ r ha
    -- every round takes at least one step
    induction n using Nat.strong_induction_on generalizing i s₀ with
    | _ n ih =>
      obtain ⟨m, u, rfl, hu, ha⟩ := ha.next (accepts_branch hc)
      rcases (mem_successors_branch hc u).1 hu with rfl | rfl
      · obtain ⟨j, t, l, hl, h1, ha⟩ := hR.leave ha
        obtain ⟨k, u, l', hl', ⟨c, h2⟩, ha⟩ := ih l (by omega) ha
        exact ⟨k, u ++ t, l', by omega, ⟨c + 1, j, t, u, h1, h2, rfl⟩,
          by rwa [List.append_assoc]⟩
      · exact ⟨i, [], m, Nat.lt_succ_self m, ⟨0, rfl, rfl⟩, ha⟩

end Program

namespace Pattern

open Program

variable {program : Program} {text : Array Char}

theorem copies_succ (n size base : Nat) (body : Nat → Nat → List Instruction) :
    copies (n + 1) size base body =
      body base (base + size) ++ copies n size (base + size) body := by
  simp only [copies, List.range_succ_eq_map, List.flatMap_cons, List.flatMap_map]
  congr 1
  · simp
  · refine List.flatMap_congr fun i _ => ?_
    congr 1 <;> simp only [Nat.succ_eq_add_one, Nat.add_mul] <;> omega

theorem copies_snoc (n size base : Nat) (body : Nat → Nat → List Instruction) :
    copies (n + 1) size base body =
      copies n size base body ++ body (base + n * size) (base + (n + 1) * size) := by
  simp [copies, List.range_succ]

theorem optionals_succ (n size base exit : Nat) (greedy : Bool)
    (body : Nat → Nat → List Instruction) :
    optionals (n + 1) size base exit greedy body =
      .branch greedy (base + 1) exit :: (body (base + 1) (base + 1 + size) ++
        optionals n size (base + 1 + size) exit greedy body) := by
  simp only [optionals, List.range_succ_eq_map, List.flatMap_cons, List.flatMap_map,
    List.cons_append]
  congr 1
  · simp
  congr 1
  · congr 1 <;> omega
  · refine List.flatMap_congr fun i _ => ?_
    simp only [Nat.succ_eq_add_one, Nat.add_mul]
    congr 1
    · congr 1; omega
    · congr 1 <;> omega

theorem implements_char {c : Char} {base next : Nat}
    (hc : program[base]? = some (.char c next)) :
    Implements program text base next ((char c).Matches text) := by
  refine implements_instruction hc (by simp) fun i s₀ u => ?_
  by_cases hi : text[i]? = some c <;> simp [successors, hc, hi, char, Matches, Spells]

theorem implements_spell (c : Char) (rest : List Char) (base next : Nat)
    (h : Located program base (spell c rest base next)) :
    Implements program text base next ((Pattern.text c rest).Matches text) := by
  induction rest generalizing c base with
  | nil => exact implements_char ((located_cons _ _ _).1 h).1
  | cons d rest ih =>
    obtain ⟨hc, hrest⟩ := (located_cons _ _ _).1 h
    refine ((implements_char hc).trans (ih d (base + 1) hrest)).congr fun i j s => ?_
    simp only [char, Matches, Spells, List.length_cons, List.length_nil]
    constructor
    · rintro ⟨k, -, -, ⟨⟨h1, -⟩, rfl, rfl⟩, ⟨h2, rfl, rfl⟩, rfl⟩
      exact ⟨⟨h1, h2⟩, by omega, rfl⟩
    · rintro ⟨⟨h1, h2⟩, rfl, rfl⟩
      exact ⟨i + 1, [], [], ⟨⟨h1, trivial⟩, rfl, rfl⟩, ⟨h2, by omega, rfl⟩, rfl⟩

/-- The code of a body, wherever it stands, implements a relation. -/
def CodeImplements (program : Program) (text : Array Char) (size : Nat)
    (body : Nat → Nat → List Instruction) (R : Nat → Nat → Slots → Prop) : Prop :=
  (∀ base next, (body base next).length = size) ∧
    ∀ base next, Located program base (body base next) → Implements program text base next R

theorem implements_copies {size : Nat} {body : Nat → Nat → List Instruction}
    {R : Nat → Nat → Slots → Prop} (hbody : CodeImplements program text size body R) {n : Nat}
    {base next : Nat} {Q : Nat → Nat → Slots → Prop}
    (h : Located program base (copies n size base body))
    (hQ : Implements program text (base + n * size) next Q) :
    Implements program text base next
      fun i k s => ∃ j t u, Rounds R n i j t ∧ Q j k u ∧ s = u ++ t := by
  induction n generalizing base with
  | zero =>
    rw [Nat.zero_mul, Nat.add_zero] at hQ
    exact hQ.congr fun i j s => by simp [Rounds]
  | succ n ih =>
    rw [copies_succ, located_append, hbody.1] at h
    have hrest := ih h.2 (by rwa [Nat.add_assoc, Nat.add_comm size, ← Nat.succ_mul])
    refine ((hbody.2 _ _ h.1).trans hrest).congr fun i k s => ?_
    constructor
    · rintro ⟨j, t, -, h1, ⟨j', t', u', h2, h3, rfl⟩, rfl⟩
      exact ⟨j', t' ++ t, u', ⟨j, t, t', h1, h2, rfl⟩, h3, by simp⟩
    · rintro ⟨j', -, u', ⟨j, t, t', h1, h2, rfl⟩, h3, rfl⟩
      exact ⟨j, t, u' ++ t', h1, ⟨j', t', u', h2, h3, rfl⟩, by simp⟩

theorem implements_optionals {size : Nat} {body : Nat → Nat → List Instruction}
    {R : Nat → Nat → Slots → Prop} (hbody : CodeImplements program text size body R)
    {n base next : Nat} {greedy : Bool}
    (h : Located program base (optionals n size base next greedy body ++ [.jump next])) :
    Implements program text base next fun i j s => ∃ k ≤ n, Rounds R k i j s := by
  induction n generalizing base with
  | zero =>
    have hc : program[base]? = some (.jump next) := h 0 _ rfl
    refine implements_instruction hc (by simp) fun i s₀ u => ?_
    simp [successors, hc, Rounds]
  | succ n ih =>
    -- either the way out, or one round and then what the rest of the copies do
    rw [optionals_succ, List.cons_append, List.append_assoc, located_cons, located_append,
      hbody.1] at h
    obtain ⟨hc, hone, hrest⟩ := h
    refine (implements_option hc ((hbody.2 _ _ hone).trans (ih hrest))).congr fun i j s => ?_
    constructor
    · rintro (⟨rfl, rfl⟩ | ⟨k, t, u, h1, ⟨m, hm, h2⟩, rfl⟩)
      · exact ⟨0, Nat.zero_le _, rfl, rfl⟩
      · exact ⟨m + 1, by omega, k, t, u, h1, h2, rfl⟩
    · rintro ⟨m, hm, hrounds⟩
      cases m with
      | zero => exact Or.inl hrounds
      | succ m =>
        obtain ⟨k, t, u, h1, h2, rfl⟩ := hrounds
        exact Or.inr ⟨k, t, u, h1, ⟨m, by omega, h2⟩, rfl⟩

/-- The code of a pattern, wherever it stands, implements what the pattern matches. -/
def CodeCorrect (program : Program) (text : Array Char) (p : Pattern) : Prop :=
  ∀ base next, Located program base (p.code base next) →
    Implements program text base next (p.Matches text)

variable {p q : Pattern} {base next : Nat}

theorem CodeCorrect.body (hp : CodeCorrect program text p) :
    CodeImplements program text p.size p.code (p.Matches text) :=
  ⟨length_code p, hp⟩

theorem implements_alt (hp : CodeCorrect program text p) (hq : CodeCorrect program text q)
    (h : Located program base ((alt p q).code base next)) :
    Implements program text base next ((alt p q).Matches text) := by
  rw [code, located_cons, located_append, length_code] at h
  obtain ⟨hc, hp', hq'⟩ := h
  have hp := hp _ _ hp'
  have hq := hq _ _ hq'
  constructor
  · rintro i j s s₀ r n (h | h) ha
    · obtain ⟨m, ha⟩ := hp.enter h ha
      exact ⟨m + 1, .step (by simp [successors, hc]) ha⟩
    · obtain ⟨m, ha⟩ := hq.enter h ha
      exact ⟨m + 1, .step (by simp [successors, hc]) ha⟩
  · intro n i s₀ r ha
    obtain ⟨m, u, rfl, hu, ha⟩ := ha.next (by simp [accepts, hc])
    simp only [successors, hc, List.mem_cons, List.not_mem_nil, or_false] at hu
    rcases hu with rfl | rfl
    · obtain ⟨j, s, l, hl, h, ha⟩ := hp.leave ha
      exact ⟨j, s, l, by omega, Or.inl h, ha⟩
    · obtain ⟨j, s, l, hl, h, ha⟩ := hq.leave ha
      exact ⟨j, s, l, by omega, Or.inr h, ha⟩

/-- A bounded repetition: copies of the body that are needed, then copies that may be skipped. -/
theorem implements_bounded {min max : Nat} {greedy : Bool} (hp : CodeCorrect program text p)
    (h : Located program base ((times min (some max) greedy p).code base next)) :
    Implements program text base next ((times min (some max) greedy p).Matches text) := by
  rw [code, List.append_assoc, located_append, length_copies _ _ _ _ (length_code p)] at h
  have hrounds := implements_copies hp.body h.1 (implements_optionals hp.body h.2)
  refine hrounds.congr fun i j s => ?_
  constructor
  · rintro ⟨k, t, u, h1, ⟨m, hm, h2⟩, rfl⟩
    refine ⟨min + m, by omega, fun m' hm' => ?_, (rounds_add _ _ _ _ _).2 ⟨k, t, u, h1, h2, rfl⟩⟩
    cases hm'
    omega
  · rintro ⟨n, hmin, hmax, hn⟩
    obtain ⟨m, rfl⟩ := Nat.exists_eq_add_of_le hmin
    obtain ⟨k, t, u, h1, h2, rfl⟩ := (rounds_add _ _ _ _ _).1 hn
    have := hmax max rfl
    exact ⟨k, t, u, h1, ⟨m, by omega, h2⟩, rfl⟩

/-- An unbounded repetition that may be skipped. If the body may match the empty text, it is entered
once before the loop, so that a round of it comes before the way out. -/
theorem implements_star {greedy : Bool} (hp : CodeCorrect program text p)
    (h : Located program base ((times 0 none greedy p).code base next)) :
    Implements program text base next ((times 0 none greedy p).Matches text) := by
  by_cases hcons : p.consumes
  · simp only [code, hcons, if_true, located_cons] at h
    refine (implements_loop h.1 (hp _ _ h.2)).congr fun i j s => ?_
    simp [Matches]
  · rw [code, if_neg hcons, located_cons, located_append, length_code] at h
    obtain ⟨henter, hbody, hloop⟩ := h
    have hp := hp _ _ hbody
    have hrounds := implements_option henter (hp.trans (implements_loop (hloop 0 _ rfl) hp))
    refine hrounds.congr fun i j s => ?_
    constructor
    · rintro (h | ⟨k, t, u, h1, ⟨n, h2⟩, rfl⟩)
      · exact ⟨0, le_rfl, by simp, h⟩
      · exact ⟨n + 1, Nat.zero_le _, by simp, k, t, u, h1, h2, rfl⟩
    · rintro ⟨n, -, -, hn⟩
      cases n with
      | zero => exact Or.inl hn
      | succ n =>
        obtain ⟨k, t, u, h1, h2, rfl⟩ := hn
        exact Or.inr ⟨k, t, u, h1, ⟨n, h2⟩, rfl⟩

/-- An unbounded repetition with copies that are needed: the loop goes back to the last of them. -/
theorem implements_plus {n : Nat} {greedy : Bool} (hp : CodeCorrect program text p)
    (h : Located program base ((times (n + 1) none greedy p).code base next)) :
    Implements program text base next ((times (n + 1) none greedy p).Matches text) := by
  rw [code, located_append, length_copies _ _ _ _ (length_code p)] at h
  -- the last copy comes back to the branch behind it, so it is also the body of the loop
  have hlast : Located program (base + n * p.size)
      (p.code (base + n * p.size) (base + (n + 1) * p.size)) := by
    rw [copies_snoc, located_append, length_copies _ _ _ _ (length_code p)] at h
    exact h.1.2
  have hloop := implements_loop (h.2 0 _ rfl) (hp _ _ hlast)
  refine (implements_copies hp.body h.1 hloop).congr fun i j s => ?_
  constructor
  · rintro ⟨k, t, u, h1, ⟨m, h2⟩, rfl⟩
    exact ⟨n + 1 + m, by omega, by simp, (rounds_add _ _ _ _ _).2 ⟨k, t, u, h1, h2, rfl⟩⟩
  · rintro ⟨m, hmin, -, hm⟩
    obtain ⟨m, rfl⟩ := Nat.exists_eq_add_of_le hmin
    obtain ⟨k, t, u, h1, h2, rfl⟩ := (rounds_add _ _ _ _ _).1 hm
    exact ⟨k, t, u, h1, ⟨m, h2⟩, rfl⟩

theorem implements_capture {g : Nat} (hp : CodeCorrect program text p)
    (h : Located program base ((capture g p).code base next)) :
    Implements program text base next ((capture g p).Matches text) := by
  rw [code, located_cons, located_append, length_code] at h
  obtain ⟨hopen, hbody, hclose⟩ := h
  have hclose := hclose 0 _ rfl
  have h1 : Implements program text base (base + 1) fun i j s => i = j ∧ s = [(2 * g, i)] :=
    implements_instruction hopen (by simp) fun i s₀ u => by simp [successors, hopen]
  have h2 : Implements program text (base + 1 + p.size) next
      fun i j s => i = j ∧ s = [(2 * g + 1, i)] :=
    implements_instruction hclose (by simp) fun i s₀ u => by simp_all [successors]
  refine (h1.trans ((hp _ _ hbody).trans h2)).congr fun i j s => ?_
  simp [Matches]

/-- **The code of a pattern implements what the pattern matches**, wherever it stands. -/
theorem implements_code (p : Pattern) : CodeCorrect program text p := by
  induction p with
  | empty =>
    intro base next h
    have hc := h 0 _ rfl
    exact implements_instruction hc (by simp) fun i s₀ u => by simp_all [successors, Matches]
  | text c rest => exact implements_spell c rest
  | one ascii set =>
    intro base next h
    have hc : program[base]? = some (.one set next) := h 0 _ rfl
    refine implements_instruction hc (by simp) fun i s₀ u => ?_
    cases hi : text[i]? with
    | none => simp [successors, hc, hi, Matches]
    | some c => by_cases hset : set.contains c <;> simp [successors, hc, hi, hset, Matches]
  | assert a =>
    intro base next h
    have hc : program[base]? = some (.assert a next) := h 0 _ rfl
    refine implements_instruction hc (by simp) fun i s₀ u => ?_
    by_cases ha : a.holds text i <;> simp [successors, hc, ha, Matches]
  | seq p q ihp ihq =>
    intro base next h
    rw [code, located_append, length_code] at h
    exact (ihp _ _ h.1).trans (ihq _ _ h.2)
  | alt p q ihp ihq => exact fun base next h => implements_alt ihp ihq h
  | times min max greedy p ih =>
    intro base next h
    cases max with
    | some max => exact implements_bounded ih h
    | none =>
      cases min with
      | zero => exact implements_star ih h
      | succ n => exact implements_plus ih h
  | capture g p ih => exact fun base next h => implements_capture ih h

end Pattern

namespace Program

variable {text : Array Char} {p : Pattern}

/-- The slots noted when a whole pattern matches between two positions. -/
def wholeNotes (i j : Nat) (s : Slots) : Slots := (1, j) :: (s ++ [(0, i)])

theorem implements_ofPattern (p : Pattern) (text : Array Char) :
    Implements (ofPattern p) text 0 (Pattern.capture 0 p).size
      ((Pattern.capture 0 p).Matches text) := by
  refine Pattern.implements_code _ _ _ fun k c hk => ?_
  simp only [ofPattern, List.getElem?_toArray, Nat.zero_add]
  rw [List.getElem?_append_left (List.getElem?_eq_some_iff.1 hk).1]
  exact hk

theorem ofPattern_accept (p : Pattern) :
    (ofPattern p)[(Pattern.capture 0 p).size]? = some .accept := by
  simp [ofPattern, Pattern.length_code]

/-- The slots that a search gives are the notes of a match. -/
theorem matches_of_search {r : Slots} (h : (ofPattern p).search text = some r) :
    ∃ i j s, i ≤ text.size ∧ p.Matches text i j s ∧ r = wholeNotes i j s := by
  obtain ⟨i, hi, n, ha⟩ := search_sound h
  obtain ⟨j, s, m, -, ⟨t, ht, rfl⟩, ha⟩ := (implements_ofPattern p text).leave ha
  refine ⟨i, j, t, hi, ht, ?_⟩
  cases ha with
  | here => simp [wholeNotes]
  | step hu => simp [successors, ofPattern_accept] at hu

/-- A search gives something if and only if the pattern matches somewhere in the text. -/
theorem search_ofPattern_isSome : ((ofPattern p).search text).isSome = true ↔
    ∃ i j s, i ≤ text.size ∧ p.Matches text i j s := by
  constructor
  · intro h
    obtain ⟨r, hr⟩ := Option.isSome_iff_exists.1 h
    obtain ⟨i, j, s, hi, hm, -⟩ := matches_of_search hr
    exact ⟨i, j, s, hi, hm⟩
  · rintro ⟨i, j, s, hi, hm⟩
    have haccept : Arrives (ofPattern p) text 0
        ⟨(Pattern.capture 0 p).size, j, (2 * 0 + 1, j) :: (s ++ [(2 * 0, i)]) ++ []⟩ _ :=
      .here (by simp [accepts, ofPattern_accept])
    obtain ⟨m, ha⟩ := (implements_ofPattern p text).enter ⟨s, hm, rfl⟩ haccept
    exact search_isSome hi ha

end Program

end Regex

open Regex Regex.Program

/-- **The groups that an expression captures** are noted by one of its matches. -/
theorem Regex.captures?_eq_some {regex : Regex} {text : String} {caps : Captures}
    (h : regex.captures? text = some caps) :
    ∃ i j s, i ≤ text.toList.length ∧ regex.pattern.Matches text.toList.toArray i j s ∧
      caps = ⟨text.toList, (List.range regex.groupNames.length).map
        (spanOf (wholeNotes i j s))⟩ := by
  unfold captures? at h
  rw [regex.program_eq] at h
  obtain ⟨r, hr, rfl⟩ := Option.map_eq_some_iff.1 h
  obtain ⟨i, j, s, hi, hm, rfl⟩ := matches_of_search hr
  exact ⟨i, j, s, by simpa using hi, hm, rfl⟩

/-- An expression captures something in a text if and only if it matches in it. -/
theorem Regex.captures?_isSome (regex : Regex) (text : String) :
    (regex.captures? text).isSome = regex.isMatch text := by
  simp [captures?, isMatch]

/-- **An expression matches in a text** if and only if its pattern does between two positions. -/
theorem Regex.isMatch_iff (regex : Regex) (text : String) : regex.isMatch text = true ↔
    ∃ i j s, i ≤ text.toList.length ∧ regex.pattern.Matches text.toList.toArray i j s := by
  rw [isMatch, regex.program_eq, search_ofPattern_isSome]
  simp

end RequestRouter
