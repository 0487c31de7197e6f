import Mathlib.Tactic
import RequestRouter.Regex.Search

/-!
# What a pattern matches

`Pattern.Matches text p i j s` says that the pattern `p` matches the text from position `i` to `j`,
noting the slots `s` on the way, the latest first. It says nothing about which of several matches is
preferred.

* `matches_concat`: a sequence matches what its parts match one after the other.
* `matches_renumber`: the indices of groups have no say in what is matched.
* `Matches.elsewhere`: **a pattern without assertions matches the same characters wherever they
  stand**, whatever is around them.
* `group_of_note`: only the slots of a pattern's own groups are noted.
-/

namespace RequestRouter.Regex

/-- A run of characters stands at a position of a text. -/
def Spells (text : Array Char) : Nat → List Char → Prop
  | _, [] => True
  | i, c :: cs => text[i]? = some c ∧ Spells text (i + 1) cs

/-- So many rounds of a relation between positions, the notes of later rounds first. -/
def Rounds (R : Nat → Nat → Slots → Prop) : Nat → Nat → Nat → Slots → Prop
  | 0, i, j, s => i = j ∧ s = []
  | n + 1, i, k, s => ∃ j t u, R i j t ∧ Rounds R n j k u ∧ s = u ++ t

namespace Pattern

/-- **What a pattern matches**, between which positions and with which notes. -/
def Matches (text : Array Char) : Pattern → Nat → Nat → Slots → Prop
  | empty, i, j, s => i = j ∧ s = []
  | .text c rest, i, j, s => Spells text i (c :: rest) ∧ j = i + (rest.length + 1) ∧ s = []
  | one _ set, i, j, s => (∃ c, text[i]? = some c ∧ set.contains c = true) ∧ j = i + 1 ∧ s = []
  | assert a, i, j, s => a.holds text i = true ∧ i = j ∧ s = []
  | seq p q, i, k, s => ∃ j t u, p.Matches text i j t ∧ q.Matches text j k u ∧ s = u ++ t
  | alt p q, i, j, s => p.Matches text i j s ∨ q.Matches text i j s
  | times min max _ p, i, j, s =>
    ∃ n, min ≤ n ∧ (∀ m, max = some m → n ≤ min ∨ n ≤ m) ∧ Rounds (p.Matches text) n i j s
  | capture g p, i, j, s =>
    ∃ t, p.Matches text i j t ∧ s = (2 * g + 1, j) :: (t ++ [(2 * g, i)])

/-- What patterns match one after the other. -/
def MatchesAll (text : Array Char) : List Pattern → Nat → Nat → Slots → Prop
  | [], i, j, s => i = j ∧ s = []
  | p :: ps, i, k, s => ∃ j t u, p.Matches text i j t ∧ MatchesAll text ps j k u ∧ s = u ++ t

/-- Whether a pattern asserts nothing about what is around it. -/
def assertFree : Pattern → Bool
  | empty => true
  | .text _ _ => true
  | one _ _ => true
  | assert _ => false
  | seq p q => p.assertFree && q.assertFree
  | alt p q => p.assertFree && q.assertFree
  | times _ _ _ p => p.assertFree
  | capture _ p => p.assertFree

/-- The pattern with the indices of its groups moved up. -/
def renumber (k : Nat) : Pattern → Pattern
  | empty => empty
  | .text c rest => .text c rest
  | one ascii set => one ascii set
  | assert a => assert a
  | seq p q => seq (p.renumber k) (q.renumber k)
  | alt p q => alt (p.renumber k) (q.renumber k)
  | times min max greedy p => times min max greedy (p.renumber k)
  | capture g p => capture (g + k) (p.renumber k)

end Pattern

open Pattern

variable {text text' : Array Char}

theorem spells_append (i : Nat) (a b : List Char) :
    Spells text i (a ++ b) ↔ Spells text i a ∧ Spells text (i + a.length) b := by
  induction a generalizing i with
  | nil => simp [Spells]
  | cons c a ih =>
    simp only [List.cons_append, Spells, ih, List.length_cons, and_assoc]
    rw [show i + 1 + a.length = i + (a.length + 1) by omega]

theorem spells_iff (i : Nat) (cs : List Char) :
    Spells text i cs ↔ ∀ k c, cs[k]? = some c → text[i + k]? = some c := by
  induction cs generalizing i with
  | nil => simp [Spells]
  | cons d cs ih =>
    simp only [Spells, ih]
    constructor
    · rintro ⟨h0, h⟩ k c hk
      cases k with
      | zero => simp_all
      | succ k =>
        rw [show i + (k + 1) = i + 1 + k by omega]
        exact h k c (by simpa using hk)
    · intro h
      refine ⟨h 0 d (by simp), fun k c hk => ?_⟩
      rw [show i + 1 + k = i + (k + 1) by omega]
      exact h (k + 1) c (by simpa using hk)

/-- What a run of characters spells ends inside the text. -/
theorem Spells.le {i : Nat} {cs : List Char} (h : Spells text i cs) (hi : i ≤ text.size) :
    i + cs.length ≤ text.size := by
  induction cs generalizing i with
  | nil => exact hi
  | cons c cs ih =>
    obtain ⟨hlt, -⟩ := Array.getElem?_eq_some_iff.1 h.1
    have := ih h.2 hlt
    rw [List.length_cons]; omega

theorem rounds_add {R : Nat → Nat → Slots → Prop} (m n i k : Nat) (s : Slots) :
    Rounds R (m + n) i k s ↔
      ∃ j t u, Rounds R m i j t ∧ Rounds R n j k u ∧ s = u ++ t := by
  induction m generalizing i s with
  | zero => simp [Rounds]
  | succ m ih =>
    rw [show m + 1 + n = (m + n) + 1 by omega]
    simp only [Rounds, ih]
    constructor
    · rintro ⟨j, t, u, hR, ⟨j', t', u', h1, h2, rfl⟩, rfl⟩
      exact ⟨j', t' ++ t, u', ⟨j, t, t', hR, h1, rfl⟩, h2, by simp⟩
    · rintro ⟨j, t, u, ⟨j', t', u', hR, h1, rfl⟩, h2, rfl⟩
      exact ⟨j', t', u ++ u', hR, ⟨j, u', u, h1, h2, rfl⟩, by simp⟩

/-- What every round keeps, any number of rounds keeps. -/
theorem Rounds.keep {R : Nat → Nat → Slots → Prop} {Q : Nat → Prop}
    (hR : ∀ i j s, R i j s → Q i → Q j) {n i j : Nat} {s : Slots} (h : Rounds R n i j s)
    (hi : Q i) : Q j := by
  induction n generalizing i s with
  | zero => exact h.1 ▸ hi
  | succ n ih =>
    obtain ⟨k, t, u, h1, h2, -⟩ := h
    exact ih h2 (hR _ _ _ h1 hi)

/-- What holds of all notes of a round, holds of those of any number of rounds. -/
theorem Rounds.forall_notes {R : Nat → Nat → Slots → Prop} {Q : Nat × Nat → Prop}
    (hR : ∀ i j s, R i j s → ∀ e ∈ s, Q e) {n i j : Nat} {s : Slots} (h : Rounds R n i j s) :
    ∀ e ∈ s, Q e := by
  induction n generalizing i s with
  | zero => obtain ⟨-, rfl⟩ := h; simp
  | succ n ih =>
    obtain ⟨k, t, u, h1, h2, rfl⟩ := h
    intro e he
    rcases List.mem_append.1 he with he | he
    · exact ih h2 e he
    · exact hR i k t h1 e he

/-- **A match goes forward and ends inside the text.** -/
theorem Pattern.Matches.le {p : Pattern} {i j : Nat} {s : Slots} (h : p.Matches text i j s) :
    i ≤ j ∧ (i ≤ text.size → j ≤ text.size) := by
  induction p generalizing i j s with
  | empty => exact ⟨h.1 ▸ le_rfl, fun hi => h.1 ▸ hi⟩
  | text c rest =>
    obtain ⟨hs, rfl, -⟩ := h
    exact ⟨by omega, fun hi => by simpa using hs.le hi⟩
  | one ascii set =>
    obtain ⟨⟨c, hc, -⟩, rfl, -⟩ := h
    obtain ⟨hlt, -⟩ := Array.getElem?_eq_some_iff.1 hc
    exact ⟨by omega, fun _ => hlt⟩
  | assert a => exact ⟨h.2.1 ▸ le_rfl, fun hi => h.2.1 ▸ hi⟩
  | seq p q hp hq =>
    obtain ⟨k, t, u, h1, h2, -⟩ := h
    exact ⟨le_trans (hp h1).1 (hq h2).1, fun hi => (hq h2).2 ((hp h1).2 hi)⟩
  | alt p q hp hq => exact h.elim hp hq
  | times min max greedy p hp =>
    obtain ⟨n, -, -, hn⟩ := h
    exact ⟨hn.keep (Q := (i ≤ ·)) (fun _ _ _ h1 h2 => le_trans h2 (hp h1).1) le_rfl,
      hn.keep (Q := (· ≤ text.size)) fun _ _ _ h1 => (hp h1).2⟩
  | capture g p hp =>
    obtain ⟨t, ht, -⟩ := h
    exact hp ht

/-- **The notes of a match** are in the slots of the groups that the pattern has. -/
theorem Pattern.Matches.group_of_note {p : Pattern} {i j : Nat} {s : Slots}
    (h : p.Matches text i j s) : ∀ e ∈ s, e.1 / 2 ∈ p.groups := by
  induction p generalizing i j s with
  | empty => obtain ⟨-, rfl⟩ := h; simp
  | text c rest => obtain ⟨-, -, rfl⟩ := h; simp
  | one ascii set => obtain ⟨-, -, rfl⟩ := h; simp
  | assert a => obtain ⟨-, -, rfl⟩ := h; simp
  | seq p q hp hq =>
    obtain ⟨k, t, u, h1, h2, rfl⟩ := h
    intro e he
    rw [Pattern.groups, List.mem_append]
    rcases List.mem_append.1 he with he | he
    · exact Or.inr (hq h2 e he)
    · exact Or.inl (hp h1 e he)
  | alt p q hp hq =>
    intro e he
    rw [Pattern.groups, List.mem_append]
    exact h.imp (hp · e he) (hq · e he)
  | times min max greedy p hp =>
    obtain ⟨n, -, -, hn⟩ := h
    exact hn.forall_notes fun _ _ _ hround => hp hround
  | capture g p hp =>
    obtain ⟨t, ht, rfl⟩ := h
    intro e he
    rw [Pattern.groups, List.mem_cons]
    simp only [List.mem_cons, List.mem_append, List.not_mem_nil, or_false] at he
    rcases he with rfl | he | rfl
    · exact Or.inl (by simp only; omega)
    · exact Or.inr (hp ht e he)
    · exact Or.inl (by simp only; omega)

/-! ### Sequences -/

theorem matchesAll_append (ps qs : List Pattern) (i k : Nat) (s : Slots) :
    MatchesAll text (ps ++ qs) i k s ↔
      ∃ j t u, MatchesAll text ps i j t ∧ MatchesAll text qs j k u ∧ s = u ++ t := by
  induction ps generalizing i s with
  | nil => simp [MatchesAll]
  | cons p ps ih =>
    simp only [List.cons_append, MatchesAll, ih]
    constructor
    · rintro ⟨j, t, u, hp, ⟨j', t', u', h1, h2, rfl⟩, rfl⟩
      exact ⟨j', t' ++ t, u', ⟨j, t, t', hp, h1, rfl⟩, h2, by simp⟩
    · rintro ⟨j, t, u, ⟨j', t', u', hp, h1, rfl⟩, h2, rfl⟩
      exact ⟨j', t', u ++ u', hp, ⟨j, u', u, h1, h2, rfl⟩, by simp⟩

theorem matchesAll_singleton (p : Pattern) (i j : Nat) (s : Slots) :
    MatchesAll text [p] i j s ↔ p.Matches text i j s := by
  simp [MatchesAll]

/-- A sequence that starts at the start of the text. -/
theorem matchesAll_textStart {ps : List Pattern} {i k : Nat} {s : Slots} (hi : i ≤ text.size) :
    MatchesAll text (assert .textStart :: ps) i k s ↔ i = 0 ∧ MatchesAll text ps 0 k s := by
  have hstart : Assertion.textStart.holds text i = true ↔ i = 0 := by
    unfold Assertion.holds Assertion.holdsBetween
    by_cases h0 : i = 0
    · simp [h0]
    · simp [h0]; omega
  simp only [MatchesAll, Matches, hstart]
  constructor
  · rintro ⟨_, _, u, ⟨rfl, rfl, rfl⟩, hps, rfl⟩
    exact ⟨rfl, by simpa using hps⟩
  · rintro ⟨rfl, hps⟩
    exact ⟨0, [], s, ⟨rfl, rfl, rfl⟩, hps, by simp⟩

/-- A sequence that ends at the end of the text. -/
theorem matchesAll_textEnd {ps : List Pattern} {i k : Nat} {s : Slots} :
    MatchesAll text (ps ++ [assert .textEnd]) i k s ↔ MatchesAll text ps i k s ∧ text.size ≤ k := by
  have hend : Assertion.textEnd.holds text k = true ↔ text.size ≤ k := by
    simp [Assertion.holds, Assertion.holdsBetween]
  rw [matchesAll_append]
  constructor
  · rintro ⟨_, _, _, hps, ⟨_, _, _, ⟨hk, rfl, rfl⟩, ⟨rfl, rfl⟩, rfl⟩, rfl⟩
    exact ⟨hps, hend.1 hk⟩
  · rintro ⟨hps, hk⟩
    exact ⟨k, s, [], hps, ⟨k, [], [], ⟨hend.2 hk, rfl, rfl⟩, ⟨rfl, rfl⟩, rfl⟩, rfl⟩

theorem matches_seqAll (ps : List Pattern) (i j : Nat) (s : Slots) :
    (seqAll ps).Matches text i j s ↔ MatchesAll text ps i j s := by
  induction ps generalizing i s with
  | nil => rfl
  | cons p ps ih =>
    cases ps with
    | nil => exact (matchesAll_singleton p i j s).symm
    | cons q ps => simp only [seqAll, Matches, ih]; rfl

theorem matchesAll_parts (p : Pattern) (i j : Nat) (s : Slots) :
    MatchesAll text p.parts i j s ↔ p.Matches text i j s := by
  induction p generalizing i j s with
  | empty => rfl
  | seq p q hp hq => simp only [parts, matchesAll_append, Matches, hp, hq]
  | _ => exact matchesAll_singleton _ i j s

/-- Two texts side by side match what one text of both does. -/
theorem matchesAll_prepend (p : Pattern) (ps : List Pattern) (i k : Nat) (s : Slots) :
    MatchesAll text (prepend p ps) i k s ↔ MatchesAll text (p :: ps) i k s := by
  unfold prepend
  split
  · rename_i c cs d ds rest
    simp only [MatchesAll, Matches, show c :: (cs ++ d :: ds) = (c :: cs) ++ d :: ds from rfl,
      spells_append]
    constructor
    · rintro ⟨j, t, u, ⟨⟨h1, h2⟩, rfl, rfl⟩, hrest, rfl⟩
      refine ⟨_, [], u, ⟨h1, rfl, rfl⟩, ⟨_, [], u, ⟨h2, rfl, rfl⟩, ?_, by simp⟩, by simp⟩
      simpa [Nat.add_assoc, Nat.add_comm, Nat.add_left_comm] using hrest
    · rintro ⟨_, _, _, ⟨h1, rfl, rfl⟩, ⟨_, _, u, ⟨h2, rfl, rfl⟩, hrest, rfl⟩, rfl⟩
      refine ⟨_, [], u, ⟨⟨h1, h2⟩, rfl, rfl⟩, ?_, by simp⟩
      simpa [Nat.add_assoc, Nat.add_comm, Nat.add_left_comm] using hrest
  · rfl

theorem matchesAll_joined (ps : List Pattern) (i j : Nat) (s : Slots) :
    MatchesAll text (ps.foldr prepend []) i j s ↔ MatchesAll text ps i j s := by
  induction ps generalizing i s with
  | nil => rfl
  | cons p ps ih => simp only [List.foldr_cons, matchesAll_prepend, MatchesAll, ih]

/-- **A sequence** matches what its parts match one after the other. -/
theorem matches_concat (ps : List Pattern) (i j : Nat) (s : Slots) :
    (concat ps).Matches text i j s ↔ MatchesAll text ps i j s := by
  rw [concat, matches_seqAll, matchesAll_joined]
  induction ps generalizing i s with
  | nil => rfl
  | cons p ps ih =>
    simp only [List.flatMap_cons, matchesAll_append, matchesAll_parts, MatchesAll, ih]

theorem groups_seqAll (ps : List Pattern) : (seqAll ps).groups = ps.flatMap groups := by
  induction ps with
  | nil => rfl
  | cons p ps ih =>
    cases ps with
    | nil => simp [seqAll]
    | cons q ps => simp only [seqAll, Pattern.groups, ih, List.flatMap_cons]

theorem groups_parts (p : Pattern) : p.parts.flatMap groups = p.groups := by
  induction p with
  | seq p q hp hq => simp [parts, Pattern.groups, hp, hq]
  | _ => simp [parts, Pattern.groups]

theorem groups_prepend (p : Pattern) (ps : List Pattern) :
    (prepend p ps).flatMap groups = p.groups ++ ps.flatMap groups := by
  unfold prepend
  split <;> simp [Pattern.groups]

theorem groups_joined (ps : List Pattern) :
    (ps.foldr prepend []).flatMap groups = ps.flatMap groups := by
  induction ps with
  | nil => rfl
  | cons p ps ih => rw [List.foldr_cons, groups_prepend, ih, List.flatMap_cons]

/-- A sequence has the groups of its parts. -/
theorem groups_concat (ps : List Pattern) : (concat ps).groups = ps.flatMap groups := by
  rw [concat, groups_seqAll, groups_joined, List.flatMap_assoc]
  simp only [groups_parts]

/-! ### Renumbering -/

theorem groups_renumber (k : Nat) (p : Pattern) :
    (p.renumber k).groups = p.groups.map (· + k) := by
  induction p <;> simp_all [renumber, Pattern.groups]

theorem rounds_congr {R R' : Nat → Nat → Slots → Prop}
    (hR : ∀ i j, (∃ s, R i j s) ↔ ∃ s, R' i j s) (n i j : Nat) :
    (∃ s, Rounds R n i j s) ↔ ∃ s, Rounds R' n i j s := by
  induction n generalizing i with
  | zero => simp [Rounds]
  | succ n ih =>
    constructor
    · rintro ⟨-, k, t, u, h1, h2, rfl⟩
      obtain ⟨t', h1'⟩ := (hR i k).1 ⟨t, h1⟩
      obtain ⟨u', h2'⟩ := (ih k).1 ⟨u, h2⟩
      exact ⟨_, k, t', u', h1', h2', rfl⟩
    · rintro ⟨-, k, t, u, h1, h2, rfl⟩
      obtain ⟨t', h1'⟩ := (hR i k).2 ⟨t, h1⟩
      obtain ⟨u', h2'⟩ := (ih k).2 ⟨u, h2⟩
      exact ⟨_, k, t', u', h1', h2', rfl⟩

/-- **The indices of groups have no say in what is matched.** -/
theorem matches_renumber (k : Nat) (p : Pattern) (i j : Nat) :
    (∃ s, (p.renumber k).Matches text i j s) ↔ ∃ s, p.Matches text i j s := by
  induction p generalizing i j with
  | seq p q hp hq =>
    constructor
    · rintro ⟨-, m, t, u, h1, h2, rfl⟩
      obtain ⟨t', h1'⟩ := (hp i m).1 ⟨t, h1⟩
      obtain ⟨u', h2'⟩ := (hq m j).1 ⟨u, h2⟩
      exact ⟨_, m, t', u', h1', h2', rfl⟩
    · rintro ⟨-, m, t, u, h1, h2, rfl⟩
      obtain ⟨t', h1'⟩ := (hp i m).2 ⟨t, h1⟩
      obtain ⟨u', h2'⟩ := (hq m j).2 ⟨u, h2⟩
      exact ⟨_, m, t', u', h1', h2', rfl⟩
  | alt p q hp hq =>
    simp only [renumber, Matches, exists_or]
    rw [hp, hq]
  | times min max greedy p hp =>
    simp only [renumber, Matches]
    rw [exists_comm, @exists_comm Slots]
    refine exists_congr fun n => ?_
    simp only [exists_and_left, rounds_congr hp n i j]
  | capture g p hp =>
    simp only [renumber, Matches]
    rw [exists_comm, @exists_comm Slots]
    simpa using hp i j
  | _ => rfl

/-! ### The same characters elsewhere -/

/-- Two texts have the same characters between `x` and `y`, counted from `a` and `b`. -/
def SameBetween (text text' : Array Char) (a b x y : Nat) : Prop :=
  ∀ k, x ≤ k → k < y → text[a + k]? = text'[b + k]?

theorem SameBetween.mono {a b x y x' y' : Nat} (h : SameBetween text text' a b x y)
    (hx : x ≤ x') (hy : y' ≤ y) : SameBetween text text' a b x' y' :=
  fun k h1 h2 => h k (by omega) (by omega)

/-- Rounds that go forward stay between the positions of the whole, so they can all be moved if each
of them can. -/
theorem rounds_elsewhere {R S : Nat → Nat → Slots → Prop} {a b : Nat}
    (hle : ∀ i j s, R i j s → i ≤ j)
    (hR : ∀ x y s, R (a + x) (a + y) s → SameBetween text text' a b x y →
      ∃ s', S (b + x) (b + y) s') {n x y : Nat} {s : Slots}
    (h : Rounds R n (a + x) (a + y) s) (hsame : SameBetween text text' a b x y) :
    ∃ s', Rounds S n (b + x) (b + y) s' := by
  induction n generalizing x s with
  | zero => exact ⟨[], by have := h.1; omega, rfl⟩
  | succ n ih =>
    obtain ⟨k, t, u, h1, h2, -⟩ := h
    have hk := hle _ _ _ h1
    obtain ⟨z, rfl⟩ : ∃ z, k = a + z := ⟨k - a, by omega⟩
    have hzy := h2.keep (Q := (a + z ≤ ·)) (fun i j s h hi => le_trans hi (hle i j s h)) le_rfl
    obtain ⟨t', h1'⟩ := hR x z t h1 (hsame.mono le_rfl (by omega))
    obtain ⟨u', h2'⟩ := ih h2 (hsame.mono (by omega) le_rfl)
    exact ⟨_, b + z, t', u', h1', h2', rfl⟩

/-- **A pattern without assertions matches the same characters wherever they stand.** -/
theorem Pattern.Matches.elsewhere {p : Pattern} (hp : p.assertFree = true) {a b x y : Nat}
    {s : Slots} (h : p.Matches text (a + x) (a + y) s) (hsame : SameBetween text text' a b x y) :
    ∃ s', p.Matches text' (b + x) (b + y) s' := by
  induction p generalizing x y s with
  | empty => exact ⟨[], by have := h.1; omega, rfl⟩
  | text c rest =>
    obtain ⟨hs, hy, -⟩ := h
    refine ⟨[], (spells_iff _ _).2 fun k d hd => ?_, by omega, rfl⟩
    have hk := (List.getElem?_eq_some_iff.1 hd).1
    have := (spells_iff _ _).1 hs k d hd
    rw [List.length_cons] at hk
    rw [Nat.add_assoc, ← hsame (x + k) (by omega) (by omega), ← Nat.add_assoc]
    exact this
  | one ascii set =>
    obtain ⟨⟨c, hc, hset⟩, hy, -⟩ := h
    exact ⟨[], ⟨c, by rw [← hsame x le_rfl (by omega)]; exact hc, hset⟩, by omega, rfl⟩
  | assert => simp [assertFree] at hp
  | seq p q ihp ihq =>
    simp only [assertFree, Bool.and_eq_true] at hp
    obtain ⟨k, t, u, h1, h2, -⟩ := h
    obtain ⟨z, rfl⟩ : ∃ z, k = a + z := ⟨k - a, by have := h1.le; omega⟩
    have hxz := h1.le.1
    have hzy := h2.le.1
    obtain ⟨t', h1'⟩ := ihp hp.1 h1 (hsame.mono le_rfl (by omega))
    obtain ⟨u', h2'⟩ := ihq hp.2 h2 (hsame.mono (by omega) le_rfl)
    exact ⟨_, b + z, t', u', h1', h2', rfl⟩
  | alt p q ihp ihq =>
    simp only [assertFree, Bool.and_eq_true] at hp
    rcases h with h | h
    · obtain ⟨s', h'⟩ := ihp hp.1 h hsame
      exact ⟨s', Or.inl h'⟩
    · obtain ⟨s', h'⟩ := ihq hp.2 h hsame
      exact ⟨s', Or.inr h'⟩
  | times min max greedy p ih =>
    obtain ⟨n, hmin, hmax, hn⟩ := h
    obtain ⟨s', hs'⟩ := rounds_elsewhere (S := p.Matches text') (fun i j s h => h.le.1)
      (fun x y s h hsame => ih hp h hsame) hn hsame
    exact ⟨s', n, hmin, hmax, hs'⟩
  | capture g p ih =>
    obtain ⟨t, ht, -⟩ := h
    obtain ⟨t', ht'⟩ := ih hp ht hsame
    exact ⟨_, t', ht', rfl⟩

/-! ### A set, several times -/

theorem rounds_one {ascii : Bool} {set : CharSet} {text : Array Char} (n i j : Nat) :
    (∃ s, Rounds ((Pattern.one ascii set).Matches text) n i j s) ↔
      j = i + n ∧ ∀ k, i ≤ k → k < j → ∃ c, text[k]? = some c ∧ set.contains c = true := by
  induction n generalizing i with
  | zero =>
    constructor
    · rintro ⟨s, rfl, -⟩
      exact ⟨rfl, fun k h1 h2 => by omega⟩
    · rintro ⟨h, -⟩
      exact ⟨[], by omega, rfl⟩
  | succ n ih =>
    constructor
    · rintro ⟨-, k, t, u, ⟨hfirst, rfl, -⟩, hrest, -⟩
      obtain ⟨hj, hall⟩ := (ih (i + 1)).1 ⟨u, hrest⟩
      refine ⟨by omega, fun k h1 h2 => ?_⟩
      rcases Nat.eq_or_lt_of_le h1 with rfl | h1
      · exact hfirst
      · exact hall k h1 h2
    · rintro ⟨hj, hall⟩
      obtain ⟨u, hu⟩ := (ih (i + 1)).2 ⟨by omega, fun k h1 h2 => hall k (by omega) h2⟩
      exact ⟨_, i + 1, [], u, ⟨hall i le_rfl (by omega), rfl, rfl⟩, hu, rfl⟩

/-- A set once or more matches a text as a whole if it has a character, and all of them are in the
set. -/
theorem matches_some_of_set {ascii greedy : Bool} {set : CharSet} (x : List Char) :
    (∃ s, (Pattern.times 1 none greedy (.one ascii set)).Matches x.toArray 0 x.length s) ↔
      x ≠ [] ∧ ∀ c ∈ x, set.contains c = true := by
  have hall : (∀ k, 0 ≤ k → k < x.length → ∃ c, x.toArray[k]? = some c ∧ set.contains c = true) ↔
      ∀ c ∈ x, set.contains c = true := by
    rw [List.forall_mem_iff_getElem]
    refine forall_congr' fun k => ⟨fun h hk => ?_, fun h _ hk => ?_⟩
    · obtain ⟨c, hc, hset⟩ := h (Nat.zero_le _) hk
      rw [List.getElem?_toArray, List.getElem?_eq_getElem hk] at hc
      rwa [Option.some.inj hc]
    · exact ⟨x[k], by rw [List.getElem?_toArray, List.getElem?_eq_getElem hk], h hk⟩
  rw [← hall, ← List.length_pos_iff]
  constructor
  · rintro ⟨s, n, hmin, -, hn⟩
    obtain ⟨hlength, hchars⟩ := (rounds_one n 0 x.length).1 ⟨s, hn⟩
    exact ⟨by omega, hchars⟩
  · rintro ⟨hpos, hchars⟩
    obtain ⟨s, hs⟩ := (rounds_one x.length 0 x.length).2 ⟨(Nat.zero_add _).symm, hchars⟩
    exact ⟨s, x.length, hpos, fun m hm => (by cases hm), hs⟩

end RequestRouter.Regex
