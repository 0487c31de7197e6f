import Mathlib.Tactic
import RequestRouter.Proofs.Regex.Grouping

/-!
# The indices and names of groups

Groups are counted as they open, so every group gets an index of its own, and no two groups have the
same name.

* `groups_choice`, `groups_counted`: the functions that build patterns make no groups.
* `Parser.Numbered`: what holds of the indices and names wherever the parser is.
* `Numbered.step`, `Numbered.ends`: **one token keeps it, and so does a whole text**.
-/

namespace RequestRouter.Regex

namespace Pattern

theorem groups_altAll (ps : List Pattern) : (altAll ps).groups = ps.flatMap groups := by
  induction ps with
  | nil => rfl
  | cons p ps ih =>
    cases ps with
    | nil => simp [altAll]
    | cons q ps => simp only [altAll, groups, ih, List.flatMap_cons]

theorem groups_branches (p : Pattern) : p.branches.flatMap groups = p.groups := by
  induction p with
  | alt p q hp hq => simp [branches, groups, hp, hq]
  | _ => simp [branches, groups]

theorem flatMap_groups_branches (ps : List Pattern) :
    (ps.flatMap branches).flatMap groups = ps.flatMap groups := by
  rw [List.flatMap_assoc]
  simp only [groups_branches]

/-- **Repetition** makes no groups. It may lose those of its body. -/
theorem groups_counted {min : Nat} {max : Option Nat} {greedy : Bool} {p : Pattern} {g : Nat}
    (h : g ∈ (counted min max greedy p).groups) : g ∈ p.groups := by
  have hform : ∀ (min : Nat) (max : Option Nat), g ∈ (if min = 0 ∧ max = some 0 then empty
      else if min = 1 ∧ max = some 1 then p else times min max greedy p).groups → g ∈ p.groups := by
    intro min max h
    split at h
    · cases h
    split at h
    · exact h
    · exact h
  exact hform _ _ h

theorem groups_plainChoice {ps : List Pattern} {g : Nat} (h : g ∈ (plainChoice ps).groups) :
    g ∈ ps.flatMap groups := by
  rw [← flatMap_groups_branches]
  unfold plainChoice at h
  split at h
  · rename_i p hp
    simpa [hp] using h
  · rename_i hmany
    cases hm : merged? (ps.flatMap branches) with
    | some p => rw [hm, Option.getD_some, groups_merged? hm] at h; cases h
    | none => rwa [hm, Option.getD_none, groups_altAll] at h

theorem mem_common {ps qs : List Pattern} {p : Pattern} (h : p ∈ common ps qs) : p ∈ ps := by
  induction ps generalizing qs with
  | nil => exact h
  | cons q ps ih =>
    cases qs with
    | nil => cases h
    | cons q' qs =>
      rw [common] at h
      split at h
      · rcases List.mem_cons.1 h with rfl | h
        · exact List.mem_cons_self
        · exact List.mem_cons_of_mem _ (ih h)
      · cases h

theorem mem_shared {rows : List (List Pattern)} {p : Pattern} (h : p ∈ shared rows) :
    ∃ row ∈ rows, p ∈ row := by
  cases rows with
  | nil => cases h
  | cons row rows =>
    refine ⟨row, List.mem_cons_self, ?_⟩
    rw [shared] at h
    induction rows generalizing row with
    | nil => exact h
    | cons row' rows ih => exact mem_common (ih _ h)

theorem groups_factored? {ps : List Pattern} {p : Pattern} {g : Nat} (h : factored? ps = some p)
    (hg : g ∈ p.groups) : g ∈ ps.flatMap groups := by
  -- every part of every row belongs to one of the alternatives
  have hrow : ∀ row ∈ ps.map parts, ∀ q ∈ row, g ∈ q.groups → g ∈ ps.flatMap groups := by
    intro row hrow q hq hgq
    obtain ⟨r, hr, rfl⟩ := List.mem_map.1 hrow
    exact List.mem_flatMap.2 ⟨r, hr, by
      rw [← groups_parts]
      exact List.mem_flatMap.2 ⟨q, hq, hgq⟩⟩
  unfold factored? at h
  simp only at h
  split at h
  · cases h
    rw [groups_concat, List.flatMap_append, List.mem_append] at hg
    rcases hg with hg | hg
    · obtain ⟨q, hq, hgq⟩ := List.mem_flatMap.1 hg
      obtain ⟨row, hmem, hq⟩ := mem_shared hq
      exact hrow row hmem q hq hgq
    · rw [List.flatMap_singleton] at hg
      obtain ⟨q, hq, hgq⟩ := List.mem_flatMap.1 (groups_plainChoice hg)
      obtain ⟨row, hmem, rfl⟩ := List.mem_map.1 hq
      rw [groups_concat] at hgq
      obtain ⟨q, hq, hgq⟩ := List.mem_flatMap.1 hgq
      exact hrow row hmem q (List.mem_of_mem_drop hq) hgq
  · cases h

/-- **An alternative** makes no groups. -/
theorem groups_choice {ps : List Pattern} {g : Nat} (h : g ∈ (choice ps).groups) :
    g ∈ ps.flatMap groups := by
  rw [← flatMap_groups_branches]
  unfold choice at h
  split at h
  · rename_i p hp
    simpa [hp] using h
  · cases hm : merged? (ps.flatMap branches) with
    | some p =>
      rw [hm] at h
      change g ∈ p.groups at h
      rw [groups_merged? hm] at h
      cases h
    | none =>
      rw [hm] at h
      change g ∈ ((factored? (ps.flatMap branches)).getD (altAll (ps.flatMap branches))).groups at h
      cases hf : factored? (ps.flatMap branches) with
      | some p =>
        rw [hf] at h
        exact groups_factored? hf h
      | none => rwa [hf, Option.getD_none, groups_altAll] at h

end Pattern

/-- A pattern has groups of indices from one on and below a bound. -/
def Pattern.GroupsBelow (n : Nat) (p : Pattern) : Prop :=
  ∀ g ∈ p.groups, 1 ≤ g ∧ g < n

theorem Pattern.GroupsBelow.mono {m n : Nat} {p : Pattern} (h : p.GroupsBelow m) (hmn : m ≤ n) :
    p.GroupsBelow n :=
  fun g hg => ⟨(h g hg).1, lt_of_lt_of_le (h g hg).2 hmn⟩

theorem Pattern.groupsBelow_of_groups_nil {n : Nat} {p : Pattern} (h : p.groups = []) :
    p.GroupsBelow n := by
  intro g hg
  rw [h] at hg
  cases hg

theorem Node.groupsBelow_sequence {n : Nat} {nodes : List Node}
    (h : ∀ node ∈ nodes, node.pattern.GroupsBelow n) : (sequence nodes).pattern.GroupsBelow n := by
  match nodes, h with
  | [], _ => exact Pattern.groupsBelow_of_groups_nil rfl
  | [node], h => exact h node List.mem_cons_self
  | a :: b :: nodes, h =>
    intro g hg
    have hg : g ∈ (Pattern.concat ((a :: b :: nodes).map (·.pattern))).groups := hg
    rw [groups_concat, List.flatMap_map] at hg
    obtain ⟨node, hnode, hg⟩ := List.mem_flatMap.1 hg
    exact h node hnode g hg

theorem Node.groupsBelow_choice {n : Nat} {nodes : List Node}
    (h : ∀ node ∈ nodes, node.pattern.GroupsBelow n) : (choice nodes).pattern.GroupsBelow n := by
  match nodes, h with
  | [], _ => exact Pattern.groupsBelow_of_groups_nil rfl
  | [node], h => exact h node List.mem_cons_self
  | a :: b :: nodes, h =>
    intro g hg
    have hg : g ∈ (Pattern.choice ((a :: b :: nodes).map (·.pattern))).groups := hg
    have hg := Pattern.groups_choice hg
    rw [List.flatMap_map] at hg
    obtain ⟨node, hnode, hg⟩ := List.mem_flatMap.1 hg
    exact h node hnode g hg

namespace Parser

/-- The parts in a list of finished alternatives and in the items of the one after them. -/
def partsOf (branches : List Node) (items : List Item) : List Node :=
  branches ++ items.map Item.node

/-- The alternative that is being read. -/
theorem groupsBelow_alternative {n : Nat} {branches : List Node} {items : List Item}
    (h : ∀ node ∈ partsOf branches items, node.pattern.GroupsBelow n) :
    (Node.sequence (items.reverse.map Item.node)).pattern.GroupsBelow n := by
  refine Node.groupsBelow_sequence fun node hnode => h node ?_
  obtain ⟨item, hitem, rfl⟩ := List.mem_map.1 hnode
  exact List.mem_append_right _ (List.mem_map_of_mem (List.mem_reverse.1 hitem))

theorem groupsBelow_finish {n : Nat} {branches : List Node} {items : List Item}
    (h : ∀ node ∈ partsOf branches items, node.pattern.GroupsBelow n) :
    (finish branches items).pattern.GroupsBelow n := by
  refine Node.groupsBelow_choice fun node hnode => ?_
  rcases List.mem_cons.1 (List.mem_reverse.1 hnode) with rfl | hnode
  · exact groupsBelow_alternative h
  · exact h node (List.mem_append_left _ hnode)

/-- **Every group has an index of its own**, and a name of its own if it has one. -/
structure Numbered (parser : Parser) : Prop where
  positive : 1 ≤ parser.groups
  parts : ∀ node ∈ partsOf parser.branches parser.items, node.pattern.GroupsBelow parser.groups
  around : ∀ group ∈ parser.openGroups, (∀ i, group.index = some i → 1 ≤ i ∧ i < parser.groups) ∧
    ∀ node ∈ partsOf group.branches group.items, node.pattern.GroupsBelow parser.groups
  named : ∀ e ∈ parser.names, e.2 < parser.groups
  names_nodup : (parser.names.map (·.1)).Nodup
  indices_nodup : (parser.names.map (·.2)).Nodup

variable {parser s : Parser}

theorem mem_partsOf_cons {branches : List Node} {items : List Item} {item : Item} {node : Node}
    (h : node ∈ partsOf branches (item :: items)) :
    node = item.node ∨ node ∈ partsOf branches items := by
  simp only [partsOf, List.map_cons, List.mem_append, List.mem_cons] at h ⊢
  tauto

theorem numbered_start : start.Numbered where
  positive := le_rfl
  parts := fun node hnode => by cases hnode
  around := fun group hgroup => by cases hgroup
  named := fun e he => by cases he
  names_nodup := List.nodup_nil
  indices_nodup := List.nodup_nil

/-- One more item keeps the indices in order. -/
theorem Numbered.item (h : parser.Numbered) {item : Item} {flags : Flags}
    (hitem : item.node.pattern.GroupsBelow parser.groups) :
    { parser with flags := flags, items := item :: parser.items }.Numbered :=
  { h with
    parts := fun node hnode => by
      rcases mem_partsOf_cons hnode with rfl | hnode
      · exact hitem
      · exact h.parts node hnode }

/-- The opening of a group of an index that is not yet taken keeps them in order. -/
theorem Numbered.openGroup (h : parser.Numbered) {index : Option Nat} {flags : Flags} {n : Nat}
    {names : List (String × Nat)} (hn : parser.groups ≤ n) (hindex : ∀ i, index = some i →
      1 ≤ i ∧ i < n) (hnamed : ∀ e ∈ names, e.2 < n) (hnames : (names.map (·.1)).Nodup)
    (hindices : (names.map (·.2)).Nodup) :
    { parser.openGroup index flags with groups := n, names := names }.Numbered where
  positive := le_trans h.positive hn
  parts := fun node hnode => by cases hnode
  -- the parts read so far are put aside with the new group
  around := fun group hgroup => by
    rcases List.mem_cons.1 hgroup with rfl | hgroup
    · exact ⟨hindex, fun node hnode => (h.parts node hnode).mono hn⟩
    · obtain ⟨h1, h2⟩ := h.around group hgroup
      exact ⟨fun i hi => ⟨(h1 i hi).1, lt_of_lt_of_le (h1 i hi).2 hn⟩,
        fun node hnode => (h2 node hnode).mono hn⟩
  named := hnamed
  names_nodup := hnames
  indices_nodup := hindices

theorem Numbered.push_result (h : parser.Numbered) {r : Except PatternError Pattern}
    {depth : Nat} (hr : ∀ p, r = .ok p → p.groups = [])
    (hs : (do return parser.push ⟨← r, depth⟩ : Except PatternError Parser) = .ok s) :
    s.Numbered := by
  cases r with
  | error e => cases hs
  | ok p =>
    cases hs
    exact h.item (Pattern.groupsBelow_of_groups_nil (hr p rfl))

/-- A new capture group takes the next index, and its name, if it has one, is new. -/
theorem Numbered.openCapture (h : parser.Numbered) {name : Option String}
    (hs : parser.step (.openCapture name) = .ok s) : s.Numbered := by
  have hindex : ∀ i, some parser.groups = some i → 1 ≤ i ∧ i < parser.groups + 1 := by
    rintro i ⟨⟩
    exact ⟨h.positive, Nat.lt_succ_self _⟩
  have hbelow : ∀ e ∈ parser.names, e.2 < parser.groups + 1 := fun e he =>
    Nat.lt_succ_of_lt (h.named e he)
  cases name with
  | none =>
    cases hs
    exact h.openGroup (Nat.le_succ _) hindex hbelow h.names_nodup h.indices_nodup
  | some name =>
    simp only [Parser.step] at hs
    split at hs
    · cases hs
    rename_i hnew
    cases hs
    have hfresh : name ∉ parser.names.map (·.1) := by
      intro hmem
      obtain ⟨e, he, rfl⟩ := List.mem_map.1 hmem
      refine hnew ?_
      rw [← Option.ne_none_iff_isSome, ne_eq, List.lookup_eq_none_iff]
      exact fun hall => by simpa using hall e he
    refine h.openGroup (Nat.le_succ _) hindex ?_ ?_ ?_
    · rintro e he
      rcases List.mem_cons.1 he with rfl | he
      · exact Nat.lt_succ_self _
      · exact hbelow e he
    · exact List.nodup_cons.2 ⟨hfresh, h.names_nodup⟩
    · -- all indices so far are below the number of groups
      refine List.nodup_cons.2 ⟨fun hmem => ?_, h.indices_nodup⟩
      obtain ⟨e, he, heq⟩ := List.mem_map.1 hmem
      have := h.named e he
      simp only at heq
      omega

/-- A group that is closed becomes one part of the group around it. -/
theorem Numbered.close (h : parser.Numbered) (hs : parser.step .close = .ok s) : s.Numbered := by
  simp only [Parser.step] at hs
  split at hs
  · cases hs
  rename_i group rest hopen
  cases hs
  obtain ⟨hindex, hparts⟩ := h.around group (by rw [hopen]; exact List.mem_cons_self)
  have hbody := groupsBelow_finish h.parts
  exact { h with
    parts := fun node hnode => by
      rcases mem_partsOf_cons hnode with rfl | hnode
      · intro g hg
        simp only [Item.node, grouped] at hg
        split at hg
        · rename_i i hi
          rcases List.mem_cons.1 hg with rfl | hg
          · exact hindex _ hi
          · exact hbody g hg
        · exact hbody g hg
      · exact hparts node hnode
    around := fun group' hgroup' => h.around group' (by
      rw [hopen]
      exact List.mem_cons_of_mem _ hgroup') }

/-- A repetition takes the place of its body, and has no other groups. -/
theorem Numbered.repetition (h : parser.Numbered) {min : Nat} {max : Option Nat} {lazy : Bool}
    (hs : parser.step (.repetition min max lazy) = .ok s) : s.Numbered := by
  simp only [Parser.step] at hs
  split at hs
  · rename_i node items hitems
    cases hs
    exact { h with
      parts := fun node' hnode' => by
        rcases mem_partsOf_cons hnode' with rfl | hnode'
        · intro g hg
          exact h.parts node (by simp [partsOf, hitems, Item.node]) g (Pattern.groups_counted hg)
        · exact h.parts node' (by
            rw [hitems]
            simp only [partsOf, List.map_cons, List.mem_append, List.mem_cons] at hnode' ⊢
            tauto) }
  · cases hs

/-- **One token keeps the indices in order.** -/
theorem Numbered.step (h : parser.Numbered) {token : Token} (hs : parser.step token = .ok s) :
    s.Numbered := by
  cases token with
  | literal l => exact h.push_result (fun _ => groups_of_literal) hs
  | dot => exact h.push_result (fun _ => groups_of_dot) hs
  | anchor mark => exact h.push_result (r := .ok _) (fun _ hp => by cases hp; rfl) hs
  | shorthand negated kind => exact h.push_result (fun _ => groups_of_classPattern) hs
  | property negated query => exact h.push_result (fun _ => groups_of_classPattern) hs
  | bracket e => exact h.push_result (fun _ => groups_of_classPattern) hs
  | openCapture name => exact h.openCapture hs
  | openPlain switches =>
    cases hs
    exact h.openGroup le_rfl (fun i hi => by cases hi) h.named h.names_nodup h.indices_nodup
  | switch switches =>
    cases hs
    exact h.item (Pattern.groupsBelow_of_groups_nil rfl)
  | close => exact h.close hs
  | bar =>
    cases hs
    exact { h with
      parts := fun node hnode => by
        rw [partsOf, List.map_nil, List.append_nil] at hnode
        rcases List.mem_cons.1 hnode with rfl | hnode
        · exact groupsBelow_alternative h.parts
        · exact h.parts node (List.mem_append_left _ hnode) }
  | repetition min max lazy => exact h.repetition hs

/-- **A whole text keeps the indices in order.** -/
theorem Numbered.ends {cs : List Char} {r : Parser} (h : parser.Numbered)
    (hends : parser.Ends cs r) : r.Numbered := by
  induction hends with
  | done => exact h
  | token _ _ hstep _ ih => exact ih (h.step hstep)

end Parser

end RequestRouter.Regex
