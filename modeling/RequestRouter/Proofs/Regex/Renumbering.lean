import Mathlib.Tactic
import RequestRouter.Proofs.Regex.Matching
import RequestRouter.Regex.Parser

/-!
# Reading inside a group

A parser that reads a pattern on its own and one that reads the same pattern inside a group of a
larger one go through the same states, but for the indices of the groups and for what is around.

* `concat_renumber`, `choice_renumber`, `counted_renumber`: the functions that build patterns do not
  look at the indices of groups.
* `Parser.inside`: the state of the parser that reads inside a group.
* `step_inside`: **one token does the same inside a group as on its own.**
-/

namespace RequestRouter.Regex

variable {k : Nat}

namespace Pattern

/-! ### Building and renumbering -/

theorem renumber_injective (k : Nat) : Function.Injective (renumber k) := by
  intro p q h
  induction p generalizing q with
  | seq p p' hp hp' =>
    cases q <;> simp only [renumber, reduceCtorEq, seq.injEq] at h
    rw [hp h.1, hp' h.2]
  | alt p p' hp hp' =>
    cases q <;> simp only [renumber, reduceCtorEq, alt.injEq] at h
    rw [hp h.1, hp' h.2]
  | times min max greedy p hp =>
    cases q <;> simp only [renumber, reduceCtorEq, times.injEq] at h
    rw [h.1, h.2.1, h.2.2.1, hp h.2.2.2]
  | capture g p hp =>
    cases q <;> simp only [renumber, reduceCtorEq, capture.injEq] at h
    rw [Nat.add_right_cancel h.1, hp h.2]
  | _ => cases q <;> simp_all [renumber]

@[simp] theorem zeroWidth_renumber (p : Pattern) : (p.renumber k).zeroWidth = p.zeroWidth := by
  induction p <;> simp_all [renumber, zeroWidth]

/-- **Repetition** does not look at the indices of groups. -/
theorem counted_renumber (min : Nat) (max : Option Nat) (greedy : Bool) (p : Pattern) :
    counted min max greedy (p.renumber k) = (counted min max greedy p).renumber k := by
  unfold counted
  rw [zeroWidth_renumber]
  simp only [apply_ite (renumber k)]
  rfl

theorem seqAll_renumber (ps : List Pattern) :
    seqAll (ps.map (renumber k)) = (seqAll ps).renumber k := by
  induction ps with
  | nil => rfl
  | cons p ps ih =>
    cases ps with
    | nil => rfl
    | cons q ps => simp only [List.map_cons, seqAll, renumber] at ih ⊢; rw [ih]

theorem altAll_renumber (ps : List Pattern) :
    altAll (ps.map (renumber k)) = (altAll ps).renumber k := by
  induction ps with
  | nil => rfl
  | cons p ps ih =>
    cases ps with
    | nil => rfl
    | cons q ps => simp only [List.map_cons, altAll, renumber] at ih ⊢; rw [ih]

theorem parts_renumber (p : Pattern) : (p.renumber k).parts = p.parts.map (renumber k) := by
  induction p <;> simp_all [renumber, parts]

theorem branches_renumber (p : Pattern) :
    (p.renumber k).branches = p.branches.map (renumber k) := by
  induction p <;> simp_all [renumber, branches]

theorem prepend_renumber (p : Pattern) (ps : List Pattern) :
    prepend (p.renumber k) (ps.map (renumber k)) = (prepend p ps).map (renumber k) := by
  cases p with
  | text c cs =>
    cases ps with
    | nil => rfl
    | cons q ps => cases q <;> rfl
  | _ => rfl

/-- **A sequence** is the same for the indices of groups. -/
theorem concat_renumber (ps : List Pattern) :
    concat (ps.map (renumber k)) = (concat ps).renumber k := by
  have hjoin : ∀ qs : List Pattern,
      (qs.map (renumber k)).foldr prepend [] = (qs.foldr prepend []).map (renumber k) := by
    intro qs
    induction qs with
    | nil => rfl
    | cons q qs ih => rw [List.map_cons, List.foldr_cons, ih, prepend_renumber, List.foldr_cons]
  have hparts : (ps.map (renumber k)).flatMap parts = (ps.flatMap parts).map (renumber k) := by
    rw [List.flatMap_map, List.map_flatMap]
    simp only [parts_renumber]
  rw [concat, hparts, hjoin, seqAll_renumber, concat]

theorem chars?_renumber (ps : List Pattern) : chars? (ps.map (renumber k)) = chars? ps := by
  induction ps with
  | nil => rfl
  | cons p ps ih =>
    cases p with
    | text c cs => cases cs <;> simp [renumber, chars?, ih]
    | _ => rfl

theorem sets?_renumber (ps : List Pattern) : sets? (ps.map (renumber k)) = sets? ps := by
  induction ps with
  | nil => rfl
  | cons p ps ih => cases p <;> simp [renumber, sets?, ih]

theorem merged?_renumber (ps : List Pattern) : merged? (ps.map (renumber k)) = merged? ps := by
  rw [merged?, chars?_renumber, sets?_renumber, merged?]

theorem groups_ofSet (ascii : Bool) (set : CharSet) : (ofSet ascii set).groups = [] := by
  unfold ofSet
  split
  · rfl
  · split <;> rfl

theorem groups_merged? {ps : List Pattern} {p : Pattern} (h : merged? ps = some p) :
    p.groups = [] := by
  obtain ⟨set, -, rfl⟩ := Option.map_eq_some_iff.1 h
  exact groups_ofSet false set

/-- A pattern without groups has no index to move. -/
theorem renumber_eq_self {p : Pattern} (h : p.groups = []) : p.renumber k = p := by
  induction p with
  | seq p q hp hq | alt p q hp hq =>
    obtain ⟨h1, h2⟩ := List.append_eq_nil_iff.1 h
    rw [renumber, hp h1, hq h2]
  | times min max greedy p hp => rw [renumber, hp h]
  | capture g p => cases h
  | _ => rfl

theorem flatMap_branches_renumber (ps : List Pattern) :
    (ps.map (renumber k)).flatMap branches = (ps.flatMap branches).map (renumber k) := by
  rw [List.flatMap_map, List.map_flatMap]
  simp only [branches_renumber]

theorem plainChoice_renumber (ps : List Pattern) :
    plainChoice (ps.map (renumber k)) = (plainChoice ps).renumber k := by
  have hmany : ∀ qs : List Pattern, (merged? (qs.map (renumber k))).getD
      (altAll (qs.map (renumber k))) = ((merged? qs).getD (altAll qs)).renumber k := by
    intro qs
    rw [merged?_renumber, altAll_renumber]
    cases hm : merged? qs with
    | none => rfl
    | some p => exact (renumber_eq_self (groups_merged? hm)).symm
  rw [plainChoice, plainChoice, flatMap_branches_renumber]
  match ps.flatMap branches with
  | [] => exact hmany []
  | [p] => rfl
  | p :: q :: qs => exact hmany (p :: q :: qs)

theorem common_renumber (ps qs : List Pattern) :
    common (ps.map (renumber k)) (qs.map (renumber k)) = (common ps qs).map (renumber k) := by
  induction ps generalizing qs with
  | nil => rfl
  | cons p ps ih =>
    cases qs with
    | nil => rfl
    | cons q qs =>
      simp only [List.map_cons, common, (renumber_injective k).eq_iff]
      split
      · rw [ih, List.map_cons]
      · rfl

theorem shared_renumber (rows : List (List Pattern)) :
    shared (rows.map (List.map (renumber k))) = (shared rows).map (renumber k) := by
  cases rows with
  | nil => rfl
  | cons row rows =>
    simp only [List.map_cons, shared]
    induction rows generalizing row with
    | nil => rfl
    | cons row' rows ih => rw [List.map_cons, List.foldl_cons, common_renumber, ih, List.foldl_cons]

theorem factored?_renumber (ps : List Pattern) :
    factored? (ps.map (renumber k)) = (factored? ps).map (renumber k) := by
  have hrows : (ps.map (renumber k)).map parts = (ps.map parts).map (List.map (renumber k)) := by
    rw [List.map_map, List.map_map]
    exact List.map_congr_left fun p _ => parts_renumber p
  have hlong : ((ps.map parts).map (List.map (renumber k))).all (2 ≤ ·.length) =
      (ps.map parts).all (2 ≤ ·.length) := by
    simp only [List.all_map, Function.comp_def, List.length_map]
  simp only [factored?, hrows, shared_renumber, hlong, List.length_map, List.isEmpty_map]
  split
  · -- as many parts are shared, so the same ones are left in every row
    have hrest : ((ps.map parts).map (List.map (renumber k))).map
        (fun row => concat (row.drop (shared (ps.map parts)).length)) =
        ((ps.map parts).map fun row => concat (row.drop (shared (ps.map parts)).length)).map
          (renumber k) := by
      generalize ps.map parts = rows
      rw [List.map_map, List.map_map]
      refine List.map_congr_left fun row _ => ?_
      rw [Function.comp_apply, ← List.map_drop, concat_renumber, Function.comp_apply]
    rw [hrest, plainChoice_renumber, Option.map_some, ← concat_renumber, List.map_append,
      List.map_singleton]
  · rfl

/-- **An alternative** is the same for the indices of groups: what its branches have in common does
not depend on them. -/
theorem choice_renumber (ps : List Pattern) :
    choice (ps.map (renumber k)) = (choice ps).renumber k := by
  have hmany : ∀ qs : List Pattern,
      (merged? (qs.map (renumber k)) <|> factored? (qs.map (renumber k))).getD
        (altAll (qs.map (renumber k))) =
      ((merged? qs <|> factored? qs).getD (altAll qs)).renumber k := by
    intro qs
    rw [merged?_renumber, factored?_renumber, altAll_renumber]
    cases hm : merged? qs with
    | some p => exact (renumber_eq_self (groups_merged? hm)).symm
    | none => cases factored? qs <;> rfl
  rw [choice, choice, flatMap_branches_renumber]
  match ps.flatMap branches with
  | [] => exact hmany []
  | [p] => rfl
  | p :: q :: qs => exact hmany (p :: q :: qs)

end Pattern

/-! ### The state of the parser -/

/-- A part with the indices of its groups moved up. -/
def Node.renumber (k : Nat) (node : Node) : Node :=
  { node with pattern := node.pattern.renumber k }

/-- An item with the indices of its groups moved up. -/
def Item.renumber (k : Nat) : Item → Item
  | part node => part (node.renumber k)
  | flags => flags

/-- An open group with its index and those of the groups before it moved up. -/
def OpenGroup.renumber (k : Nat) (group : OpenGroup) : OpenGroup :=
  { group with
    index := group.index.map (· + k)
    branches := group.branches.map (Node.renumber k)
    items := group.items.map (Item.renumber k) }

/-- The state of a parser that is as far in a pattern as another one, but reads it inside a group:
`outer` are the groups that are open around it, `names` the names before it, and `k` groups more
have been opened. -/
def Parser.inside (k : Nat) (outer : List OpenGroup) (names : List (String × Nat))
    (parser : Parser) : Parser :=
  { flags := parser.flags
    branches := parser.branches.map (Node.renumber k)
    items := parser.items.map (Item.renumber k)
    openGroups := parser.openGroups.map (OpenGroup.renumber k) ++ outer
    groups := parser.groups + k
    names := parser.names.map (fun e => (e.1, e.2 + k)) ++ names }

theorem Node.many_renumber {f : List Pattern → Pattern}
    (hf : ∀ ps : List Pattern, f (ps.map (Pattern.renumber k)) = (f ps).renumber k)
    (nodes : List Node) :
    (⟨f ((nodes.map (renumber k)).map (·.pattern)),
      ((nodes.map (renumber k)).map (·.depth)).foldl Nat.max 0 + 1⟩ : Node) =
    renumber k ⟨f (nodes.map (·.pattern)), (nodes.map (·.depth)).foldl Nat.max 0 + 1⟩ := by
  have hpatterns : (nodes.map (renumber k)).map (·.pattern) =
      (nodes.map (·.pattern)).map (Pattern.renumber k) := by
    rw [List.map_map, List.map_map]; rfl
  have hdepths : (nodes.map (renumber k)).map (·.depth) = nodes.map (·.depth) := by
    rw [List.map_map]; rfl
  rw [hpatterns, hdepths, hf]
  rfl

theorem Node.sequence_renumber (nodes : List Node) :
    sequence (nodes.map (renumber k)) = (sequence nodes).renumber k := by
  match nodes with
  | [] => rfl
  | [node] => rfl
  | a :: b :: nodes => exact many_renumber Pattern.concat_renumber (a :: b :: nodes)

theorem Node.choice_renumber (nodes : List Node) :
    choice (nodes.map (renumber k)) = (choice nodes).renumber k := by
  match nodes with
  | [] => rfl
  | [node] => rfl
  | a :: b :: nodes => exact many_renumber Pattern.choice_renumber (a :: b :: nodes)

theorem Item.node_renumber (item : Item) : (item.renumber k).node = item.node.renumber k := by
  cases item <;> rfl

theorem Parser.sequence_items_renumber (items : List Item) :
    Node.sequence ((items.map (Item.renumber k)).reverse.map Item.node) =
      (Node.sequence (items.reverse.map Item.node)).renumber k := by
  rw [← Node.sequence_renumber, ← List.map_reverse, List.map_map, List.map_map]
  congr 1
  exact List.map_congr_left fun item _ => Item.node_renumber item

/-- The alternatives of a group, read inside another one. -/
theorem Parser.finish_renumber (branches : List Node) (items : List Item) :
    finish (branches.map (Node.renumber k)) (items.map (Item.renumber k)) =
      (finish branches items).renumber k := by
  rw [finish, finish, sequence_items_renumber, ← List.map_cons, ← List.map_reverse,
    Node.choice_renumber]

namespace Parser

/-! ### Parts without groups -/

theorem groups_of_literal {flags : Flags} {l : Literal} {p : Pattern}
    (h : literal flags l = .ok p) : p.groups = [] := by
  unfold literal at h
  split at h
  · cases h
  split at h
  · cases h; rfl
  split at h
  · rw [← Except.ok.inj h, Pattern.groups_ofSet]
  · rw [← Except.ok.inj h, Pattern.groups_ofSet]

theorem groups_of_dot {flags : Flags} {p : Pattern} (h : dot flags = .ok p) : p.groups = [] := by
  unfold dot at h
  split at h
  · cases h
  split at h
  · rw [← Except.ok.inj h, Pattern.groups_ofSet]
  split at h
  · rw [← Except.ok.inj h, Pattern.groups_ofSet]
  · rw [← Except.ok.inj h, Pattern.groups_ofSet]

theorem groups_of_classPattern {flags : Flags} {e : ClassExpr} {p : Pattern}
    (h : classPattern flags e = .ok p) : p.groups = [] := by
  unfold classPattern at h
  cases he : e.toSet flags with
  | error err => rw [he] at h; cases h
  | ok set =>
    rw [he] at h
    rw [← Except.ok.inj h, Pattern.groups_ofSet]

/-! ### One token -/

variable {outer : List OpenGroup} {names : List (String × Nat)} {parser s t : Parser}

/-- A part without groups is added in the same way inside a group. -/
theorem push_inside {node : Node} (h : node.pattern.groups = []) :
    (parser.inside k outer names).push node = (parser.push node).inside k outer names := by
  have hnode : node.renumber k = node := by rw [Node.renumber, Pattern.renumber_eq_self h]
  simp only [push, inside, List.map_cons, Item.renumber, hnode]

/-- The same where the part itself may be refused. -/
theorem push_result_inside {r : Except PatternError Pattern} {depth : Nat}
    (hr : ∀ p, r = .ok p → p.groups = [])
    (hs : (do return parser.push ⟨← r, depth⟩ : Except PatternError Parser) = .ok s)
    (ht : (do return (parser.inside k outer names).push ⟨← r, depth⟩ : Except PatternError Parser) =
      .ok t) : t = s.inside k outer names := by
  cases r with
  | error e => cases hs
  | ok p =>
    cases hs
    cases ht
    exact push_inside (hr p rfl)

theorem openCapture_inside {name : Option String} (hs : parser.step (.openCapture name) = .ok s)
    (ht : (parser.inside k outer names).step (.openCapture name) = .ok t) :
    t = s.inside k outer names := by
  cases name with
  | none =>
    cases hs
    cases ht
    simp [inside, openGroup, OpenGroup.renumber, Nat.add_right_comm]
  | some name =>
    -- a name that is taken is refused, on its own or inside
    simp only [step] at hs ht
    split at hs
    · cases hs
    split at ht
    · cases ht
    cases hs
    cases ht
    simp [inside, openGroup, OpenGroup.renumber, Nat.add_right_comm]

/-- A group that was opened by the parser on its own is closed in the same way inside. -/
theorem close_inside (hs : parser.step .close = .ok s)
    (ht : (parser.inside k outer names).step .close = .ok t) : t = s.inside k outer names := by
  simp only [step] at hs ht
  cases hg : parser.openGroups with
  | nil => rw [hg] at hs; cases hs
  | cons group rest =>
    rw [hg] at hs
    simp only [inside, hg, List.map_cons, List.cons_append] at ht
    cases hs
    cases ht
    -- the group becomes one part, which captures or not
    simp only [finish_renumber]
    cases hi : group.index <;>
      simp [inside, OpenGroup.renumber, Item.renumber, Node.renumber, grouped, hi,
        Pattern.renumber]

theorem repetition_inside {min : Nat} {max : Option Nat} {lazy : Bool}
    (hs : parser.step (.repetition min max lazy) = .ok s)
    (ht : (parser.inside k outer names).step (.repetition min max lazy) = .ok t) :
    t = s.inside k outer names := by
  simp only [step] at hs ht
  split at hs
  · rename_i node items hitems
    cases hs
    simp only [inside, hitems, List.map_cons, Item.renumber] at ht
    cases ht
    simp only [inside, List.map_cons, Item.renumber, Node.renumber, Pattern.counted_renumber]
  · cases hs

/-- **One token does the same inside a group as on its own.** Where both parsers take a token, they
go on to matching states. The one inside a group might not, if the name of a group is taken. -/
theorem step_inside {token : Token} (hs : parser.step token = .ok s)
    (ht : (parser.inside k outer names).step token = .ok t) : t = s.inside k outer names := by
  cases token with
  | literal l => exact push_result_inside (fun _ => groups_of_literal) hs ht
  | dot => exact push_result_inside (fun _ => groups_of_dot) hs ht
  | anchor mark => exact push_result_inside (r := .ok _) (fun _ h => by cases h; rfl) hs ht
  | shorthand negated kind =>
    exact push_result_inside (fun _ => groups_of_classPattern) hs ht
  | property negated query =>
    exact push_result_inside (fun _ => groups_of_classPattern) hs ht
  | bracket e => exact push_result_inside (fun _ => groups_of_classPattern) hs ht
  | openCapture name => exact openCapture_inside hs ht
  | openPlain switches =>
    cases hs
    cases ht
    simp [inside, openGroup, OpenGroup.renumber]
  | switch switches =>
    cases hs
    cases ht
    simp [inside, Item.renumber]
  | close => exact close_inside hs ht
  | bar =>
    cases hs
    cases ht
    simp only [inside, List.map_cons, sequence_items_renumber, List.map_nil]
  | repetition min max lazy => exact repetition_inside hs ht

end Parser

end RequestRouter.Regex
