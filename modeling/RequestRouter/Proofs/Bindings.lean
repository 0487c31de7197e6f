import Mathlib.Tactic
import RequestRouter.Bindings

/-!
# Bindings and their names

* `Bindings.Distinct`: no name twice, as in all bindings that are made by insertions.
* `entries_ofPairs`: pairs of different names are the entries of their bindings.
* `get?_extend`: **the bindings that are taken over win.**
* `restrict`: the bindings of some names only.
* `rename`: the bindings with other names.
-/

namespace RequestRouter.Bindings

/-- No name has two entries. -/
def Distinct (bindings : Bindings) : Prop :=
  (bindings.entries.map (·.1)).Nodup

variable {bindings other : Bindings} {name value : String} {pairs : List (String × String)}

theorem distinct_empty : empty.Distinct := List.nodup_nil

theorem names_setIn (entries : List (String × String)) :
    (setIn name value entries).map (·.1) =
      if name ∈ entries.map (·.1) then entries.map (·.1) else entries.map (·.1) ++ [name] := by
  induction entries with
  | nil => rfl
  | cons e rest ih =>
    obtain ⟨n, v⟩ := e
    by_cases hn : n = name
    · subst hn
      simp [setIn]
    · rw [setIn, if_neg hn, List.map_cons, List.map_cons, ih]
      by_cases hmem : name ∈ rest.map (·.1)
      · rw [if_pos hmem, if_pos (List.mem_cons_of_mem _ hmem)]
      · rw [if_neg hmem, if_neg (by simpa [Ne.symm hn] using hmem), List.cons_append]

theorem Distinct.insert (h : bindings.Distinct) : (bindings.insert name value).Distinct := by
  unfold Distinct Bindings.insert
  rw [names_setIn]
  split
  · exact h
  · rename_i hnew
    exact List.nodup_append.2 ⟨h, List.nodup_singleton _, fun a ha b hb hab => by
      rw [List.mem_singleton] at hb
      exact hnew (hb ▸ hab ▸ ha)⟩

theorem Distinct.insertAll (h : bindings.Distinct) : (bindings.insertAll pairs).Distinct := by
  induction pairs generalizing bindings with
  | nil => exact h
  | cons p pairs ih => exact ih h.insert

theorem distinct_ofPairs (pairs : List (String × String)) : (ofPairs pairs).Distinct :=
  distinct_empty.insertAll

theorem setIn_of_not_mem {entries : List (String × String)} (h : name ∉ entries.map (·.1)) :
    setIn name value entries = entries ++ [(name, value)] := by
  induction entries with
  | nil => rfl
  | cons e rest ih =>
    obtain ⟨n, v⟩ := e
    simp only [List.map_cons, List.mem_cons, not_or] at h
    rw [setIn, if_neg (Ne.symm h.1), ih h.2, List.cons_append]

/-- **Pairs of different names** are the entries of their bindings, in order. -/
theorem entries_ofPairs (h : (pairs.map (·.1)).Nodup) : (ofPairs pairs).entries = pairs := by
  have hall : ∀ entries : List (String × String), ((entries ++ pairs).map (·.1)).Nodup →
      (insertAll ⟨entries⟩ pairs).entries = entries ++ pairs := by
    clear h
    induction pairs with
    | nil => exact fun entries _ => (List.append_nil _).symm
    | cons p pairs ih =>
      intro entries h
      have hnew : p.1 ∉ entries.map (·.1) := fun hmem => by
        rw [List.map_append, List.map_cons] at h
        exact (List.nodup_append.1 h).2.2 p.1 hmem p.1 List.mem_cons_self rfl
      have hstep : insertAll ⟨entries⟩ (p :: pairs) = insertAll ⟨entries ++ [p]⟩ pairs := by
        rw [insertAll, List.foldl_cons, Bindings.insert, setIn_of_not_mem hnew]
        rfl
      rw [hstep, ih _ (by simpa using h), List.append_assoc]
      rfl
  exact hall [] h

theorem ofPairs_entries (h : bindings.Distinct) : ofPairs bindings.entries = bindings := by
  have hentries := entries_ofPairs h
  cases hpairs : ofPairs bindings.entries with
  | mk entries =>
    rw [hpairs] at hentries
    rw [show entries = bindings.entries from hentries]

/-- Of several values of a name the last one stays. -/
theorem get?_insertAll (bindings : Bindings) (pairs : List (String × String)) (name : String) :
    (bindings.insertAll pairs).get? name =
      (pairs.reverse.lookup name).or (bindings.get? name) := by
  induction pairs generalizing bindings with
  | nil => rfl
  | cons p pairs ih =>
    have hstep : bindings.insertAll (p :: pairs) = (bindings.insert p.1 p.2).insertAll pairs := rfl
    rw [hstep, ih, get?_insert, List.reverse_cons, List.lookup_append, Option.or_assoc]
    congr 1
    obtain ⟨n, v⟩ := p
    by_cases hname : name = n <;> simp [hname]

theorem get?_ofPairs_append (first second : List (String × String)) (name : String) :
    (ofPairs (first ++ second)).get? name =
      ((ofPairs second).get? name).or ((ofPairs first).get? name) := by
  have hempty : empty.get? name = none := rfl
  simp [ofPairs, get?_insertAll, List.lookup_append, hempty]

theorem lookup_reverse (h : (pairs.map (·.1)).Nodup) (name : String) :
    pairs.reverse.lookup name = pairs.lookup name := by
  induction pairs with
  | nil => rfl
  | cons p pairs ih =>
    obtain ⟨n, v⟩ := p
    rw [List.map_cons, List.nodup_cons] at h
    rw [List.reverse_cons, List.lookup_append, ih h.2]
    by_cases hname : name = n
    · subst hname
      have hnone : pairs.lookup name = none := by
        refine List.lookup_eq_none_iff.2 fun e he => bne_iff_ne.2 fun heq => h.1 ?_
        simpa [heq] using List.mem_map_of_mem (f := fun x => x.1) he
      rw [hnone, Option.none_or]
      simp
    · have hfalse : (name == n) = false := beq_eq_false_iff_ne.2 hname
      simp only [List.lookup_cons, hfalse, List.lookup_nil, Option.or_none]

/-- **The bindings that are taken over win.** -/
theorem get?_extend (h : other.Distinct) (bindings : Bindings) (name : String) :
    (bindings.extend other).get? name = (other.get? name).or (bindings.get? name) := by
  rw [extend, get?_insertAll, lookup_reverse h]
  rfl

theorem Distinct.extend (h : bindings.Distinct) : (bindings.extend other).Distinct :=
  h.insertAll

/-- The entries are what is found under their names. -/
theorem mem_entries_iff (h : bindings.Distinct) :
    (name, value) ∈ bindings.entries ↔ bindings.get? name = some value := by
  obtain ⟨entries⟩ := bindings
  unfold Distinct at h
  unfold get?
  dsimp only at h ⊢
  induction entries with
  | nil => exact iff_of_false nofun nofun
  | cons e entries ih =>
    obtain ⟨n, v⟩ := e
    rw [List.map_cons, List.nodup_cons] at h
    by_cases hname : name = n
    · subst hname
      have hother : (name, value) ∉ entries := fun hmem =>
        h.1 (List.mem_map_of_mem (f := fun e => e.1) hmem)
      simp [hother, eq_comm]
    · rw [List.lookup_cons, beq_eq_false_iff_ne.2 hname, ← ih h.2]
      simp [hname]

/-! ### The bindings of some names -/

/-- The bindings of some names only. -/
def restrict (bindings : Bindings) (names : List String) : Bindings :=
  ⟨names.filterMap fun name => (bindings.get? name).map fun value => (name, value)⟩

theorem entries_restrict_cons (bindings : Bindings) (name : String) (names : List String) :
    (bindings.restrict (name :: names)).entries =
      ((bindings.get? name).map fun value => (name, value)).toList ++
        (bindings.restrict names).entries := by
  unfold restrict
  rw [List.filterMap_cons]
  cases bindings.get? name <;> rfl

theorem get?_restrict (bindings : Bindings) (names : List String) (name : String) :
    (bindings.restrict names).get? name = if name ∈ names then bindings.get? name else none := by
  induction names with
  | nil => rfl
  | cons n names ih =>
    rw [get?] at ih ⊢
    rw [entries_restrict_cons, List.lookup_append, ih]
    by_cases hname : name = n
    · subst hname
      cases bindings.get? name <;> simp
    · cases bindings.get? n <;> simp [hname, beq_eq_false_iff_ne.2 hname]

/-- The names of what is read under some names are among these, in the same order. -/
theorem names_filterMap {α : Type} (as : List α) (name : α → String) (value? : α → Option String) :
    ((as.filterMap fun a => (value? a).map fun value => (name a, value)).map (·.1)).Sublist
      (as.map name) := by
  induction as with
  | nil => exact .slnil
  | cons a as ih =>
    cases hvalue : value? a with
    | none =>
      rw [List.filterMap_cons, hvalue]
      exact ih.cons _
    | some value =>
      rw [List.filterMap_cons, hvalue]
      exact ih.cons_cons _

theorem distinct_restrict {names : List String} (bindings : Bindings) (h : names.Nodup) :
    (bindings.restrict names).Distinct := by
  have hsublist := names_filterMap names id bindings.get?
  rw [List.map_id] at hsublist
  exact hsublist.nodup h

theorem restrict_append (bindings : Bindings) (names names' : List String) :
    (bindings.restrict (names ++ names')).entries =
      (bindings.restrict names).entries ++ (bindings.restrict names').entries :=
  List.filterMap_append

/-! ### Bindings with other names -/

/-- The same values under other names. -/
def rename (newName : String → String) (bindings : Bindings) : Bindings :=
  ⟨bindings.entries.map fun e => (newName e.1, e.2)⟩

/-- Pairs whose names are different before and after are renamed one by one. -/
theorem ofPairs_rename {newName : String → String} (h : (pairs.map (·.1)).Nodup)
    (h' : (pairs.map fun e => newName e.1).Nodup) :
    ofPairs (pairs.map fun e => (newName e.1, e.2)) = (ofPairs pairs).rename newName := by
  have hentries : (ofPairs (pairs.map fun e => (newName e.1, e.2))).entries =
      pairs.map fun e => (newName e.1, e.2) := by
    refine entries_ofPairs ?_
    rw [List.map_map]
    exact h'
  unfold rename
  rw [entries_ofPairs h]
  exact congrArg Bindings.mk hentries

end RequestRouter.Bindings
