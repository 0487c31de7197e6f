import Mathlib.Tactic
import RequestRouter.Query
import RequestRouter.Proofs.Path

/-!
# The parameters of a query string

A query string is a list of parameters, and reading it puts them one by one into a multi-map. So two query
strings with an ampersand between them are one with the parameters of both.

* `MultiMap.Proper`: no key occurs twice, and none is without a value.
* `MultiMap.proper_addAll`, `size_addAll`: **what pairs that are added leave as it is**, and how many
  values there are then.
* `Query.pieces`: the parameters of a query string as they are spelled.
* `Query.pairs_append`: the parameters of two query strings with an ampersand between them.
* `Query.parameters_kept`: **no parameter is lost, duplicated or reordered.**
-/

namespace RequestRouter

/-! ### Multi-maps -/

namespace MultiMap

/-- No key occurs twice, and every key has a value. -/
structure Proper (m : MultiMap) : Prop where
  keys_nodup : (m.entries.map (·.1)).Nodup
  values_ne_nil : ∀ entry ∈ m.entries, entry.2 ≠ []

/-- How many values there are, under all keys. -/
def size (m : MultiMap) : Nat :=
  (m.entries.map (·.2.length)).sum

variable {key value : String} {entries : List (String × List String)} {m : MultiMap}

theorem keys_addTo : (addTo key value entries).map (·.1) =
    entries.map (·.1) ++ if key ∈ entries.map (·.1) then [] else [key] := by
  induction entries with
  | nil => rfl
  | cons entry rest ih =>
    obtain ⟨k, values⟩ := entry
    rw [addTo]
    by_cases h : k = key
    · rw [if_pos h, if_pos (by simp [h]), List.append_nil, List.map_cons, List.map_cons]
    · have hmem : key ∈ k :: rest.map (·.1) ↔ key ∈ rest.map (·.1) := by
        rw [List.mem_cons, or_iff_right (Ne.symm h)]
      rw [if_neg h, List.map_cons, ih, List.map_cons, List.cons_append]
      simp only [hmem]

theorem values_addTo_ne_nil (h : ∀ entry ∈ entries, entry.2 ≠ []) :
    ∀ entry ∈ addTo key value entries, entry.2 ≠ [] := by
  induction entries with
  | nil => simp [addTo]
  | cons entry rest ih =>
    obtain ⟨k, values⟩ := entry
    obtain ⟨hvalues, hrest⟩ := List.forall_mem_cons.1 h
    rw [addTo]
    split
    · exact List.forall_mem_cons.2 ⟨by simp, hrest⟩
    · exact List.forall_mem_cons.2 ⟨hvalues, ih hrest⟩

theorem size_addTo : ((addTo key value entries).map (·.2.length)).sum =
    (entries.map (·.2.length)).sum + 1 := by
  induction entries with
  | nil => rfl
  | cons entry rest ih =>
    obtain ⟨k, values⟩ := entry
    rw [addTo]
    split
    · simp only [List.map_cons, List.sum_cons, List.length_append, List.length_singleton]
      omega
    · simp only [List.map_cons, List.sum_cons, ih]
      omega

theorem proper_empty : empty.Proper :=
  ⟨List.nodup_nil, nofun⟩

/-- One more value keeps the keys apart, and puts none without a value. -/
theorem Proper.add (h : m.Proper) (key value : String) : (m.add key value).Proper := by
  refine ⟨?_, values_addTo_ne_nil h.values_ne_nil⟩
  have hkeys : (m.add key value).entries.map (·.1) =
      m.entries.map (·.1) ++ if key ∈ m.entries.map (·.1) then [] else [key] := keys_addTo
  rw [hkeys]
  split
  · next hmem => rw [List.append_nil]; exact h.keys_nodup
  · next hmem =>
    refine h.keys_nodup.append (List.nodup_singleton key) ?_
    rwa [List.disjoint_singleton]

theorem size_add (m : MultiMap) (key value : String) : (m.add key value).size = m.size + 1 :=
  size_addTo

/-- The map is the accumulator: it stays proper at every pair. -/
theorem Proper.addAll (h : m.Proper) (pairs : List (String × String)) : (m.addAll pairs).Proper := by
  induction pairs generalizing m with
  | nil => exact h
  | cons p pairs ih => exact ih (h.add p.1 p.2)

/-- Every pair is one more value. -/
theorem size_addAll (m : MultiMap) (pairs : List (String × String)) :
    (m.addAll pairs).size = m.size + pairs.length := by
  induction pairs generalizing m with
  | nil => rfl
  | cons p pairs ih =>
    have hstep : m.addAll (p :: pairs) = (m.add p.1 p.2).addAll pairs := rfl
    rw [hstep, ih, size_add, List.length_cons]
    omega

end MultiMap

/-! ### Query strings -/

namespace Query

/-- The parameters of a query string as they are spelled: what stands between the ampersands, if
anything does. -/
def pieces (query : String) : List (List Char) :=
  (query.toList.splitOn '&').filter (· ≠ [])

theorem pairs_eq_map (query : String) : pairs query = (pieces query).map parameter := by
  rw [pairs, pieces, Path.splitOnChar_eq_splitOn]

/-- **The parameters of two query strings** with an ampersand between them. What stands next to it
belongs to one of them, since no escape reaches over it. -/
theorem pairs_append (query query' : String) :
    pairs (query ++ "&" ++ query') = pairs query ++ pairs query' := by
  have htext : (query ++ "&" ++ query').toList = query.toList ++ '&' :: query'.toList := by simp
  rw [pairs, htext, Text.splitOnChar_append_cons, List.filter_append, List.map_append]
  rfl

theorem values_parse (query key : String) :
    (parse query).values key = ((pairs query).filter (·.1 == key)).map (·.2) := by
  rw [parse, MultiMap.ofPairs_eq_addAll, MultiMap.values_addAll]
  rfl

/-- **Reading a query string keeps its parameters.** Of two query strings with an ampersand between them,
whatever they contain, each key has the values of the first one and then those of the second. Each key has
the values of the parameters that are decoded to it, in their order, no key is there without a value or
twice, and there are as many values as there are parameters. -/
theorem parameters_kept :
    (∀ query query' key : String, (parse (query ++ "&" ++ query')).values key =
      (parse query).values key ++ (parse query').values key) ∧
    ∀ query : String,
      (∀ key : String, (parse query).values key =
        ((pieces query).filter fun piece => (parameter piece).1 = key).map (parameter · |>.2)) ∧
      (parse query).Proper ∧ (parse query).size = (pieces query).length := by
  refine ⟨fun query query' key => ?_, fun query => ⟨fun key => ?_, ?_, ?_⟩⟩
  · rw [values_parse, values_parse, values_parse, pairs_append, List.filter_append, List.map_append]
  · rw [values_parse, pairs_eq_map, List.filter_map, List.map_map]
    rfl
  · exact MultiMap.proper_empty.addAll (pairs query)
  · have hsize := MultiMap.size_addAll .empty (pairs query)
    rwa [pairs_eq_map, List.length_map, ← pairs_eq_map, ← MultiMap.ofPairs_eq_addAll,
      show MultiMap.empty.size = 0 from rfl, Nat.zero_add] at hsize

end Query

end RequestRouter
