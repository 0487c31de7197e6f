/-!
# Multi-maps

Texts under keys, several to a key, in the order in which they were added.

* `MultiMap.add`: one more value under a key.
* `MultiMap.values`: the values under a key.
* `values_add`: adding appends to the values of its key and touches no other.
* `values_addAll`, `contains_addAll`: what is there after pairs were added one after the other.
-/

namespace RequestRouter

/-- Lists of values by key. A key that is present has at least one value. -/
structure MultiMap where
  entries : List (String × List String)
deriving DecidableEq, Repr

namespace MultiMap

/-- No key at all. -/
def empty : MultiMap := ⟨[]⟩

instance : Inhabited MultiMap := ⟨empty⟩

/-- The values under a key, none if it is absent. -/
def values (m : MultiMap) (key : String) : List String :=
  (m.entries.lookup key).getD []

/-- Whether a key is present. -/
def contains (m : MultiMap) (key : String) : Bool :=
  (m.entries.lookup key).isSome

/-- The first value under a key. -/
def first? (m : MultiMap) (key : String) : Option String :=
  (m.values key).head?

/-- Entries with one more value under a key, which goes last if it is new. -/
def addTo (key value : String) : List (String × List String) → List (String × List String)
  | [] => [(key, [value])]
  | (k, vs) :: rest =>
    if k = key then (k, vs ++ [value]) :: rest else (k, vs) :: addTo key value rest

/-- One more value under a key. -/
def add (m : MultiMap) (key value : String) : MultiMap :=
  ⟨addTo key value m.entries⟩

/-- The values of a list of pairs by their keys. -/
def ofPairs (pairs : List (String × String)) : MultiMap :=
  pairs.foldl (fun m p => m.add p.1 p.2) empty

theorem lookup_addTo (key value k : String) (entries : List (String × List String)) :
    (addTo key value entries).lookup k =
      if k = key then some ((entries.lookup k).getD [] ++ [value]) else entries.lookup k := by
  induction entries with
  | nil => grind [addTo]
  | cons e rest ih =>
    obtain ⟨k', vs⟩ := e
    by_cases hk : k' = key <;> by_cases h : k = key <;> grind [addTo]

/-- Adding appends to the values of its key and touches no other. -/
theorem values_add (m : MultiMap) (key value k : String) :
    (m.add key value).values k = if k = key then m.values k ++ [value] else m.values k := by
  unfold values add
  rw [lookup_addTo]
  by_cases h : k = key <;> simp [h]

theorem contains_add (m : MultiMap) (key value k : String) :
    (m.add key value).contains k = (key == k || m.contains k) := by
  unfold contains add
  rw [lookup_addTo]
  by_cases h : k = key
  · simp [h]
  · rw [if_neg h, beq_eq_false_iff_ne.2 (Ne.symm h), Bool.false_or]

/-- Adds pairs one after the other. -/
def addAll (m : MultiMap) (pairs : List (String × String)) : MultiMap :=
  pairs.foldl (fun m p => m.add p.1 p.2) m

theorem ofPairs_eq_addAll (pairs : List (String × String)) : ofPairs pairs = empty.addAll pairs := rfl

/-- The values of pairs come after those that are there, in order. -/
theorem values_addAll (m : MultiMap) (pairs : List (String × String)) (k : String) :
    (m.addAll pairs).values k = m.values k ++ (pairs.filter (·.1 == k)).map (·.2) := by
  induction pairs generalizing m with
  | nil => simp [addAll]
  | cons p pairs ih =>
    have hstep : m.addAll (p :: pairs) = (m.add p.1 p.2).addAll pairs := rfl
    rw [hstep, ih, values_add]
    by_cases h : k = p.1
    · simp [h]
    · simp [h, Ne.symm h]

theorem contains_addAll (m : MultiMap) (pairs : List (String × String)) (k : String) :
    (m.addAll pairs).contains k = (m.contains k || pairs.any (·.1 == k)) := by
  induction pairs generalizing m with
  | nil => simp [addAll]
  | cons p pairs ih =>
    have hstep : m.addAll (p :: pairs) = (m.add p.1 p.2).addAll pairs := rfl
    rw [hstep, ih, contains_add, List.any_cons, Bool.or_comm (p.1 == k), Bool.or_assoc]

theorem addAll_append (m : MultiMap) (pairs more : List (String × String)) :
    m.addAll (pairs ++ more) = (m.addAll pairs).addAll more :=
  List.foldl_append

end MultiMap

end RequestRouter
