import RequestRouter.Matcher
import RequestRouter.Proofs.Bindings
import RequestRouter.Proofs.Request

/-!
# Checks of headers and query parameters

A check of headers or of query parameters is configured by a flat list of keys and values. It is made
from the bindings of the list, in which the last value of a key wins, and it looks them up in what the
request carries, by key.

* `LastPair`: a key of a list and the value after its last occurrence.
* `mem_entries_iff_lastPair`: these are what the check is made from.
* `carries_addAll`: what it finds in pairs that were added one after the other.
* `Contract`: what a check decides, by the list and by what was put on the request.
* `checks_keep_contract`: **checks of headers and of query parameters decide that**, whatever was put on
  the request, and the case of header names changes nothing.
-/

namespace RequestRouter.Matcher

open Request (Edit)

variable {args : List String} {key value : String}

/-! ### Keys and their last values -/

/-- A key of a flat list of keys and values, and the value after its last occurrence. -/
def LastPair (args : List String) (key value : String) : Prop :=
  ∃ i, args[2 * i]? = some key ∧ args[2 * i + 1]? = some value ∧
    ∀ j, i < j → args[2 * j]? ≠ some key

theorem lastPair_cons {k v : String} : LastPair (k :: v :: args) key value ↔
    LastPair args key value ∨
      ((∀ j : Nat, args[2 * j]? ≠ some key) ∧ k = key ∧ v = value) := by
  have hkey (i : Nat) : (k :: v :: args)[2 * (i + 1)]? = args[2 * i]? := rfl
  have hvalue (i : Nat) : (k :: v :: args)[2 * (i + 1) + 1]? = args[2 * i + 1]? := rfl
  constructor
  · rintro ⟨i, hk, hv, hlast⟩
    cases i with
    | zero =>
      refine Or.inr ⟨fun j => ?_, Option.some.inj hk, Option.some.inj hv⟩
      rw [← hkey]
      exact hlast (j + 1) j.succ_pos
    | succ i =>
      refine Or.inl ⟨i, hk, hv, fun j hj => ?_⟩
      rw [← hkey]
      exact hlast (j + 1) (Nat.succ_lt_succ hj)
  · rintro (⟨i, hk, hv, hlast⟩ | ⟨hlater, rfl, rfl⟩)
    · refine ⟨i + 1, hk, hv, fun j hj => ?_⟩
      cases j with
      | zero => omega
      | succ j => exact hlast j (Nat.lt_of_succ_lt_succ hj)
    · refine ⟨0, rfl, rfl, fun j hj => ?_⟩
      cases j with
      | zero => omega
      | succ j => exact hlater j

theorem length_le_one (hshort : ∀ k v rest, args = k :: v :: rest → False) : args.length ≤ 1 := by
  cases args with
  | nil => exact Nat.zero_le 1
  | cons k rest =>
    cases rest with
    | nil => exact Nat.le_refl 1
    | cons v rest => exact absurd rfl (hshort k v rest)

/-- In the pairs of a list of even length the last value of a key is found from the end. -/
theorem lookup_reverse_pairUp (heven : args.length % 2 = 0) (key : String) :
    (∀ value, (pairUp args).reverse.lookup key = some value ↔ LastPair args key value) ∧
      ((pairUp args).reverse.lookup key = none ↔ ∀ j : Nat, args[2 * j]? ≠ some key) := by
  induction args using pairUp.induct with
  | case1 k v rest ih =>
    have hrest : rest.length % 2 = 0 := by
      rw [List.length_cons, List.length_cons] at heven
      omega
    obtain ⟨hsome, hnone⟩ := ih hrest
    have hsingle : [(k, v)].lookup key = if k = key then some v else none := by
      by_cases hk : k = key
      · simp [hk]
      · simp [beq_eq_false_iff_ne.2 (Ne.symm hk), hk]
    -- the first pair counts only if its key does not come again
    rw [pairUp, List.reverse_cons, List.lookup_append, hsingle]
    constructor
    · intro value
      rw [Option.or_eq_some_iff, hsome, hnone, Option.ite_none_right_eq_some, Option.some.injEq,
        lastPair_cons]
    · have hfirst : (if k = key then some v else none) = none ↔
          (k :: v :: rest)[2 * 0]? ≠ some key := by simp
      rw [Option.or_eq_none_iff, hnone, hfirst, and_comm]
      exact Nat.and_forall_add_one (p := fun j => (k :: v :: rest)[2 * j]? ≠ some key)
  | case2 args hshort =>
    have hle := length_le_one hshort
    obtain rfl : args = [] := List.length_eq_zero_iff.1 (by omega)
    refine ⟨fun value => iff_of_false nofun ?_, iff_of_true rfl fun j => nofun⟩
    rintro ⟨i, hi, -⟩
    cases hi

/-- **What a check is made from**: the keys of its list, each with its last value. -/
theorem mem_entries_iff_lastPair (heven : args.length % 2 = 0) :
    (key, value) ∈ (Bindings.ofPairs (pairUp args)).entries ↔ LastPair args key value := by
  have hget : (Bindings.ofPairs (pairUp args)).get? key = (pairUp args).reverse.lookup key := by
    rw [Bindings.ofPairs, Bindings.get?_insertAll]
    exact Option.or_none
  rw [Bindings.mem_entries_iff (Bindings.distinct_ofPairs _), hget,
    (lookup_reverse_pairUp heven key).1]

/-! ### What a check finds -/

/-- **What a check finds** in pairs that were added one after the other. -/
theorem carries_addAll (given : List (String × String)) (expected : Bindings) :
    carries (MultiMap.empty.addAll given) expected = true ↔
      ∀ e ∈ expected.entries, ∃ pair ∈ given, pair.1 = e.1 ∧ (e.2 = "" ∨ pair.2 = e.2) := by
  have hcontains (k : String) : (MultiMap.empty.addAll given).contains k = true ↔
      ∃ pair ∈ given, pair.1 = k := by
    rw [MultiMap.contains_addAll, show MultiMap.empty.contains k = false from rfl, Bool.false_or,
      List.any_eq_true]
    simp only [beq_iff_eq]
  have hvalues (k v : String) : v ∈ (MultiMap.empty.addAll given).values k ↔
      ∃ pair ∈ given, pair.1 = k ∧ pair.2 = v := by
    rw [MultiMap.values_addAll, show MultiMap.empty.values k = [] from rfl, List.nil_append]
    simp only [List.mem_map, List.mem_filter, beq_iff_eq, and_assoc]
  rw [carries, List.all_eq_true]
  refine forall₂_congr fun e _ => ?_
  obtain ⟨k, v⟩ := e
  dsimp only
  rw [Bool.and_eq_true, Bool.or_eq_true, String.isEmpty_iff, List.contains_iff_mem, hcontains, hvalues]
  constructor
  · rintro ⟨⟨pair, hpair, hk⟩, rfl | ⟨pair', hpair', hk', hv⟩⟩
    · exact ⟨pair, hpair, hk, Or.inl rfl⟩
    · exact ⟨pair', hpair', hk', Or.inr hv⟩
  · rintro ⟨pair, hpair, hk, hv⟩
    exact ⟨⟨pair, hpair, hk⟩, hv.imp_right fun hv => ⟨pair, hpair, hk, hv⟩⟩

/-! ### What a check decides -/

/-- **What a check of keys and values decides.** It cannot be made of a list of odd length or of none.
Made of any other list, it accepts a request exactly if every key of the list was given to the request
and, where the last value of the key is not empty, with that value. -/
structure Contract (check : Except RouterError Matcher) (args : List String) (odd : Nat → RouterError)
    (empty : RouterError) (same : String → String → Prop)
    (given : String → List Edit → List (String × String)) : Prop where
  odd_length : args.length % 2 = 1 → check = .error (odd args.length)
  no_keys : args = [] → check = .error empty
  decides : args.length % 2 = 0 → args ≠ [] → ∃ matcher, check = .ok matcher ∧
    ∀ (method : Method) (target : String) (edits : List Edit),
      accepts ((Request.new method target).afterEdits edits) matcher = true ↔
        ∀ key value, LastPair args key value →
          ∃ pair ∈ given target edits, same pair.1 key ∧ (value = "" ∨ pair.2 = value)

variable {odd : Nat → RouterError} {empty : RouterError}

theorem expectations_of_odd (h : args.length % 2 = 1) :
    expectations args odd empty = .error (odd args.length) := by
  rw [expectations, if_pos (by omega)]

theorem expectations_nil : expectations [] odd empty = .error empty := rfl

theorem expectations_of_even (h : args.length % 2 = 0) (hne : args ≠ []) :
    expectations args odd empty = .ok (.ofPairs (pairUp args)) := by
  rw [expectations, if_neg (by omega), if_neg (by simpa using hne)]

/-- Every entry is a key of the list and its last value, so that a law of the entries is one of the
list. -/
theorem forall_entries_iff (heven : args.length % 2 = 0) {P : String → String → Prop} :
    (∀ e ∈ (Bindings.ofPairs (pairUp args)).entries, P e.1 e.2) ↔
      ∀ key value, LastPair args key value → P key value := by
  simp only [← mem_entries_iff_lastPair heven, Prod.forall]

theorem contract_ofQueries (args : List String) :
    Contract (ofQueries args) args .oddQueries .emptyQueries (· = ·)
      (fun target edits => Query.pairs (Target.parse target).query ++ Edit.queries edits) where
  odd_length h := by rw [ofQueries, expectations_of_odd h]; rfl
  no_keys h := by rw [ofQueries, h, expectations_nil]; rfl
  decides heven hne := by
    refine ⟨queries (.ofPairs (pairUp args)), ?_, fun method target edits => ?_⟩
    · rw [ofQueries, expectations_of_even heven hne]
      rfl
    · rw [accepts, Request.query_new, carries_addAll, ← forall_entries_iff heven]

/-- Keys of one header are spelled alike. -/
def SpelledAlike (args : List String) : Prop :=
  ∀ (i j : Nat) (key key' : String), args[2 * i]? = some key → args[2 * j]? = some key' →
    Header.canonical key = Header.canonical key' → key = key'

/-- **No two keys become one** when each is brought to its canonical form. -/
theorem entries_canonical (hspelled : SpelledAlike args) (heven : args.length % 2 = 0) :
    (Bindings.ofPairs ((Bindings.ofPairs (pairUp args)).entries.map
        fun e => (Header.canonical e.1, e.2))).entries =
      (Bindings.ofPairs (pairUp args)).entries.map fun e => (Header.canonical e.1, e.2) := by
  have hkey : ∀ name ∈ (Bindings.ofPairs (pairUp args)).entries.map (·.1),
      ∃ i : Nat, args[2 * i]? = some name := by
    intro name hname
    obtain ⟨⟨key, value⟩, he, rfl⟩ := List.mem_map.1 hname
    obtain ⟨i, hi, -⟩ := (mem_entries_iff_lastPair heven).1 he
    exact ⟨i, hi⟩
  refine Bindings.entries_ofPairs ?_
  have hnodup : (((Bindings.ofPairs (pairUp args)).entries.map (·.1)).map Header.canonical).Nodup := by
    refine List.Nodup.map_on (fun name hname name' hname' h => ?_) (Bindings.distinct_ofPairs _)
    obtain ⟨i, hi⟩ := hkey name hname
    obtain ⟨j, hj⟩ := hkey name' hname'
    exact hspelled i j name name' hi hj h
  rwa [List.map_map] at hnodup ⊢

theorem contract_ofHeaders (hspelled : SpelledAlike args) :
    Contract (ofHeaders args) args .oddHeaders .emptyHeaders Header.Alike
      (fun _ edits => Edit.headers edits) where
  odd_length h := by rw [ofHeaders, expectations_of_odd h]; rfl
  no_keys h := by rw [ofHeaders, h, expectations_nil]; rfl
  decides heven hne := by
    refine ⟨headers (.ofPairs ((Bindings.ofPairs (pairUp args)).entries.map
      fun e => (Header.canonical e.1, e.2))), ?_, fun method target edits => ?_⟩
    · rw [ofHeaders, expectations_of_even heven hne]
      rfl
    · rw [accepts, Request.headers_new, carries_addAll, entries_canonical hspelled heven,
        List.forall_mem_map, ← forall_entries_iff heven]
      simp only [List.mem_map, exists_exists_and_eq_and, Header.canonical_eq_iff]

/-! ### Other spellings -/

/-- A flat list of keys and values with its keys spelled differently. -/
def respell (spelling : String → String) : List String → List String
  | key :: value :: rest => spelling key :: value :: respell spelling rest
  | rest => rest.map spelling

variable {spelling : String → String}

theorem length_respell (spelling : String → String) (args : List String) :
    (respell spelling args).length = args.length := by
  induction args using pairUp.induct with
  | case1 key value rest ih => rw [respell, List.length_cons, List.length_cons, ih]; rfl
  | case2 args hshort => rw [respell, List.length_map]; exact hshort

theorem getElem?_respell (spelling : String → String) (args : List String) (i : Nat) :
    (respell spelling args)[2 * i]? = args[2 * i]?.map spelling ∧
      (respell spelling args)[2 * i + 1]? = args[2 * i + 1]? := by
  induction args using pairUp.induct generalizing i with
  | case1 key value rest ih =>
    rw [respell]
    cases i with
    | zero => exact ⟨rfl, rfl⟩
    | succ i => exact ih i
  | case2 args hshort =>
    rw [respell, List.getElem?_map, List.getElem?_map]
    · have hle := length_le_one hshort
      have hnone : args[2 * i + 1]? = none := List.getElem?_eq_none (by omega)
      rw [hnone, Option.map_none]
      exact ⟨rfl, rfl⟩
    · exact hshort

/-- The pairs of a list that is respelled: no two keys become one. -/
theorem lastPair_respell (hspelled : SpelledAlike args)
    (hspelling : ∀ key, Header.Alike (spelling key) key) :
    LastPair (respell spelling args) key value ↔
      ∃ k, LastPair args k value ∧ spelling k = key := by
  have hkey (i : Nat) := (getElem?_respell spelling args i).1
  have hvalue (i : Nat) := (getElem?_respell spelling args i).2
  unfold LastPair
  simp only [hkey, hvalue, ne_eq, Option.map_eq_some_iff]
  constructor
  · rintro ⟨i, ⟨k, hk, rfl⟩, hv, hlast⟩
    exact ⟨k, ⟨i, hk, hv, fun j hj hjk => hlast j hj ⟨k, hjk, rfl⟩⟩, rfl⟩
  · rintro ⟨k, ⟨i, hk, hv, hlast⟩, rfl⟩
    refine ⟨i, ⟨k, hk, rfl⟩, hv, fun j hj => ?_⟩
    rintro ⟨k', hk', heq⟩
    -- keys whose spellings meet are of one header, and so they are the same key
    have halike : Header.Alike k' k := (hspelling k').symm.trans (heq ▸ hspelling k)
    exact hlast j hj (hspelled j i k' k hk' hk (Header.canonical_eq_iff.2 halike) ▸ hk')

theorem SpelledAlike.respell (hspelled : SpelledAlike args)
    (hspelling : ∀ key, Header.Alike (spelling key) key) : SpelledAlike (respell spelling args) := by
  intro i j key key' hi hj h
  rw [(getElem?_respell spelling args _).1, Option.map_eq_some_iff] at hi hj
  obtain ⟨k, hk, rfl⟩ := hi
  obtain ⟨k', hk', rfl⟩ := hj
  have halike : Header.Alike k k' :=
    (hspelling k).symm.trans ((Header.canonical_eq_iff.1 h).trans (hspelling k'))
  rw [hspelled i j k k' hk hk' (Header.canonical_eq_iff.2 halike)]

/-- Headers that differ at most in the case of their names. -/
def SameHeaders (given given' : List (String × String)) : Prop :=
  List.Forall₂ (fun h h' => Header.Alike h.1 h'.1 ∧ h.2 = h'.2) given given'

theorem SameHeaders.exists_iff {given given' : List (String × String)}
    (h : SameHeaders given given') {key' : String} (hkey : Header.Alike key' key)
    (P : String → Prop) :
    (∃ pair ∈ given, Header.Alike pair.1 key ∧ P pair.2) ↔
      ∃ pair ∈ given', Header.Alike pair.1 key' ∧ P pair.2 := by
  induction h with
  | nil => simp
  | @cons pair pair' given given' hpair _ ih =>
    obtain ⟨hname, hvalue⟩ := hpair
    have hhead : Header.Alike pair.1 key ↔ Header.Alike pair'.1 key' :=
      ⟨fun h => (hname.symm.trans h).trans hkey.symm, fun h => hname.trans (h.trans hkey)⟩
    rw [List.exists_mem_cons_iff, List.exists_mem_cons_iff, ih, hhead, hvalue]

/-- **The case of header names changes nothing**, neither in the list of a check nor on a request. -/
theorem map_accepts_respell (hspelled : SpelledAlike args)
    (hspelling : ∀ key, Header.Alike (spelling key) key) (method : Method) (target : String)
    {edits edits' : List Edit} (hedits : SameHeaders (Edit.headers edits) (Edit.headers edits')) :
    (ofHeaders (respell spelling args)).map
        (accepts ((Request.new method target).afterEdits edits')) =
      (ofHeaders args).map (accepts ((Request.new method target).afterEdits edits)) := by
  have hcontract := contract_ofHeaders hspelled
  have hcontract' := contract_ofHeaders (hspelled.respell hspelling)
  rcases Nat.mod_two_eq_zero_or_one args.length with heven | hodd
  · by_cases hne : args = []
    · rw [hne]
      rfl
    · have hlength := length_respell spelling args
      have hne' : respell spelling args ≠ [] := fun hnil => by
        rw [hnil] at hlength
        exact hne (List.length_eq_zero_iff.1 hlength.symm)
      obtain ⟨matcher, hmatcher, hlaw⟩ := hcontract.decides heven hne
      obtain ⟨matcher', hmatcher', hlaw'⟩ := hcontract'.decides (hlength ▸ heven) hne'
      rw [hmatcher, hmatcher', Except.map, Except.map, Except.ok.injEq, Bool.eq_iff_iff, hlaw, hlaw']
      simp only [lastPair_respell hspelled hspelling]
      constructor
      · intro h key value hpair
        exact (hedits.exists_iff (hspelling key) fun v => value = "" ∨ v = value).2
          (h (spelling key) value ⟨key, hpair, rfl⟩)
      · rintro h _ value ⟨key, hpair, rfl⟩
        exact (hedits.exists_iff (hspelling key) fun v => value = "" ∨ v = value).1
          (h key value hpair)
  · rw [hcontract.odd_length hodd, hcontract'.odd_length ((length_respell spelling args).symm ▸ hodd),
      length_respell]
    rfl

/-- **Checks of headers and of query parameters decide their contract.** Made of a list in which the keys
of one header are spelled alike, a check of headers accepts exactly the requests on which every name was
put, in whatever case, with its last value or, if that is empty, with any, and the case of names changes
nothing, in the list or on the request. A check of query parameters does the same with its keys as they
are, over the parameters of the target and those put on the request. -/
theorem checks_keep_contract (args : List String) :
    (SpelledAlike args →
      Contract (ofHeaders args) args .oddHeaders .emptyHeaders Header.Alike
        (fun _ edits => Edit.headers edits) ∧
      ∀ spelling : String → String, (∀ key, Header.Alike (spelling key) key) →
        ∀ (method : Method) (target : String) (edits edits' : List Edit),
          SameHeaders (Edit.headers edits) (Edit.headers edits') →
          (ofHeaders (respell spelling args)).map
              (accepts ((Request.new method target).afterEdits edits')) =
            (ofHeaders args).map (accepts ((Request.new method target).afterEdits edits))) ∧
    Contract (ofQueries args) args .oddQueries .emptyQueries (· = ·)
      (fun target edits => Query.pairs (Target.parse target).query ++ Edit.queries edits) :=
  ⟨fun hspelled => ⟨contract_ofHeaders hspelled, fun _ hspelling method target _ _ hedits =>
    map_accepts_respell hspelled hspelling method target hedits⟩, contract_ofQueries args⟩

/-- A list with two values for one name, of which the last one counts, and with a name for which any value
will do. -/
theorem checks_keep_contract_last_value :
    SpelledAlike ["accept", "a", "X-Tag", "", "accept", "b"] ∧
    (∃ matcher, ofHeaders ["accept", "a", "X-Tag", "", "accept", "b"] = .ok matcher ∧
      accepts ((Request.new .get "/").afterEdits [.header "ACCEPT" "b", .header "x-tag" "1"]) matcher =
        true) ∧
    (ofHeaders (respell (fun key => .ofList (key.toList.map Char.toLower))
          ["accept", "a", "X-Tag", "", "accept", "b"])).map
        (accepts ((Request.new .get "/").afterEdits [.header "Accept" "b"])) =
      (ofHeaders ["accept", "a", "X-Tag", "", "accept", "b"]).map
        (accepts ((Request.new .get "/").afterEdits [.header "ACCEPT" "b"])) := by
  have hkeys : ∀ (i : Nat) (key : String),
      ["accept", "a", "X-Tag", "", "accept", "b"][2 * i]? = some key →
        key = "accept" ∨ key = "X-Tag" := by
    rintro (_ | _ | _ | i) key h
    · exact Or.inl (Option.some.inj h).symm
    · exact Or.inr (Option.some.inj h).symm
    · exact Or.inl (Option.some.inj h).symm
    · cases h
  have hspelled : SpelledAlike ["accept", "a", "X-Tag", "", "accept", "b"] := by
    intro i j key key' hi hj h
    rcases hkeys i key hi with rfl | rfl <;> rcases hkeys j key' hj with rfl | rfl
    · rfl
    · exact absurd h (by decide)
    · exact absurd h (by decide)
    · rfl
  have hlower (key : String) : Header.Alike (.ofList (key.toList.map Char.toLower)) key := by
    rw [Header.Alike, String.toList_ofList, List.map_map]
    exact List.map_congr_left fun c _ => Char.toLower_toLower_eq_toLower c
  obtain ⟨hcontract, hcase⟩ := (checks_keep_contract _).1 hspelled
  obtain ⟨matcher, hmatcher, hlaw⟩ := hcontract.decides rfl (List.cons_ne_nil _ _)
  refine ⟨hspelled, ⟨matcher, hmatcher, (hlaw _ _ _).2 fun key value h => ?_⟩,
    hcase _ hlower .get "/" _ _ (.cons ⟨by decide, rfl⟩ .nil)⟩
  rcases lastPair_cons.1 h with h | ⟨hlater, rfl, rfl⟩
  · rcases lastPair_cons.1 h with h | ⟨-, rfl, rfl⟩
    · rcases lastPair_cons.1 h with ⟨_, hnil, -⟩ | ⟨-, rfl, rfl⟩
      · cases hnil
      · exact ⟨("ACCEPT", "b"), List.mem_cons_self, by decide, Or.inr rfl⟩
    · exact ⟨("x-tag", "1"), List.mem_cons_of_mem _ List.mem_cons_self, by decide, Or.inl rfl⟩
  · exact absurd rfl (hlater 1)

end RequestRouter.Matcher
