/-!
# Bindings

Texts under names, one to a name.

* `Bindings.insert`, `Bindings.extend`: later values replace earlier ones.
* `get?_insert`: what a look-up sees of an insertion.
-/

namespace RequestRouter

/-- Values by name, in the order in which the names first came up. -/
structure Bindings where
  entries : List (String × String)
deriving DecidableEq, Repr

namespace Bindings

/-- No name at all. -/
def empty : Bindings := ⟨[]⟩

instance : Inhabited Bindings := ⟨empty⟩

/-- The value of a name. -/
def get? (bindings : Bindings) (name : String) : Option String :=
  bindings.entries.lookup name

/-- Entries with the value of one name set. -/
def setIn (name value : String) : List (String × String) → List (String × String)
  | [] => [(name, value)]
  | (n, v) :: rest => if n = name then (n, value) :: rest else (n, v) :: setIn name value rest

/-- Sets the value of a name. -/
def insert (bindings : Bindings) (name value : String) : Bindings :=
  ⟨setIn name value bindings.entries⟩

/-- Sets every pair of a list, in order. -/
def insertAll (bindings : Bindings) (pairs : List (String × String)) : Bindings :=
  pairs.foldl (fun acc p => acc.insert p.1 p.2) bindings

/-- The bindings of a list of pairs, of which later ones win. -/
def ofPairs (pairs : List (String × String)) : Bindings :=
  empty.insertAll pairs

/-- Takes over every binding of `other`, replacing clashes. -/
def extend (bindings other : Bindings) : Bindings :=
  bindings.insertAll other.entries

/-- The number of names. -/
def size (bindings : Bindings) : Nat :=
  bindings.entries.length

/-- Whether there is no name. -/
def isEmpty (bindings : Bindings) : Bool :=
  bindings.entries.isEmpty

/-- Whether two bindings have the same names with the same values. -/
def sameAs (bindings other : Bindings) : Bool :=
  bindings.size == other.size && bindings.entries.all fun e => other.get? e.1 == some e.2

theorem lookup_setIn (name value n : String) (entries : List (String × String)) :
    (setIn name value entries).lookup n =
      if n = name then some value else entries.lookup n := by
  induction entries with
  | nil => grind [setIn]
  | cons e rest ih =>
    obtain ⟨n', v⟩ := e
    by_cases hk : n' = name <;> by_cases h : n = name <;> grind [setIn]

/-- An insertion is seen under its name and nowhere else. -/
theorem get?_insert (bindings : Bindings) (name value n : String) :
    (bindings.insert name value).get? n = if n = name then some value else bindings.get? n :=
  lookup_setIn name value n bindings.entries

end Bindings

end RequestRouter
