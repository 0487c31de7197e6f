import RequestRouter.Json.Double

/-!
# JSON values

* `Json.object`: members ascend by key, so equal objects are equal as values.
* `Json.insertMember`: a later member replaces an earlier one of the same key.
-/

namespace RequestRouter

/-- A number: an integer of 64 bits, or a double where the text has a fraction, an exponent or too
many digits for one. -/
inductive JsonNumber where
  | integer (value : Int)
  /-- A double of the given size, negative if so marked. -/
  | double (negative : Bool) (size : Double)
deriving DecidableEq, Repr

/-- JSON values. -/
inductive Json where
  | null
  | bool (value : Bool)
  | number (value : JsonNumber)
  | string (value : String)
  | array (elements : List Json)
  /-- Members in ascending order of their keys, each key once. -/
  | object (members : List (String × Json))

namespace Json

instance : Inhabited Json := ⟨null⟩

/-- An integer. -/
def int (n : Int) : Json := number (.integer n)

/-- Members with one more, in order. A member of the same key is replaced. -/
def insertMember (key : String) (value : Json) : List (String × Json) → List (String × Json)
  | [] => [(key, value)]
  | (k, v) :: rest =>
    if key < k then (key, value) :: (k, v) :: rest
    else if key = k then (key, value) :: rest
    else (k, v) :: insertMember key value rest

/-- The object of members in any order, of which later ones win. -/
def ofMembers (members : List (String × Json)) : Json :=
  object (members.foldl (fun acc m => insertMember m.1 m.2 acc) [])

/-- A text, or nothing at all. -/
def ofOption : Option String → Json
  | some text => string text
  | none => null

end Json

end RequestRouter
