import Mathlib
import RequestRouter.Request

/-!
# What a request carries

A request is made for a target, and headers, query parameters and a body are put on it afterwards.
Header names are kept in their canonical form, so that spellings of one name meet under it.

* `Header.Alike`, `Header.canonical_eq_iff`: **which names are one header**: those that differ at most in
  the case of ASCII letters.
* `Header.canonical_canonical`: the canonical form of a name is canonical.
* `Request.Edit`, `Request.afterEdits`: what is put on a request.
* `headers_afterEdits`, `query_afterEdits`: **its headers and query parameters** are all that were put on
  it, in order, after those of its target.
* `header_lookup`: **what is found under a header name** is all that was added under names like it.
-/

namespace RequestRouter

/-! ### Header names -/

namespace Header

/-- Two names differ at most in the case of ASCII letters. -/
def Alike (name name' : String) : Prop :=
  name.toList.map Char.toLower = name'.toList.map Char.toLower

instance (name name' : String) : Decidable (Alike name name') :=
  inferInstanceAs (Decidable (_ = _))

variable {name name' name'' : String}

theorem Alike.symm (h : Alike name name') : Alike name' name :=
  Eq.symm h

theorem Alike.trans (h : Alike name name') (h' : Alike name' name'') : Alike name name'' :=
  Eq.trans h h'

theorem cased_eq_iff (upper : Bool) (c d : Char) :
    (if upper then c.toUpper else c.toLower) = (if upper then d.toUpper else d.toLower) ↔
      c.toLower = d.toLower := by
  cases upper with
  | false => exact Iff.rfl
  | true =>
    simp only [if_true]
    constructor
    · intro h
      rw [← Char.toLower_toUpper_eq_toLower c, h, Char.toLower_toUpper_eq_toLower]
    · intro h
      rw [← Char.toUpper_toLower_eq_toUpper c, h, Char.toUpper_toLower_eq_toUpper]

theorem toLower_eq_hyphen {c : Char} : c.toLower = '-' ↔ c = '-' := by
  by_cases h : c.isUpper
  · have hlower : c.toLower.isLower = true := by simp [Char.isAlpha, h]
    refine iff_of_false (fun hc => ?_) (fun hc => ?_)
    · rw [hc] at hlower
      cases hlower
    · rw [hc] at h
      cases h
  · rw [Char.toLower_eq_of_not_isUpper h]

/-- The flag for the next letter is the same in both names, since a hyphen has no case. -/
theorem canonicalChars_eq_iff (upper : Bool) (cs ds : List Char) :
    canonicalChars upper cs = canonicalChars upper ds ↔
      cs.map Char.toLower = ds.map Char.toLower := by
  induction cs generalizing upper ds with
  | nil => cases ds <;> simp [canonicalChars]
  | cons c cs ih =>
    cases ds with
    | nil => simp [canonicalChars]
    | cons d ds =>
      rw [canonicalChars, canonicalChars, List.cons.injEq, List.map_cons, List.map_cons,
        List.cons.injEq, cased_eq_iff]
      refine and_congr_right fun h => ?_
      have hflag : (c == '-') = (d == '-') := by
        rw [Bool.eq_iff_iff, beq_iff_eq, beq_iff_eq, ← toLower_eq_hyphen, h, toLower_eq_hyphen]
      rw [hflag]
      exact ih _ ds

/-- **Which names are one header**: those that differ at most in the case of ASCII letters. -/
theorem canonical_eq_iff : canonical name = canonical name' ↔ Alike name name' := by
  rw [canonical, canonical, String.ofList_inj, canonicalChars_eq_iff, Alike]

theorem map_toLower_canonicalChars (upper : Bool) (cs : List Char) :
    (canonicalChars upper cs).map Char.toLower = cs.map Char.toLower := by
  induction cs generalizing upper with
  | nil => rfl
  | cons c cs ih =>
    have hc : (if upper then c.toUpper else c.toLower).toLower = c.toLower := by
      cases upper with
      | false => exact Char.toLower_toLower_eq_toLower c
      | true => exact Char.toLower_toUpper_eq_toLower c
    rw [canonicalChars, List.map_cons, List.map_cons, hc, ih]

/-- A name differs from its canonical form in the case of letters only. -/
theorem alike_canonical (name : String) : Alike (canonical name) name := by
  unfold Alike canonical
  rw [String.toList_ofList]
  exact map_toLower_canonicalChars true name.toList

/-- The canonical form of a name is canonical. -/
theorem canonical_canonical (name : String) : canonical (canonical name) = canonical name :=
  canonical_eq_iff.2 (alike_canonical name)

end Header

/-! ### Edits -/

namespace Request

/-- What is put on a request before it is sent. -/
inductive Edit where
  /-- Adds a header value. -/
  | header (name value : String)
  /-- Adds a query parameter. -/
  | query (key value : String)
  /-- Replaces the body. -/
  | body (bytes : ByteArray)

/-- The header that is added, as it is spelled. -/
def Edit.header? : Edit → Option (String × String)
  | header name value => some (name, value)
  | _ => none

/-- The query parameter that is added. -/
def Edit.query? : Edit → Option (String × String)
  | query key value => some (key, value)
  | _ => none

/-- The headers that are added, as they are spelled. -/
def Edit.headers (edits : List Edit) : List (String × String) :=
  edits.filterMap Edit.header?

/-- The query parameters that are added. -/
def Edit.queries (edits : List Edit) : List (String × String) :=
  edits.filterMap Edit.query?

/-- A request with one more thing on it. -/
def edit (request : Request) : Edit → Request
  | .header name value => request.addHeader name value
  | .query key value => request.addQuery key value
  | .body bytes => request.withBody bytes

/-- A request after edits, in order. -/
def afterEdits (request : Request) (edits : List Edit) : Request :=
  edits.foldl edit request

theorem headers_edit (request : Request) (e : Edit) : (request.edit e).headers =
    request.headers.addAll (e.header?.toList.map fun h => (Header.canonical h.1, h.2)) := by
  cases e <;> rfl

theorem query_edit (request : Request) (e : Edit) :
    (request.edit e).query = request.query.addAll e.query?.toList := by
  cases e <;> rfl

theorem Edit.headers_cons (e : Edit) (edits : List Edit) :
    headers (e :: edits) = e.header?.toList ++ headers edits := by
  cases e <;> rfl

theorem Edit.queries_cons (e : Edit) (edits : List Edit) :
    queries (e :: edits) = e.query?.toList ++ queries edits := by
  cases e <;> rfl

/-- **The headers of a request** are all that were put on it, under their canonical names. -/
theorem headers_afterEdits (request : Request) (edits : List Edit) :
    (request.afterEdits edits).headers =
      request.headers.addAll ((Edit.headers edits).map fun h => (Header.canonical h.1, h.2)) := by
  induction edits generalizing request with
  | nil => rfl
  | cons e edits ih =>
    have hstep : request.afterEdits (e :: edits) = (request.edit e).afterEdits edits := rfl
    rw [hstep, ih, headers_edit, Edit.headers_cons, List.map_append, MultiMap.addAll_append]

/-- **The query parameters of a request** are those of its target and all that were put on it. -/
theorem query_afterEdits (request : Request) (edits : List Edit) :
    (request.afterEdits edits).query = request.query.addAll (Edit.queries edits) := by
  induction edits generalizing request with
  | nil => rfl
  | cons e edits ih =>
    have hstep : request.afterEdits (e :: edits) = (request.edit e).afterEdits edits := rfl
    rw [hstep, ih, query_edit, Edit.queries_cons, MultiMap.addAll_append]

/-- The headers of a request that is made for a target. -/
theorem headers_new (method : Method) (target : String) (edits : List Edit) :
    ((Request.new method target).afterEdits edits).headers = MultiMap.empty.addAll
      ((Edit.headers edits).map fun h => (Header.canonical h.1, h.2)) :=
  headers_afterEdits _ edits

/-- The query parameters of a request that is made for a target. -/
theorem query_new (method : Method) (target : String) (edits : List Edit) :
    ((Request.new method target).afterEdits edits).query = MultiMap.empty.addAll
      (Query.pairs (Target.parse target).query ++ Edit.queries edits) := by
  have hnew : (Request.new method target).query = Query.parse (Target.parse target).query := by
    rw [Request.new]
  rw [query_afterEdits, hnew, Query.parse, MultiMap.ofPairs_eq_addAll, MultiMap.addAll_append]

/-! ### Looking up a header -/

/-- The values among some headers whose names are like a name, in order. -/
def Edit.valuesLike (name : String) (headers : List (String × String)) : List String :=
  (headers.filter fun h => Header.Alike h.1 name).map (·.2)

theorem values_canonical (name : String) (headers : List (String × String)) :
    (MultiMap.empty.addAll (headers.map fun h => (Header.canonical h.1, h.2))).values
        (Header.canonical name) = Edit.valuesLike name headers := by
  have hkey : ∀ h : String × String,
      (Header.canonical h.1 == Header.canonical name) = decide (Header.Alike h.1 name) := by
    intro h
    rw [Bool.eq_iff_iff, beq_iff_eq, decide_eq_true_iff]
    exact Header.canonical_eq_iff
  rw [MultiMap.values_addAll, List.filter_map, List.map_map]
  have hfilter : headers.filter ((fun pair : String × String => pair.1 == Header.canonical name) ∘
      fun h => (Header.canonical h.1, h.2)) = headers.filter fun h => Header.Alike h.1 name :=
    List.filter_congr fun h _ => hkey h
  rw [hfilter]
  rfl

/-- **What is found under a header name.** Two names have one canonical form exactly if they differ at
most in the case of ASCII letters, and the canonical form is its own. So a request has under a name all
values that were added under names like it, in the order in which they were added, and none is lost. -/
theorem header_lookup :
    (∀ name name' : String,
      Header.canonical name = Header.canonical name' ↔ Header.Alike name name') ∧
    (∀ name : String, Header.canonical (Header.canonical name) = Header.canonical name) ∧
    ∀ (method : Method) (target : String) (edits : List Edit) (name : String),
      ((Request.new method target).afterEdits edits).headerValues name =
          Edit.valuesLike name (Edit.headers edits) ∧
        ((Request.new method target).afterEdits edits).header? name =
          (Edit.valuesLike name (Edit.headers edits)).head? := by
  refine ⟨fun _ _ => Header.canonical_eq_iff, Header.canonical_canonical, ?_⟩
  intro method target edits name
  have hvalues : ((Request.new method target).afterEdits edits).headerValues name =
      Edit.valuesLike name (Edit.headers edits) := by
    unfold headerValues
    rw [headers_new]
    exact values_canonical name (Edit.headers edits)
  exact ⟨hvalues, congrArg List.head? hvalues⟩

end Request

end RequestRouter
