import Mathlib.Tactic
import RequestRouter.Proofs.Template.Checking

/-!
# Building a text from what was extracted

A match cuts what it consumes into the literal text of a template and the values of its variables. The
values are put together again in the same way, so they build what the match consumes.

* `build_of_captures`, `build_of_captures_prefix`: **what a match extracts builds what it consumes.**
-/

namespace RequestRouter.Template

open Regex

variable {default : String} {reserved : List String} {pieces : List Piece} {parts : List Part}
  {t : Template} {bindings : Bindings} {input : String} {caps : Captures}

/-! ### What a match extracts -/

/-- Bindings with the values of a match have them in order. -/
theorem supplies_of_entries {values : List String} {vars : Vars}
    (hc : Compiled default reserved t pieces parts) (hvars : t.matchVars? input = some vars)
    (hentries : vars.entries = t.varNames.zip values) (hlength : t.vars.length = values.length)
    (hget : ∀ v ∈ t.vars, ∀ x, (t.matchVars? input).bind (·.get? v.name) = some x →
      bindings.get? v.name = some x) :
    t.Supplies bindings values := by
  have hzip := supplies_zip hc.names_nodup hlength
  refine ((List.forall₂_and_left _ _).2 ⟨fun v hv => hv, hzip⟩).imp fun v x hx => ?_
  refine hget v hx.1 x ?_
  rw [hvars, Option.bind_some, Bindings.get?, hentries]
  exact hx.2

/-- **What a match extracts builds the text**, unless the template is one for prefixes. -/
theorem build_of_captures (hc : Compiled default reserved t pieces parts)
    (h : t.captures? input = some caps) (hwhole : t.isPrefix = false)
    (hget : ∀ v ∈ t.vars, ∀ x, (t.matchVars? input).bind (·.get? v.name) = some x →
      bindings.get? v.name = some x) :
    t.build bindings = .ok input := by
  obtain ⟨k, spans, hend, -, hweave, hextract, hmatched⟩ := captures_tiles hc h
  have hlength : t.vars.length =
      (spans.map fun span => String.ofList (slice input.toList span)).length := by
    rw [List.length_map, hc.validators.length_eq, hmatched.length_eq]
  obtain ⟨vars, hvars, hentries⟩ := entries_of_extract hc h hextract hlength
  -- the whole text is consumed, so the values fill in to it again
  have hfill : t.fill (spans.map fun span => .ofList (slice input.toList span)) = input := by
    refine String.toList_inj.1 ?_
    rw [toList_fill hc.segments, List.map_map, show (String.toList ∘ fun span => .ofList
      (slice input.toList span)) = slice input.toList from funext fun _ => String.toList_ofList,
      hweave, List.take_of_length_le (hend hwhole)]
  have hmatch : t.regex.isMatch input = true := by
    rw [← Regex.captures?_isSome]
    exact Option.isSome_iff_exists.2 ⟨caps, h⟩
  exact build_eq_ok.2 ⟨_, supplies_of_entries hc hvars hentries hlength hget, hfill, Or.inl hmatch⟩

/-- **What a match extracts builds the part that it consumes**, if the patterns have no assertions:
then they admit the values in this part as they did in the whole text. -/
theorem build_of_captures_prefix (hc : Compiled default reserved t pieces parts)
    (hfree : ∀ p ∈ parts.filterMap Part.pattern?, p.assertFree = true)
    (h : t.captures? input = some caps)
    (hget : ∀ v ∈ t.vars, ∀ x, (t.matchVars? input).bind (·.get? v.name) = some x →
      bindings.get? v.name = some x) :
    ∃ part, caps.get? 0 = some part ∧ t.build bindings = .ok part := by
  obtain ⟨part, values, vars, hdecomposes, hzero, hvars, hentries⟩ := values_of_captures hc hfree h
  obtain ⟨-, -, hwoven, hadmitted⟩ := hdecomposes
  have hfill : t.fill values = .ofList part := by
    refine String.toList_inj.1 ?_
    rw [toList_fill hc.segments, ← hwoven, String.toList_ofList]
  -- the part decomposes in the same way as a text of its own
  have hmatch : t.regex.isMatch (.ofList part) = true := by
    have hself : Decomposes t.isPrefix pieces t.vars (String.ofList part).toList part values := by
      rw [String.toList_ofList]
      exact ⟨List.prefix_rfl, fun _ => rfl, hwoven, hadmitted⟩
    rw [← Regex.captures?_isSome]
    exact captures_of_decomposes hc hfree hself
  refine ⟨.ofList part, hzero, ?_⟩
  exact build_eq_ok.2
    ⟨_, supplies_of_entries hc hvars hentries hadmitted.length_eq hget, hfill, Or.inl hmatch⟩

end RequestRouter.Template
