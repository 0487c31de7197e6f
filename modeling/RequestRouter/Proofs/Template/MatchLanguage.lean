import Mathlib.Tactic
import RequestRouter.Proofs.Bindings
import RequestRouter.Proofs.Template.Tiling

/-!
# The language of a template

What a template matches is what its text says: the literal text as it stands, and for every variable
a value that the variable's pattern admits, wherever it stands and whatever is around it.

* `Decomposes`: a text, or the part at its start that is consumed, is made of the pieces of a template
  and admitted values.
* `captures_iff_decomposes`: **a template matches a text if and only if it decomposes so**, and then
  gives the values of one decomposition.
-/

namespace RequestRouter.Template

open Regex Regex.Parser

/-- A text, or for a template of prefixes a part at its start, is made of the pieces of a template
with values in the place of the variables, which their patterns admit. -/
structure Decomposes (isPrefix : Bool) (pieces : List Piece) (vars : List Variable)
    (text part : List Char) (values : List String) : Prop where
  starts : part <+: text
  whole : isPrefix = false → part = text
  woven : part = Piece.weave pieces (values.map String.toList)
  admitted : List.Forall₂ (fun v x => v.validator.isMatch x = true) vars values

variable {default : String} {reserved : List String} {pieces : List Piece} {parts : List Part}
  {t : Template} {g : Nat}

theorem assertFree_of_patterns (hlaid : Laid default g pieces parts)
    (hvalid : PatternsSatisfy (fun regex => regex.pattern.assertFree = true) default pieces) :
    ∀ p ∈ parts.filterMap Part.pattern?, p.assertFree = true := by
  induction hlaid with
  | nil => exact fun p hp => absurd hp List.not_mem_nil
  | literal hlaid ih => exact ih hvalid
  | @braced g body pieces parts s hs hcloses hlaid ih =>
    intro p hp
    rcases List.mem_cons.1 hp with rfl | hp
    · obtain ⟨regex, hregex, hfree⟩ := hvalid body List.mem_cons_self
      obtain ⟨s', hs', hpattern, -⟩ := finished_of_compile hregex
      rwa [hpattern, hs'.ends.unique hs.ends] at hfree
    · exact ih (fun body hbody => hvalid body (List.mem_cons_of_mem _ hbody)) p hp

/-- What a pattern without assertions matches in a text, it matches as a text of its own. -/
theorem matches_slice {p : Pattern} (hp : p.assertFree = true) {text : List Char}
    {span : Nat × Nat} (h : MatchedAt text p span) :
    ∃ s, p.Matches (slice text span).toArray 0 (slice text span).length s := by
  obtain ⟨a, b⟩ := span
  obtain ⟨hle, s, hs⟩ := h
  obtain ⟨n, rfl⟩ : ∃ n, b = a + n := ⟨b - a, by have := hs.le.1; omega⟩
  have hlength : (slice text (a, a + n)).length = n := by
    rw [slice, List.length_take, List.length_drop]
    omega
  have hsame : SameBetween text.toArray (slice text (a, a + n)).toArray a 0 0 n := by
    intro k _ hk
    simp [slice, List.getElem?_drop, hk]
  rw [hlength]
  simpa using Pattern.Matches.elsewhere hp (x := 0) (y := n) hs hsame

/-- What a pattern without assertions matches as a text of its own, it matches wherever it stands. -/
theorem matches_at {p : Pattern} (hp : p.assertFree = true) {text x : List Char} {a : Nat}
    (h : ∃ s, p.Matches x.toArray 0 x.length s) (hx : Spells text.toArray a x) :
    ∃ s, p.Matches text.toArray a (a + x.length) s := by
  obtain ⟨s, hs⟩ := h
  have hsame : SameBetween x.toArray text.toArray 0 a 0 x.length := by
    intro k _ hk
    have := (spells_iff a x).1 hx k _ (List.getElem?_eq_getElem hk)
    rw [this]
    simp [hk]
  exact Pattern.Matches.elsewhere hp (x := 0) (by simpa using hs) hsame

/-- Two pairings through the same list in the middle. -/
theorem forall₂_trans {α β γ : Type} {R : α → β → Prop} {S : β → γ → Prop} {Q : α → γ → Prop}
    {xs : List α} {ys : List β} {zs : List γ} (hQ : ∀ x y z, R x y → S y z → Q x z)
    (h : List.Forall₂ R xs ys) (h' : List.Forall₂ S ys zs) : List.Forall₂ Q xs zs := by
  induction h generalizing zs with
  | nil =>
    cases h'
    exact .nil
  | cons hR _ ih =>
    cases h' with
    | cons hS h' => exact .cons (hQ _ _ _ hR hS) (ih h')

theorem spells_at_start {part text : List Char} (h : part <+: text) :
    Spells text.toArray 0 part := by
  obtain ⟨rest, rfl⟩ := h
  refine (spells_iff 0 part).2 fun k c hk => ?_
  rw [Nat.zero_add, List.getElem?_toArray,
    List.getElem?_append_left (List.getElem?_eq_some_iff.1 hk).1, hk]

/-- The variables of a match have the values that were extracted, in order. -/
theorem entries_of_extract {input : String} {caps : Regex.Captures} {values : List String}
    (hc : Compiled default reserved t pieces parts) (h : t.captures? input = some caps)
    (hextract : t.extract caps = t.varNames.zip values) (hlength : t.vars.length = values.length) :
    ∃ vars, t.matchVars? input = some vars ∧ vars.entries = t.varNames.zip values := by
  refine ⟨.ofPairs (t.extract caps), ?_, ?_⟩
  · rw [matchVars?, h]
    rfl
  · rw [hextract]
    refine Bindings.entries_ofPairs ?_
    rw [List.map_fst_zip (by simp [varNames, hlength])]
    exact hc.names_nodup

theorem values_of_captures {parts : List Part} {input : String} {caps : Regex.Captures}
    (hc : Compiled default reserved t pieces parts)
    (hfree : ∀ p ∈ parts.filterMap Part.pattern?, p.assertFree = true)
    (h : t.captures? input = some caps) : ∃ part values vars,
      Decomposes t.isPrefix pieces t.vars input.toList part values ∧
      caps.get? 0 = some (.ofList part) ∧
      t.matchVars? input = some vars ∧ vars.entries = t.varNames.zip values := by
  have hpatterns := (List.forall₂_and_left _ _).2 ⟨hfree, hc.validators.flip⟩
  obtain ⟨k, spans, hend, hzero, hweave, hextract, hmatched⟩ := captures_tiles hc h
  obtain ⟨vars, hvars, hentries⟩ := entries_of_extract hc h hextract (by
    rw [List.length_map, hc.validators.length_eq, hmatched.length_eq])
  refine ⟨input.toList.take k, spans.map fun span => .ofList (slice input.toList span), vars,
    ⟨List.take_prefix _ _, ?_, ?_, ?_⟩, hzero, hvars, hentries⟩
  · intro hp
    rw [List.take_of_length_le (hend hp)]
  · rw [← hweave, List.map_map]
    congr 1
    exact List.map_congr_left fun span _ => by simp
  · -- a validator is asked about the value alone, the expression about the value in its place
    rw [List.forall₂_map_right_iff]
    refine forall₂_trans (fun v p span hp hspan => (hp.2 _).2 ?_) hpatterns.flip hmatched
    simpa using matches_slice hp.1 hspan

/-- What decomposes is matched. -/
theorem captures_of_decomposes {parts : List Part} {input : String} {part : List Char}
    {values : List String} (hc : Compiled default reserved t pieces parts)
    (hfree : ∀ p ∈ parts.filterMap Part.pattern?, p.assertFree = true)
    (h : Decomposes t.isPrefix pieces t.vars input.toList part values) :
    (t.captures? input).isSome = true := by
  have hpatterns := (List.forall₂_and_left _ _).2 ⟨hfree, hc.validators.flip⟩
  obtain ⟨hstarts, hwhole, rfl, hadmitted⟩ := h
  obtain ⟨s, hs⟩ := matches_of_tiles hc.laid (spells_at_start hstarts) (by
    rw [List.forall₂_map_right_iff]
    exact forall₂_trans (fun p v x hp hx a hspells => matches_at hp.1 ((hp.2 x).1 hx) hspells)
      hpatterns hadmitted)
  rw [captures?, Regex.captures?_isSome, Regex.isMatch_iff]
  refine ⟨0, _, s, Nat.zero_le _, (hc.matches_iff (Nat.zero_le _)).2 ⟨rfl, hs, fun hp => ?_⟩⟩
  rw [hwhole hp]
  simp

/-- **A template matches a text if and only if the text decomposes as the template says**, provided
that the patterns of its variables are expressions on their own without assertions. Whenever it
matches, the variables are those of the template in order, and their values are those of a
decomposition of what it consumes. -/
theorem captures_iff_decomposes {text : String} {isPrefix : Bool}
    (h : compile text default isPrefix reserved = .ok t)
    (hsplit : Piece.split? text.toList = some pieces)
    (hvalid : PatternsSatisfy (fun regex => regex.pattern.assertFree = true) default pieces)
    (input : String) :
    ((t.captures? input).isSome = true ↔
      ∃ part values, Decomposes isPrefix pieces t.vars input.toList part values) ∧
    (∀ caps, t.captures? input = some caps → ∃ part values vars,
      Decomposes isPrefix pieces t.vars input.toList part values ∧
      caps.get? 0 = some (.ofList part) ∧
      t.matchVars? input = some vars ∧ vars.entries = t.varNames.zip values) ∧
    t.varNames = (pieces.filterMap Piece.body?).map fun body => (nameAndPattern default body).1 := by
  have hall : PatternsSatisfy (fun _ => True) default pieces := fun body hbody =>
    (hvalid body hbody).imp fun _ h => ⟨h.1, trivial⟩
  obtain rfl := isPrefix_of_compile h
  obtain ⟨parts, hc⟩ := compiled_of_compile h hsplit hall
  have hfree := assertFree_of_patterns hc.laid hvalid
  refine ⟨⟨fun hsome => ?_, ?_⟩, fun caps => values_of_captures hc hfree, hc.names⟩
  · obtain ⟨caps, hcaps⟩ := Option.isSome_iff_exists.1 hsome
    obtain ⟨part, values, -, hdecomposes, -⟩ := values_of_captures hc hfree hcaps
    exact ⟨part, values, hdecomposes⟩
  · rintro ⟨part, values, hdecomposes⟩
    exact captures_of_decomposes hc hfree hdecomposes

theorem exists_ok_of_any {ε α : Type} {result : Except ε α} {P : α → Bool}
    (h : result.toOption.any P = true) : ∃ x, result = .ok x ∧ P x = true := by
  cases result with
  | error e => cases h
  | ok x => exact ⟨x, rfl, h⟩

theorem eq_ok_of_toOption {ε α : Type} {result : Except ε α} {x : α}
    (h : result.toOption = some x) : result = .ok x := by
  cases result with
  | error e => cases h
  | ok y => exact congrArg _ (Option.some.inj h)

/-- A template with an alternative in one variable and a group in another. -/
theorem captures_iff_decomposes_alternative :
    ∃ t, compile "/{name:a|b}/{id:(c)+}" defaultPathPattern false [] = .ok t ∧
      (t.captures? "/b/cc").isSome = true ∧
      (((t.captures? "/b/cc").isSome = true ↔ ∃ part values, Decomposes false
          [.literal ['/'], .braced "name:a|b".toList, .literal ['/'], .braced "id:(c)+".toList]
          t.vars "/b/cc".toList part values) ∧
        (∀ caps, t.captures? "/b/cc" = some caps → ∃ part values vars, Decomposes false
          [.literal ['/'], .braced "name:a|b".toList, .literal ['/'], .braced "id:(c)+".toList]
          t.vars "/b/cc".toList part values ∧ caps.get? 0 = some (.ofList part) ∧
          t.matchVars? "/b/cc" = some vars ∧ vars.entries = t.varNames.zip values) ∧
        t.varNames = ["name", "id"]) := by
  have hok : (compile "/{name:a|b}/{id:(c)+}" defaultPathPattern false []).toOption.any
      (fun t => (t.captures? "/b/cc").isSome) = true := by decide +kernel
  obtain ⟨t, ht, hsome⟩ := exists_ok_of_any hok
  refine ⟨t, ht, hsome, ?_⟩
  have hvalid : PatternsSatisfy (fun regex => regex.pattern.assertFree = true) defaultPathPattern
      [.literal ['/'], .braced "name:a|b".toList, .literal ['/'], .braced "id:(c)+".toList] := by
    intro body hbody
    refine exists_ok_of_any (P := fun regex : Regex => regex.pattern.assertFree) ?_
    rcases List.mem_cons.1 hbody with rfl | hbody
    · decide +kernel
    · rw [List.mem_singleton.1 hbody]
      decide +kernel
  exact captures_iff_decomposes ht (by decide +kernel) hvalid "/b/cc"

end RequestRouter.Template
