import Mathlib.Tactic
import RequestRouter.Proofs.Regex.Consuming

/-!
# The groups that a text declares

A capture group is declared by the token that opens it, with or without a name. Parentheses in
brackets, after a backslash or in a comment are no such tokens, and whether a text stands in a comment
depends on the flags before it. So the tokens are those that the parser comes to.

* `declaredGroups`: how many groups a text declares.
* `Parser.groups_step`, `Parser.groups_of_ends`: what one token, and a whole text, adds to the groups of
  the parser.
* `Parser.Finished.groups_eq`: **a text that is a pattern has the groups that it declares**, after that
  of the whole match.
-/

namespace RequestRouter.Regex

/-- A token opens a capture group. -/
def Token.opensCapture : Token → Bool
  | openCapture _ => true
  | _ => false

/-- The tokens that the parser comes to in a text. As for a run, `fuel` need be no more than the length
of the text. -/
def Parser.tokens : Nat → Parser → List Char → List Token
  | fuel, parser, cs =>
    match Layout.skip parser.flags.verbose cs, fuel with
    | [], _ => []
    | _ :: _, 0 => []
    | c :: rest, fuel + 1 =>
      match Token.next parser.flags.verbose c rest with
      | .error _ => []
      | .ok (token, after) =>
        match parser.step token with
        | .error _ => [token]
        | .ok next => token :: next.tokens fuel after

/-- How many capture groups a text declares, with a name or without one. -/
def declaredGroups (pattern : String) : Nat :=
  (Parser.start.tokens pattern.toList.length pattern.toList).countP Token.opensCapture

namespace Parser

variable {parser next r s : Parser} {token : Token} {cs : List Char}

theorem groups_pushed {result : Except PatternError Pattern} {depth : Nat}
    (h : (do return parser.push ⟨← result, depth⟩ : Except PatternError Parser) = .ok next) :
    next.groups = parser.groups := by
  cases result with
  | error e => cases h
  | ok p =>
    cases h
    rfl

/-- **One token** adds a group if it opens one. -/
theorem groups_step (h : parser.step token = .ok next) :
    next.groups = parser.groups + if token.opensCapture then 1 else 0 := by
  cases token with
  | literal l => exact groups_pushed h
  | dot => exact groups_pushed h
  | shorthand negated kind => exact groups_pushed h
  | property negated query => exact groups_pushed h
  | bracket e => exact groups_pushed h
  | openCapture name =>
    simp only [step] at h
    split at h
    · cases h
      rfl
    split at h
    · cases h
    · cases h
      rfl
  | close =>
    simp only [step] at h
    split at h
    · cases h
    · cases h
      rfl
  | repetition min max lazy =>
    simp only [step] at h
    split at h
    · cases h
      rfl
    · cases h
  | anchor _ | openPlain _ | switch _ | bar =>
    cases h
    rfl

/-- **A whole text** adds the groups that its tokens open. -/
theorem groups_of_ends {fuel : Nat} (h : parser.Ends cs r) (hfuel : cs.length ≤ fuel) :
    r.groups = parser.groups + (parser.tokens fuel cs).countP Token.opensCapture := by
  induction h generalizing fuel with
  | done hskip =>
    unfold tokens
    rw [hskip]
    rfl
  | @token parser next r cs rest after c token hskip hnext hstep _ ih =>
    have hshorter := Token.length_after hskip hnext
    obtain ⟨fuel', rfl⟩ : ∃ fuel', fuel = fuel' + 1 := ⟨fuel - 1, by omega⟩
    unfold tokens
    rw [hskip]
    simp only [hnext, hstep]
    have hrest := @ih fuel' (by omega)
    rw [hrest, groups_step hstep, List.countP_cons]
    omega

/-- **A text that is a pattern** has the groups that it declares, after that of the whole match. -/
theorem Finished.groups_eq {pattern : String} (h : Finished pattern.toList s) :
    s.groups = 1 + declaredGroups pattern :=
  groups_of_ends h.ends le_rfl

end Parser

/-- What is not a group: a parenthesis in brackets, one after a backslash, one in a comment. What is: a
group that repetition removes. -/
example : declaredGroups "(a)(?:b)(?P<x>c(d)){0}[(]\\((?x)#(\n(e)" = 4 := by decide +kernel

end RequestRouter.Regex
