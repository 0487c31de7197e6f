import Mathlib
import RequestRouter.Matcher
import RequestRouter.Proofs.LetterCase
import RequestRouter.Proofs.Request
import RequestRouter.Proofs.Target

/-!
# Spellings of methods and schemes

A method is known by the upper-case form of its name and a scheme by its lower-case form, on a request as
in a check. So every spelling is one of them, and the check of a route does not depend on it.

* `Method.standard`: the methods that have a constructor of their own.
* `name_parse`, `parse_name`, `parse_eq_iff`: **a method is its name in upper case.**
* `parse_eq_standard`: no spelling of a standard method is another one.
* `Target.IsAbsolute`, `isAbsolute_iff`: which targets have a scheme.
* `Matcher.spelling_of_methods_and_schemes`: **which requests pass a check** of methods, and one of
  schemes.
-/

namespace RequestRouter

/-! ### Methods -/

namespace Method

/-- The methods with a constructor of their own. -/
def standard : List Method :=
  [get, post, put, patch, delete, head, options, connect, trace]

variable {name name' : String} {verb : Method}

theorem name_ofUpper (name : String) : (ofUpper name).name = name := by
  unfold ofUpper
  split_ifs with h h h h h h h h h
  all_goals first | exact h.symm | rfl

/-- A method has the name it was parsed from, in upper case. -/
theorem name_parse (name : String) : (parse name).name = Unicode.upperCase name :=
  name_ofUpper _

/-- The name of a method is a spelling of it. -/
theorem parse_name (name : String) : parse (parse name).name = parse name := by
  rw [name_parse, parse, parse, Unicode.upperCase_upperCase]

/-- **Which names are one method**: those with the same upper-case form. -/
theorem parse_eq_iff : parse name = parse name' ↔ Unicode.upperCase name = Unicode.upperCase name' := by
  constructor
  · intro h
    rw [← name_parse, h, name_parse]
  · intro h
    rw [parse, parse, h]

theorem ofUpper_name (h : verb ∈ standard) : ofUpper verb.name = verb := by
  revert verb
  decide

/-- **No spelling of a standard method is another one**, and no other name is that method. -/
theorem parse_eq_standard (h : verb ∈ standard) :
    parse name = verb ↔ Unicode.upperCase name = verb.name := by
  constructor
  · rintro rfl
    exact (name_parse name).symm
  · intro hname
    rw [parse, hname, ofUpper_name h]

end Method

/-! ### Targets with a scheme -/

namespace Target

/-- A target that starts with a scheme and the mark after it. -/
def IsAbsolute (target : String) : Prop :=
  ∃ scheme rest, IsScheme scheme ∧ target = scheme ++ "://" ++ rest

theorem absolute?_of_isScheme {scheme : String} (h : IsScheme scheme) (rest : String) :
    absolute? (scheme ++ "://" ++ rest).toList = some (scheme.toList, rest.toList) := by
  rw [← absolute?_append h, String.toList_append, String.toList_append, List.append_assoc]
  rfl

/-- **A scheme is found exactly** in the targets that start with one. -/
theorem isAbsolute_iff {target : String} :
    IsAbsolute target ↔ (absolute? target.toList).isSome = true := by
  constructor
  · rintro ⟨scheme, rest, hscheme, rfl⟩
    rw [absolute?_of_isScheme hscheme, Option.isSome_some]
  · intro h
    obtain ⟨⟨scheme, rest⟩, habsolute⟩ := Option.isSome_iff_exists.1 h
    obtain ⟨hne, hchars⟩ := of_absolute? habsolute
    have htext := eq_append_of_splitScheme? (Option.filter_eq_some_iff.1 habsolute).1
    refine ⟨.ofList scheme, .ofList rest, ⟨fun hempty => hne ?_, fun c hc => ?_⟩, ?_⟩
    · rw [← String.toList_ofList (l := scheme), hempty, String.toList_empty]
    · rw [String.toList_ofList] at hc
      exact isSchemeChar_iff.1 (hchars c hc)
    · rw [← String.toList_inj, htext]
      simp

instance (target : String) : Decidable (IsAbsolute target) :=
  decidable_of_iff _ isAbsolute_iff.symm

theorem scheme_parse_absolute {scheme : String} (h : IsScheme scheme) (rest : String) :
    (parse (scheme ++ "://" ++ rest)).scheme = scheme.toLower := by
  have habsolute := absolute?_of_isScheme h rest
  rw [parse_absolute habsolute, lowerCase_scheme (of_absolute? habsolute).2, String.ofList_toList]

theorem scheme_parse_relative {target : String} (h : ¬ IsAbsolute target) :
    (parse target).scheme = "" := by
  rw [isAbsolute_iff, Bool.not_eq_true, Option.isSome_eq_false_iff, Option.isNone_iff_eq_none] at h
  rw [parse_relative h]

end Target

/-! ### Requests -/

namespace Request

/-- What no edit changes is the same after all of them. -/
theorem afterEdits_unchanged {α : Type} (part : Request → α)
    (h : ∀ request e, part (Request.edit request e) = part request) (request : Request)
    (edits : List Edit) : part (request.afterEdits edits) = part request := by
  induction edits generalizing request with
  | nil => rfl
  | cons e edits ih =>
    have hstep : request.afterEdits (e :: edits) = (request.edit e).afterEdits edits := rfl
    rw [hstep, ih, h]

theorem method_afterEdits (request : Request) (edits : List Edit) :
    (request.afterEdits edits).method = request.method :=
  afterEdits_unchanged method (fun _ e => by cases e <;> rfl) request edits

theorem scheme_afterEdits (request : Request) (edits : List Edit) :
    (request.afterEdits edits).scheme = request.scheme :=
  afterEdits_unchanged scheme (fun _ e => by cases e <;> rfl) request edits

/-- The scheme of a request that is made for a target. -/
theorem scheme_new (method : Method) (target : String) (edits : List Edit) :
    ((new method target).afterEdits edits).scheme = (Target.parse target).scheme :=
  scheme_afterEdits _ edits

end Request

/-! ### Checks -/

namespace Matcher

variable {names : List String} {request : Request}

theorem accepts_methods_iff {name : String} (h : request.method = .parse name) :
    accepts request (methods (names.map Method.parse)) = true ↔
      ∃ n ∈ names, Unicode.upperCase n = Unicode.upperCase name := by
  rw [accepts, List.contains_iff_mem, h, List.mem_map]
  exact exists_congr fun n => and_congr_right fun _ => Method.parse_eq_iff

theorem toLower_eq_iff {name name' : String} :
    name.toLower = name'.toLower ↔ Header.Alike name name' := by
  rw [← String.toList_inj, String.toLower, String.toLower, String.toList_map, String.toList_map]
  exact Iff.rfl

theorem toLower_empty : "".toLower = "" := by
  rw [← String.toList_inj, String.toLower, String.toList_map, String.toList_empty, List.map_nil]

theorem alike_empty {name : String} : Header.Alike name "" ↔ name = "" := by
  rw [Header.Alike, String.toList_empty, List.map_nil, List.map_eq_nil_iff, String.toList_eq_nil_iff]

theorem accepts_schemes_iff {scheme : String} (hascii : ∀ n ∈ names, ∀ c ∈ n.toList, c.toNat < 128)
    (h : request.scheme = scheme.toLower) :
    accepts request (schemes (names.map Unicode.lowerCase)) = true ↔
      ∃ n ∈ names, Header.Alike n scheme := by
  rw [accepts, List.contains_iff_mem, h, List.mem_map]
  refine exists_congr fun n => and_congr_right fun hn => ?_
  rw [Unicode.lowerCase_of_ascii (hascii n hn), toLower_eq_iff]

/-- **Spellings do not matter.** Names are of one method exactly if they have one upper-case form, a
method is that of its name, and every spelling of a standard method is that method. So a check of methods
accepts a request exactly if a name of its list has the upper-case form of that of the request. A check of
schemes, in ASCII, accepts a request with a scheme exactly if one of its list differs from that at most in
the case of letters, and a request without a scheme exactly if the empty text is in the list. -/
theorem spelling_of_methods_and_schemes :
    (∀ name : String, Method.parse (Method.parse name).name = Method.parse name) ∧
    (∀ name name' : String,
      Method.parse name = Method.parse name' ↔ Unicode.upperCase name = Unicode.upperCase name') ∧
    (∀ verb ∈ Method.standard, ∀ name : String,
      Method.parse name = verb ↔ Unicode.upperCase name = verb.name) ∧
    (∀ names : List String, names ≠ [] → ∃ check, ofMethods names = .ok check ∧
      ∀ (name target : String) (edits : List Request.Edit),
        accepts ((Request.new (.parse name) target).afterEdits edits) check = true ↔
          ∃ n ∈ names, Unicode.upperCase n = Unicode.upperCase name) ∧
    ∀ names : List String, names ≠ [] → (∀ n ∈ names, ∀ c ∈ n.toList, c.toNat < 128) →
      ∃ check, ofSchemes names = .ok check ∧
      (∀ (method : Method) (scheme rest : String) (edits : List Request.Edit),
        Target.IsScheme scheme →
        (accepts ((Request.new method (scheme ++ "://" ++ rest)).afterEdits edits) check = true ↔
          ∃ n ∈ names, Header.Alike n scheme)) ∧
      ∀ (method : Method) (target : String) (edits : List Request.Edit), ¬ Target.IsAbsolute target →
        (accepts ((Request.new method target).afterEdits edits) check = true ↔ "" ∈ names) := by
  refine ⟨Method.parse_name, fun _ _ => Method.parse_eq_iff, fun _ hverb _ =>
    Method.parse_eq_standard hverb, fun names hne => ?_, fun names hne hascii => ?_⟩
  · refine ⟨methods (names.map Method.parse), ?_, fun name target edits => ?_⟩
    · rw [ofMethods, if_neg (mt List.isEmpty_iff.1 hne)]
    · exact accepts_methods_iff (Request.method_afterEdits _ edits)
  · refine ⟨schemes (names.map Unicode.lowerCase), ?_, fun method scheme rest edits hscheme => ?_,
      fun method target edits htarget => ?_⟩
    · rw [ofSchemes, if_neg (mt List.isEmpty_iff.1 hne)]
    · refine accepts_schemes_iff hascii ?_
      rw [Request.scheme_new, Target.scheme_parse_absolute hscheme]
    · have hscheme : ((Request.new method target).afterEdits edits).scheme = "".toLower := by
        rw [Request.scheme_new, Target.scheme_parse_relative htarget, toLower_empty]
      rw [accepts_schemes_iff hascii hscheme]
      simp only [alike_empty, exists_eq_right]

/-- A method with a letter that becomes two in upper case, a scheme in other letters than those of the
check, and a target without a scheme. -/
theorem spelling_of_methods_and_schemes_mixed :
    Method.parse (Method.parse "straße").name = Method.parse "straße" ∧
    (∃ check, ofMethods ["get", "straße"] = .ok check ∧
      accepts (Request.new (.parse "STRASSE") "/") check = true) ∧
    ∃ check, ofSchemes ["HTTPS", ""] = .ok check ∧
      accepts (Request.new .get "Https://a/b") check = true ∧
      accepts (Request.new .get "/a") check = true := by
  obtain ⟨hname, -, -, hmethods, hschemes⟩ := spelling_of_methods_and_schemes
  obtain ⟨check, hcheck, hlaw⟩ := hmethods ["get", "straße"] (by decide)
  have hascii : ∀ n ∈ ["HTTPS", ""], ∀ c ∈ n.toList, c.toNat < 128 := by simp
  obtain ⟨check', hcheck', habsolute, hrelative⟩ := hschemes ["HTTPS", ""] (by decide) hascii
  have hscheme : Target.IsScheme "Https" :=
    ⟨by decide, fun c hc => Or.inl (List.all_eq_true.1 (by decide) c hc)⟩
  refine ⟨hname _, ⟨check, hcheck, (hlaw "STRASSE" "/" []).2 ⟨"straße", by simp, by decide +kernel⟩⟩,
    check', hcheck', ?_, (hrelative .get "/a" [] (by decide)).2 (by decide)⟩
  exact (habsolute .get "Https" "a/b" [] hscheme).2 ⟨"HTTPS", by simp, by decide⟩

end Matcher

end RequestRouter
