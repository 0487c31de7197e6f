import Mathlib
import RequestRouter.Request

/-!
# The parts of a target

A target is cut at fixed characters, and nothing is decoded: the scheme ends where one can end first,
the fragment and the query are cut off, and then the host ends at the first slash. So a target gives its
parts back unless one of them contains a character itself at which an earlier cut is made.

* `hostMarks`, `pathMarks`: the characters that end the host and the path of a target.
* `avoids_splitHost`: **none of them is left** in the host and the path.
* `parse_absolute`, `parse_relative`: the parts of a target with a scheme, and of one without.
* `parse_http_iff`: **when a URL gives its host and its path back.**
* `avoids_parse`: what is never left in the host and the path of a target.
* `Tail`, `IsScheme`: a target as it is written, from its path on, and what a scheme is.
* `parse_rooted`: **a path is a target** that has nothing else.
* `Request.parts_of_target`: **every target is split exactly** where it was put together.
-/

namespace RequestRouter.Target

/-- The characters that end the host of a target. -/
def hostMarks : List Char := ['/', '?', '#']

/-- The characters that end the path of a target. -/
def pathMarks : List Char := ['?', '#']

/-- A text contains none of some characters. -/
def Avoids (marks cs : List Char) : Prop :=
  ∀ c ∈ marks, c ∉ cs

instance (marks cs : List Char) : Decidable (Avoids marks cs) :=
  List.decidableBAll (fun c => c ∉ cs) marks

/-- What a text is without its fragment and its query. -/
def beforeQuery (cs : List Char) : List Char :=
  (Text.splitFirst '?' (Text.splitFirst '#' cs).1).1

/-- The query of a text, empty if it has none. -/
def queryText (cs : List Char) : List Char :=
  (Text.splitFirst '?' (Text.splitFirst '#' cs).1).2.getD []

variable {marks cs host path : List Char}

theorem avoids_append : Avoids marks (host ++ path) ↔ Avoids marks host ∧ Avoids marks path := by
  unfold Avoids
  simp only [List.mem_append, not_or]
  exact forall₂_and

theorem Avoids.subset (h : Avoids marks cs) {part : List Char} (hpart : part ⊆ cs) :
    Avoids marks part := fun c hc hmem => h c hc (hpart hmem)

theorem avoids_pathMarks : Avoids pathMarks cs ↔ '?' ∉ cs ∧ '#' ∉ cs := by
  simp [Avoids, pathMarks]

theorem avoids_hostMarks : Avoids hostMarks cs ↔ '/' ∉ cs ∧ Avoids pathMarks cs := by
  simp [Avoids, hostMarks, pathMarks]

/-! ### The query and the fragment -/

theorem beforeQuery_of_avoids (h : Avoids pathMarks cs) : beforeQuery cs = cs := by
  obtain ⟨hquery, hfragment⟩ := avoids_pathMarks.1 h
  unfold beforeQuery
  rw [Text.splitFirst_of_not_mem hfragment, Text.splitFirst_of_not_mem hquery]

theorem avoids_beforeQuery (cs : List Char) : Avoids pathMarks (beforeQuery cs) := by
  refine avoids_pathMarks.2 ⟨Text.not_mem_splitFirst '?' _, fun hmem => ?_⟩
  have hinit := Text.splitFirst_prefix '?' (Text.splitFirst '#' cs).1
  exact Text.not_mem_splitFirst '#' cs (hinit.subset hmem)

/-! ### The host -/

theorem ne_slash_of_not_mem (h : '/' ∉ host) : ∀ c ∈ host, decide (c ≠ '/') = true :=
  fun _ hc => decide_eq_true fun heq => h (heq ▸ hc)

theorem splitHost_append (h : '/' ∉ host) (path : List Char) :
    splitHost (host ++ '/' :: path) = (host, '/' :: path) := by
  have hall := ne_slash_of_not_mem h
  unfold splitHost
  rw [List.span_eq_takeWhile_dropWhile, List.takeWhile_append_of_pos hall,
    List.dropWhile_append_of_pos hall]
  simp

theorem splitHost_of_not_mem (h : '/' ∉ host) : splitHost host = (host, ['/']) := by
  have hall := ne_slash_of_not_mem h
  unfold splitHost
  rw [List.span_eq_takeWhile_dropWhile, List.takeWhile_eq_self_iff.2 hall,
    List.dropWhile_eq_nil_iff.2 hall]

/-- **What the host and the path consist of**: of the text that was split, but for the slash that
stands for an empty path, and the host has no slash. -/
theorem splitHost_parts (cs : List Char) :
    '/' ∉ (splitHost cs).1 ∧ (splitHost cs).1 ⊆ cs ∧ (splitHost cs).2 ⊆ '/' :: cs := by
  have hhost : '/' ∉ cs.takeWhile (· ≠ '/') := fun hmem => by
    simpa using List.mem_takeWhile_imp hmem
  have hsubset : cs.takeWhile (· ≠ '/') ⊆ cs := (List.takeWhile_prefix _).subset
  unfold splitHost
  rw [List.span_eq_takeWhile_dropWhile]
  split
  · rename_i heq
    obtain ⟨rfl, -⟩ := Prod.mk.inj heq
    exact ⟨hhost, hsubset, by simp⟩
  · rename_i heq
    obtain ⟨rfl, rfl⟩ := Prod.mk.inj heq
    refine ⟨hhost, hsubset, fun c hc => List.mem_cons_of_mem _ ?_⟩
    exact (List.dropWhile_suffix _).subset hc

/-- **No mark is left** in the host and the path. -/
theorem avoids_splitHost (h : Avoids pathMarks cs) :
    Avoids hostMarks (splitHost cs).1 ∧ Avoids pathMarks (splitHost cs).2 := by
  obtain ⟨hslash, hhost, hpath⟩ := splitHost_parts cs
  have hcons : Avoids pathMarks ('/' :: cs) := by
    simpa [Avoids, pathMarks] using h
  exact ⟨avoids_hostMarks.2 ⟨hslash, h.subset hhost⟩, hcons.subset hpath⟩

/-! ### Whole targets -/

theorem isSchemeChar_iff {c : Char} :
    isSchemeChar c = true ↔ c.isAlphanum = true ∨ c ∈ ['+', '-', '.'] := by
  simp [isSchemeChar, or_assoc]

/-- What stands before `://` in an absolute target. -/
theorem of_absolute? {scheme rest : List Char} (h : absolute? cs = some (scheme, rest)) :
    scheme ≠ [] ∧ ∀ c ∈ scheme, isSchemeChar c = true := by
  have hscheme := (Option.filter_eq_some_iff.1 h).2
  rw [decide_eq_true_eq, List.all_eq_true] at hscheme
  exact hscheme

/-- **The parts of an absolute target.** -/
theorem parse_absolute {target : String} {scheme rest : List Char}
    (h : absolute? target.toList = some (scheme, rest)) :
    parse target =
      { scheme := Unicode.lowerCase (.ofList scheme)
        host := .ofList (splitHost (beforeQuery rest)).1
        path := .ofList (splitHost (beforeQuery rest)).2
        query := .ofList (queryText rest) } := by
  simp only [parse, h, Option.getD_some, if_neg (of_absolute? h).1]
  rfl

/-- **The parts of any other target**: it has no scheme and no host. -/
theorem parse_relative {target : String} (h : absolute? target.toList = none) :
    parse target =
      { scheme := "", host := ""
        path := .ofList (beforeQuery target.toList)
        query := .ofList (queryText target.toList) } := by
  simp only [parse, h, Option.getD_none, if_true]
  rfl

/-- **When a URL gives its host and its path back**: if the host has no slash, and neither has a
question mark or a number sign. -/
theorem parse_http_iff {host path : String} (hrooted : path.toList.head? = some '/') :
    ((parse ("http://" ++ host ++ path)).host = host ∧
      (parse ("http://" ++ host ++ path)).path = path) ↔
      Avoids hostMarks host.toList ∧ Avoids pathMarks path.toList := by
  have habsolute : absolute? ("http://" ++ host ++ path).toList =
      some ("http".toList, host.toList ++ path.toList) := by
    rw [String.append_assoc, String.toList_append, String.toList_append]
    rfl
  rw [parse_absolute habsolute, ← String.toList_inj, ← String.toList_inj, String.toList_ofList,
    String.toList_ofList]
  constructor
  · rintro ⟨hhost, hpath⟩
    have havoids := avoids_splitHost (avoids_beforeQuery (host.toList ++ path.toList))
    rwa [hhost, hpath] at havoids
  · rintro ⟨hhost, hpath⟩
    obtain ⟨hslash, hmarks⟩ := avoids_hostMarks.1 hhost
    obtain ⟨rest, hrest⟩ := List.head?_eq_some_iff.1 hrooted
    -- nothing is cut off, and the first slash is that of the path
    rw [beforeQuery_of_avoids (avoids_append.2 ⟨hmarks, hpath⟩), hrest, splitHost_append hslash]
    exact ⟨rfl, rfl⟩

/-- **No mark is left** in the host and the path of a target. -/
theorem avoids_parse (target : String) : Avoids hostMarks (parse target).host.toList ∧
    Avoids pathMarks (parse target).path.toList := by
  cases h : absolute? target.toList with
  | none =>
    rw [parse_relative h]
    refine ⟨fun _ _ => List.not_mem_nil, ?_⟩
    rw [String.toList_ofList]
    exact avoids_beforeQuery _
  | some parts =>
    rw [parse_absolute h, String.toList_ofList, String.toList_ofList]
    exact avoids_splitHost (avoids_beforeQuery _)

/-- What starts with a slash is not absolute: no scheme has one. -/
theorem absolute?_rooted (cs : List Char) : absolute? ('/' :: cs) = none := by
  have hsplit : splitScheme? ('/' :: cs) =
      (splitScheme? cs).map fun parts => ('/' :: parts.1, parts.2) := by
    rw [splitScheme?]
    simp
  rw [absolute?, hsplit, Option.filter_eq_none_iff]
  intro parts hparts
  obtain ⟨_, -, rfl⟩ := Option.map_eq_some_iff.1 hparts
  rw [decide_eq_true_eq]
  rintro ⟨-, hall⟩
  exact absurd (List.all_eq_true.1 hall '/' List.mem_cons_self) (by decide)

/-! ### Targets as they are written -/

/-- A target as it is written, from the path on. -/
structure Tail where
  path : String
  /-- Without the question mark before it. -/
  query : Option String
  /-- Without the number sign before it. -/
  fragment : Option String

/-- The text of a target from the path on. -/
def Tail.text (tail : Tail) : String :=
  tail.path ++ tail.query.elim "" ("?" ++ ·) ++ tail.fragment.elim "" ("#" ++ ·)

/-- The path is empty or starts with a slash, and what comes before the fragment has no mark of what
comes after it. -/
structure Tail.Proper (tail : Tail) : Prop where
  rooted : tail.path = "" ∨ tail.path.toList.head? = some '/'
  path_marks : Avoids pathMarks tail.path.toList
  query_mark : ∀ query ∈ tail.query, '#' ∉ query.toList

/-- **What a scheme is**: ASCII letters and digits, plus and minus signs and dots, at least one of
them. -/
structure IsScheme (scheme : String) : Prop where
  ne_empty : scheme ≠ ""
  chars : ∀ c ∈ scheme.toList, c.isAlphanum = true ∨ c ∈ ['+', '-', '.']

theorem toNat_lt_of_isSchemeChar {c : Char} (h : isSchemeChar c = true) : c.toNat < 128 := by
  rcases isSchemeChar_iff.1 h with h | h
  · simp only [Char.isAlphanum, Char.isAlpha, Char.isUpper, Char.isLower, Char.isDigit,
      UInt32.le_iff_toNat_le, Bool.or_eq_true, Bool.and_eq_true, decide_eq_true_eq] at h
    have hbounds : c.toNat ≤ 'z'.toNat := by
      rcases h with (h | h) | h
      · exact h.2.trans (by decide)
      · exact h.2
      · exact h.2.trans (by decide)
    exact Nat.lt_of_le_of_lt hbounds (by decide)
  · simp only [List.mem_cons, List.not_mem_nil, or_false] at h
    rcases h with rfl | rfl | rfl <;> decide

/-- A scheme is mapped to lower case letter by letter, and none is lost. -/
theorem lowerCase_scheme {scheme : List Char} (h : ∀ c ∈ scheme, isSchemeChar c = true) :
    Unicode.lowerCase (.ofList scheme) = (String.ofList scheme).toLower :=
  Unicode.lowerCase_of_ascii fun c hc => by
    rw [String.toList_ofList] at hc
    exact toNat_lt_of_isSchemeChar (h c hc)

/-- The host is empty whenever the scheme is. -/
theorem host_eq_empty {target : String} (h : (parse target).scheme = "") :
    (parse target).host = "" := by
  cases habsolute : absolute? target.toList with
  | none => rw [parse_relative habsolute]
  | some parts =>
    obtain ⟨hne, hchars⟩ := of_absolute? habsolute
    rw [parse_absolute habsolute, lowerCase_scheme hchars, ← String.toList_inj, String.toLower,
      String.toList_map, String.toList_ofList] at h
    exact absurd (List.map_eq_nil_iff.1 h) hne

/-- The scheme ends at the first place where one can end. -/
theorem splitScheme?_append {scheme : List Char} (h : ':' ∉ scheme) (rest : List Char) :
    splitScheme? (scheme ++ ':' :: '/' :: '/' :: rest) = some (scheme, rest) := by
  induction scheme with
  | nil => rfl
  | cons c scheme ih =>
    rw [List.mem_cons, not_or] at h
    rw [List.cons_append, splitScheme?, ih h.2]
    · rfl
    · rintro _ hc -
      exact h.1 hc.symm

/-- What was split, with the mark of a scheme between the parts. -/
theorem eq_append_of_splitScheme? {cs scheme rest : List Char}
    (h : splitScheme? cs = some (scheme, rest)) : cs = scheme ++ ':' :: '/' :: '/' :: rest := by
  induction cs using splitScheme?.induct generalizing scheme with
  | case1 => cases h
  | case2 rest' =>
    obtain ⟨rfl, rfl⟩ := Prod.mk.inj (Option.some.inj h)
    rfl
  | case3 c cs hmark ih =>
    rw [splitScheme?] at h
    · obtain ⟨⟨before, after⟩, hsplit, heq⟩ := Option.map_eq_some_iff.1 h
      obtain ⟨rfl, rfl⟩ := Prod.mk.inj heq
      rw [ih hsplit, List.cons_append]
    · exact hmark

theorem absolute?_append {scheme : String} (h : IsScheme scheme) (rest : List Char) :
    absolute? (scheme.toList ++ ':' :: '/' :: '/' :: rest) = some (scheme.toList, rest) := by
  have hcolon : ':' ∉ scheme.toList := fun hmem => absurd (h.chars ':' hmem) (by decide)
  rw [absolute?, splitScheme?_append hcolon, Option.filter_eq_some_iff, decide_eq_true_eq,
    List.all_eq_true]
  exact ⟨rfl, fun hnil => h.ne_empty (String.toList_inj.1 hnil), fun c hc =>
    isSchemeChar_iff.2 (h.chars c hc)⟩

/-- **The host ends where the path starts**, and a slash stands for an empty path. -/
theorem splitHost_path {host path : String} (hslash : '/' ∉ host.toList)
    (hrooted : path = "" ∨ path.toList.head? = some '/') :
    splitHost (host.toList ++ path.toList) =
      (host.toList, (if path = "" then "/" else path).toList) := by
  rcases hrooted with rfl | hrooted
  · rw [String.toList_empty, List.append_nil, splitHost_of_not_mem hslash, if_pos rfl]
    rfl
  · obtain ⟨rest, hrest⟩ := List.head?_eq_some_iff.1 hrooted
    have hne : path ≠ "" := by
      rintro rfl
      cases hrest
    rw [hrest, splitHost_append hslash, if_neg hne, hrest]

theorem splitFirst_optional {mark : Char} (h : mark ∉ cs) (part : Option (List Char)) :
    Text.splitFirst mark (cs ++ part.elim [] (mark :: ·)) = (cs, part) := by
  cases part with
  | none => rw [Option.elim_none, List.append_nil, Text.splitFirst_of_not_mem h]
  | some part => exact Text.splitFirst_append h part

theorem Tail.toList_text (tail : Tail) : tail.text.toList =
    tail.path.toList ++ (tail.query.map String.toList).elim [] ('?' :: ·) ++
      (tail.fragment.map String.toList).elim [] ('#' :: ·) := by
  obtain ⟨path, query, fragment⟩ := tail
  cases query <;> cases fragment <;> simp [Tail.text]

/-- **The query and the fragment are cut off** where they were put. -/
theorem Tail.Proper.cut {tail : Tail} (h : tail.Proper) (host : List Char)
    (hhost : Avoids pathMarks host) :
    beforeQuery (host ++ tail.text.toList) = host ++ tail.path.toList ∧
      queryText (host ++ tail.text.toList) = (tail.query.getD "").toList := by
  obtain ⟨hquery, hfragment⟩ := avoids_pathMarks.1 (avoids_append.2 ⟨hhost, h.path_marks⟩)
  have hbefore : '#' ∉ host ++ tail.path.toList ++
      (tail.query.map String.toList).elim [] ('?' :: ·) := by
    cases hpart : tail.query with
    | none => simpa using hfragment
    | some query =>
      have hmark : '#' ∉ query.toList := h.query_mark query hpart
      simpa [hmark] using hfragment
  rw [beforeQuery, queryText, tail.toList_text, ← List.append_assoc, ← List.append_assoc,
    splitFirst_optional hbefore, splitFirst_optional hquery]
  refine ⟨rfl, ?_⟩
  cases tail.query <;> rfl

/-- **The parts of a target that is put together with a scheme.** -/
theorem parse_written {scheme host : String} {tail : Tail} (hscheme : IsScheme scheme)
    (hhost : Avoids hostMarks host.toList) (htail : tail.Proper) :
    parse (scheme ++ "://" ++ host ++ tail.text) =
      { scheme := scheme.toLower, host
        path := if tail.path = "" then "/" else tail.path
        query := tail.query.getD "" } := by
  have htext : (scheme ++ "://" ++ host ++ tail.text).toList =
      scheme.toList ++ ':' :: '/' :: '/' :: (host.toList ++ tail.text.toList) := by simp
  have habsolute : absolute? (scheme ++ "://" ++ host ++ tail.text).toList =
      some (scheme.toList, host.toList ++ tail.text.toList) := by
    rw [htext, absolute?_append hscheme]
  obtain ⟨hslash, hmarks⟩ := avoids_hostMarks.1 hhost
  obtain ⟨hbefore, hquery⟩ := htail.cut host.toList hmarks
  rw [parse_absolute habsolute, hbefore, hquery, splitHost_path hslash htail.rooted,
    lowerCase_scheme (of_absolute? habsolute).2]
  simp only [String.ofList_toList]

/-- **The parts of a target that starts with its path**, whatever stands in it. -/
theorem parse_text {tail : Tail} (h : tail.Proper) (hne : tail.path ≠ "") :
    parse tail.text =
      { scheme := "", host := "", path := tail.path, query := tail.query.getD "" } := by
  obtain ⟨rest, hrest⟩ := List.head?_eq_some_iff.1 (h.rooted.resolve_left hne)
  have hrelative : absolute? tail.text.toList = none := by
    rw [tail.toList_text, hrest, List.cons_append, List.cons_append, absolute?_rooted]
  obtain ⟨hbefore, hquery⟩ := h.cut [] fun _ _ => List.not_mem_nil
  rw [List.nil_append] at hbefore hquery
  rw [parse_relative hrelative, hbefore, hquery]
  simp only [List.nil_append, String.ofList_toList]

/-- **A path is a target** that has nothing else. -/
theorem parse_rooted {path : String} (hrooted : path.toList.head? = some '/')
    (h : Avoids pathMarks path.toList) :
    parse path = { scheme := "", host := "", path, query := "" } := by
  have hne : path ≠ "" := by
    rintro rfl
    cases hrooted
  have hproper : Tail.Proper ⟨path, none, none⟩ := ⟨Or.inr hrooted, h, nofun⟩
  have htext : Tail.text ⟨path, none, none⟩ = path := by simp [Tail.text]
  have hparse := parse_text hproper hne
  rwa [htext] at hparse

end Target

theorem Query.parse_getD (query : Option String) :
    parse (query.getD "") = query.elim .empty parse := by
  cases query <;> rfl

/-- **Targets are split exactly.** A target that is put together from a scheme, a host without a mark, a
path, a query and a fragment has these parts again, the scheme in lower case and a slash for an empty
path, and so has one that starts with its path, whatever the parts contain beyond that. Of any target
whatever, the path has no query or fragment in it, the host has none of these and no slash, and without
a scheme there is no host. -/
theorem Request.parts_of_target (method : Method) :
    (∀ (scheme host : String) (tail : Target.Tail), Target.IsScheme scheme →
      Target.Avoids Target.hostMarks host.toList → tail.Proper →
      Request.new method (scheme ++ "://" ++ host ++ tail.text) =
        { method, scheme := scheme.toLower, host
          path := if tail.path = "" then "/" else tail.path
          query := tail.query.elim .empty Query.parse
          headers := .empty, body := .empty, vars := .empty }) ∧
    (∀ tail : Target.Tail, tail.Proper → tail.path ≠ "" →
      Request.new method tail.text =
        { method, scheme := "", host := "", path := tail.path
          query := tail.query.elim .empty Query.parse
          headers := .empty, body := .empty, vars := .empty }) ∧
    ∀ target : String,
      Target.Avoids Target.pathMarks (Request.new method target).path.toList ∧
      Target.Avoids Target.hostMarks (Request.new method target).host.toList ∧
      ((Request.new method target).scheme = "" → (Request.new method target).host = "") := by
  refine ⟨fun scheme host tail hscheme hhost htail => ?_, fun tail htail hne => ?_, fun target =>
    ⟨(Target.avoids_parse target).2, (Target.avoids_parse target).1, Target.host_eq_empty⟩⟩
  · rw [Request.new, Target.parse_written hscheme hhost htail, ← Query.parse_getD]
  · rw [Request.new, Target.parse_text htail hne, ← Query.parse_getD]

/-- A scheme in capitals before a host without a path, and a path, with the characters of other parts
in the query, in the fragment and in the path. -/
theorem Request.parts_of_target_marked :
    Request.new .get "HTTPS://a:1?b=/&c=://#d?e" =
        { method := .get, scheme := "https", host := "a:1", path := "/"
          query := Query.parse "b=/&c=://"
          headers := .empty, body := .empty, vars := .empty } ∧
      Request.new .get "/a://b?c=://#d://" =
        { method := .get, scheme := "", host := "", path := "/a://b", query := Query.parse "c=://"
          headers := .empty, body := .empty, vars := .empty } := by
  obtain ⟨hwritten, htext, -⟩ := Request.parts_of_target .get
  have hscheme : Target.IsScheme "HTTPS" :=
    ⟨by decide, fun c hc => Or.inl (List.all_eq_true.1 (by decide) c hc)⟩
  have habsolute := hwritten "HTTPS" "a:1" ⟨"", some "b=/&c=://", some "d?e"⟩ hscheme (by decide)
    ⟨Or.inl rfl, by decide, by decide⟩
  have hrelative := htext ⟨"/a://b", some "c=://", some "d://"⟩
    ⟨Or.inr rfl, by decide, by decide⟩ (by decide)
  have hlower : "HTTPS".toLower = "https" := by
    rw [← String.toList_inj, String.toLower, String.toList_map]
    decide
  rw [hlower] at habsolute
  exact ⟨habsolute, hrelative⟩

end RequestRouter
