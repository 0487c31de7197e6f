import Mathlib.Tactic
import RequestRouter.Path

/-!
# Canonical paths

The canonical form of a path keeps some of its segments, each after a slash, and the slash at its end.
It is canonical itself, and a canonical path is its own canonical form.

* `Plain`, `join`, `Canonical`: the segments of a canonical path, their text, and the path.
* `segments_append_slash`: what follows a slash works on the segments before it.
* `segments_join`: the segments of a text that was joined.
* `of_mem_segments`, `subset_cleanChars`: what is left of a path comes from it.
* `canonical_cleanChars`, `cleanChars_eq_self`: **canonical paths** are those that are their own
  canonical form.
* `Canonical.rooted`: a canonical path starts with one slash.
* `Shaped`, `canonical_iff_shaped`: canonical paths by the segments that they are split into.
* `fixed_iff_shaped`: **the fixed points** are the paths of that shape, and every canonical form is one.
* `clean_append_clean`: **a directory may be cleaned first**, whatever path is taken from there.
-/

namespace RequestRouter.Path

open Text (splitOnChar)

/-- What the segments of a canonical path are like. -/
structure Plain (segment : List Char) : Prop where
  ne_nil : segment ≠ []
  ne_dot : segment ≠ ['.']
  ne_dots : segment ≠ ['.', '.']
  no_slash : '/' ∉ segment

/-- The text of segments, with a slash before each. -/
def join (segs : List (List Char)) : List Char :=
  segs.flatMap ('/' :: ·)

/-- A canonical path ends with a slash, or with the last of its segments. -/
inductive Canonical : List Char → Prop
  | directory {segs : List (List Char)} (hplain : ∀ s ∈ segs, Plain s) :
    Canonical (join segs ++ ['/'])
  | leaf {segs : List (List Char)} (hplain : ∀ s ∈ segs, Plain s) (hne : segs ≠ []) :
    Canonical (join segs)

variable {cs s : List Char} {segs before : List (List Char)}

/-! ### Segments -/

theorem resolve_of_plain (h : Plain s) (before : List (List Char)) :
    resolve before s = s :: before := by
  rw [resolve, if_neg (not_or.2 ⟨h.ne_nil, h.ne_dot⟩), if_neg h.ne_dots]

theorem mem_resolve {segment : List Char} (hslash : '/' ∉ segment)
    (h : s ∈ resolve before segment) : s ∈ before ∨ s = segment ∧ Plain segment := by
  unfold resolve at h
  split at h
  · exact Or.inl h
  · rename_i hkept
    rw [not_or] at hkept
    split at h
    · exact Or.inl (List.mem_of_mem_tail h)
    · rename_i hdots
      rcases List.mem_cons.1 h with rfl | h
      · exact Or.inr ⟨rfl, hkept.1, hkept.2, hdots, hslash⟩
      · exact Or.inl h

/-- **What is left of a path** is plain, and of the path. -/
theorem of_mem_segments (h : s ∈ segments cs) : Plain s ∧ s ⊆ cs := by
  have hfold : ∀ (pieces before : List (List Char)), (∀ p ∈ pieces, '/' ∉ p ∧ p ⊆ cs) →
      (∀ s ∈ before, Plain s ∧ s ⊆ cs) →
      ∀ s ∈ pieces.foldl resolve before, Plain s ∧ s ⊆ cs := by
    intro pieces
    induction pieces with
    | nil => exact fun before _ hbefore => hbefore
    | cons p pieces ih =>
      intro before hpieces hbefore
      obtain ⟨⟨hslash, hsubset⟩, hpieces⟩ := List.forall_mem_cons.1 hpieces
      refine ih _ hpieces fun s hs => ?_
      rcases mem_resolve hslash hs with hs | ⟨rfl, hplain⟩
      · exact hbefore s hs
      · exact ⟨hplain, hsubset⟩
  refine hfold _ [] (fun p hp => Text.of_mem_splitOnChar hp) (fun s hs => ?_) s
    (List.mem_reverse.1 h)
  cases hs

theorem plain_segments (cs : List Char) : ∀ s ∈ segments cs, Plain s :=
  fun _ hs => (of_mem_segments hs).1

theorem foldl_resolve_of_plain (h : ∀ s ∈ segs, Plain s) (before : List (List Char)) :
    segs.foldl resolve before = segs.reverse ++ before := by
  induction segs generalizing before with
  | nil => rfl
  | cons s segs ih =>
    obtain ⟨hs, hsegs⟩ := List.forall_mem_cons.1 h
    rw [List.foldl_cons, resolve_of_plain hs, ih hsegs, List.reverse_cons, List.append_assoc,
      List.singleton_append]

/-- **What follows a slash** works on the segments before it. -/
theorem segments_append_slash (cs rest : List Char) : segments (cs ++ '/' :: rest) =
    ((splitOnChar '/' rest).foldl resolve (segments cs).reverse).reverse := by
  rw [segments, segments, Text.splitOnChar_append_cons, List.foldl_append, List.reverse_reverse]

/-- A slash at the end of a path adds no segment. -/
theorem segments_concat_slash (cs : List Char) : segments (cs ++ ['/']) = segments cs := by
  rw [segments_append_slash]
  exact List.reverse_reverse _

theorem join_cons (s : List Char) (segs : List (List Char)) :
    join (s :: segs) = '/' :: (s ++ join segs) := rfl

theorem splitOnChar_join (h : ∀ s ∈ segs, '/' ∉ s) : splitOnChar '/' (join segs) = [] :: segs := by
  induction segs with
  | nil => rfl
  | cons s segs ih =>
    obtain ⟨hs, hsegs⟩ := List.forall_mem_cons.1 h
    rw [join_cons, Text.splitOnChar_cons_self, Text.splitOnChar_append hs (ih hsegs),
      List.append_nil]

/-- **The segments of a text** that was joined. -/
theorem segments_join (h : ∀ s ∈ segs, Plain s) : segments (join segs) = segs := by
  rw [segments, splitOnChar_join fun s hs => (h s hs).no_slash, List.foldl_cons,
    foldl_resolve_of_plain h]
  exact (congrArg List.reverse (List.append_nil _)).trans (List.reverse_reverse _)

/-! ### Canonical forms -/

theorem join_eq_nil : join segs = [] ↔ segs = [] := by
  cases segs <;> simp [join]

theorem getLast?_join (h : ∀ s ∈ segs, Plain s) : (join segs).getLast? ≠ some '/' := by
  intro hlast
  rcases List.eq_nil_or_concat segs with rfl | ⟨init, s, rfl⟩
  · cases hlast
  · rw [List.concat_eq_append] at h hlast
    have hs : Plain s := h s (by simp)
    rw [join, List.flatMap_append, List.flatMap_singleton, List.append_cons,
      List.getLast?_append_of_ne_nil _ hs.ne_nil] at hlast
    exact hs.no_slash (List.mem_of_getLast? hlast)

theorem cleanChars_eq (cs : List Char) : cleanChars cs =
    if segments cs = [] ∨ cs.getLast? = some '/' then join (segments cs) ++ ['/']
    else join (segments cs) := by
  simp only [← join_eq_nil]
  rfl

/-- **A canonical form** is canonical. -/
theorem canonical_cleanChars (cs : List Char) : Canonical (cleanChars cs) := by
  rw [cleanChars_eq]
  split
  · exact .directory (plain_segments cs)
  · rename_i h
    exact .leaf (plain_segments cs) fun hnil => h (Or.inl hnil)

/-- **A canonical path** is its own canonical form. -/
theorem cleanChars_eq_self (h : Canonical cs) : cleanChars cs = cs := by
  cases h with
  | directory hplain =>
    rw [cleanChars_eq, if_pos (Or.inr List.getLast?_concat), segments_concat_slash,
      segments_join hplain]
  | leaf hplain hne =>
    rw [cleanChars_eq, segments_join hplain, if_neg (not_or.2 ⟨hne, getLast?_join hplain⟩)]

theorem cleanChars_cleanChars (cs : List Char) : cleanChars (cleanChars cs) = cleanChars cs :=
  cleanChars_eq_self (canonical_cleanChars cs)

theorem toList_clean (path : String) : (clean path).toList = cleanChars path.toList :=
  String.toList_ofList

theorem clean_clean (path : String) : clean (clean path) = clean path := by
  rw [clean, toList_clean, cleanChars_cleanChars]
  rfl

/-- A canonical path starts with one slash. -/
theorem Canonical.rooted (h : Canonical cs) : ∃ rest, cs = '/' :: rest ∧ rest.head? ≠ some '/' := by
  have hfirst {s : List Char} (hs : Plain s) (rest : List Char) :
      (s ++ rest).head? ≠ some '/' := by
    obtain ⟨c, s, rfl⟩ := List.exists_cons_of_ne_nil hs.ne_nil
    rintro hc
    cases hc
    exact hs.no_slash List.mem_cons_self
  cases h with
  | @directory segs hplain =>
    cases segs with
    | nil => exact ⟨[], rfl, nofun⟩
    | cons s segs =>
      refine ⟨s ++ (join segs ++ ['/']), ?_, hfirst (hplain s List.mem_cons_self) _⟩
      rw [join_cons, List.cons_append, List.append_assoc]
  | @leaf segs hplain hne =>
    cases segs with
    | nil => exact absurd rfl hne
    | cons s segs => exact ⟨s ++ join segs, rfl, hfirst (hplain s List.mem_cons_self) _⟩

theorem clean_rooted (path : String) :
    ∃ rest, (clean path).toList = '/' :: rest ∧ rest.head? ≠ some '/' := by
  rw [toList_clean]
  exact (canonical_cleanChars path.toList).rooted

theorem subset_join (h : ∀ s ∈ segs, s ⊆ cs) : join segs ⊆ '/' :: cs := by
  intro c hc
  obtain ⟨s, hs, hmem⟩ := List.mem_flatMap.1 hc
  rcases List.mem_cons.1 hmem with rfl | hmem
  · exact List.mem_cons_self
  · exact List.mem_cons_of_mem _ (h s hs hmem)

/-- The canonical form of a path consists of the characters of the path, and of slashes. -/
theorem subset_cleanChars (cs : List Char) : cleanChars cs ⊆ '/' :: cs := by
  have hjoin : join (segments cs) ⊆ '/' :: cs := subset_join fun s hs => (of_mem_segments hs).2
  rw [cleanChars_eq]
  split
  · exact List.append_subset.2 ⟨hjoin, by simp⟩
  · exact hjoin

/-! ### Canonical paths by their segments -/

/-- **The shape of a canonical path**: it starts with a slash, and of the segments after it none is a
dot or two dots, and none but the last is empty. -/
def Shaped (cs : List Char) : Prop :=
  ∃ rest, cs = '/' :: rest ∧ (∀ s ∈ rest.splitOn '/', s ≠ ['.'] ∧ s ≠ ['.', '.']) ∧
    [] ∉ (rest.splitOn '/').dropLast

theorem splitOnChar_eq_splitOn (mark : Char) (cs : List Char) :
    splitOnChar mark cs = cs.splitOn mark := by
  induction cs with
  | nil => exact (List.splitOn_nil mark).symm
  | cons c cs ih =>
    rw [List.splitOn_cons_eq_if_modifyHead, ← ih]
    by_cases hc : c = mark
    · rw [hc, Text.splitOnChar_cons_self, if_pos (beq_self_eq_true mark)]
    · obtain ⟨piece, pieces, hcs⟩ :=
        List.exists_cons_of_ne_nil (Text.splitOnChar_ne_nil mark cs)
      rw [Text.splitOnChar_cons_of_ne hc hcs, hcs, if_neg (by simpa using hc), List.modifyHead_cons]

/-- A text whose first piece is empty, and not the only one, starts with the character. -/
theorem exists_rest_of_split (h : splitOnChar '/' cs = [] :: segs) (hne : segs ≠ []) :
    ∃ rest, cs = '/' :: rest ∧ splitOnChar '/' rest = segs := by
  cases cs with
  | nil => cases h; exact absurd rfl hne
  | cons c rest =>
    by_cases hc : c = '/'
    · rw [hc, Text.splitOnChar_cons_self, List.cons.injEq] at h
      exact ⟨rest, by rw [hc], h.2⟩
    · obtain ⟨piece, pieces, hrest⟩ :=
        List.exists_cons_of_ne_nil (Text.splitOnChar_ne_nil '/' rest)
      rw [Text.splitOnChar_cons_of_ne hc hrest] at h
      cases h

theorem join_splitOnChar (cs : List Char) : join (splitOnChar '/' cs) = '/' :: cs := by
  induction cs with
  | nil => rfl
  | cons c cs ih =>
    by_cases hc : c = '/'
    · rw [hc, Text.splitOnChar_cons_self, join_cons, ih, List.nil_append]
    · obtain ⟨piece, pieces, hcs⟩ :=
        List.exists_cons_of_ne_nil (Text.splitOnChar_ne_nil '/' cs)
      rw [hcs, join_cons, List.cons.injEq] at ih
      rw [Text.splitOnChar_cons_of_ne hc hcs, join_cons, List.cons_append, ih.2]

theorem Canonical.shaped (h : Canonical cs) : Shaped cs := by
  cases h with
  | @directory segs hplain =>
    have hsplit : splitOnChar '/' (join segs ++ ['/']) = [] :: (segs ++ [[]]) := by
      rw [Text.splitOnChar_append_cons, splitOnChar_join fun s hs => (hplain s hs).no_slash]
      rfl
    obtain ⟨rest, hrest, hpieces⟩ := exists_rest_of_split hsplit (by simp)
    rw [splitOnChar_eq_splitOn] at hpieces
    refine ⟨rest, hrest, fun s hs => ?_, fun hnil => ?_⟩
    · rw [hpieces, List.mem_append, List.mem_singleton] at hs
      rcases hs with hs | rfl
      · exact ⟨(hplain s hs).ne_dot, (hplain s hs).ne_dots⟩
      · exact ⟨nofun, nofun⟩
    · rw [hpieces, List.dropLast_concat] at hnil
      exact (hplain [] hnil).ne_nil rfl
  | @leaf segs hplain hne =>
    have hsplit := splitOnChar_join fun s hs => (hplain s hs).no_slash
    obtain ⟨rest, hrest, hpieces⟩ := exists_rest_of_split hsplit hne
    rw [splitOnChar_eq_splitOn] at hpieces
    refine ⟨rest, hrest, fun s hs => ?_, fun hnil => ?_⟩
    · rw [hpieces] at hs
      exact ⟨(hplain s hs).ne_dot, (hplain s hs).ne_dots⟩
    · rw [hpieces] at hnil
      exact (hplain [] (List.dropLast_subset _ hnil)).ne_nil rfl

theorem Shaped.canonical (h : Shaped cs) : Canonical cs := by
  obtain ⟨rest, rfl, hdots, hempty⟩ := h
  rw [← splitOnChar_eq_splitOn] at hdots hempty
  have hplain : ∀ s ∈ splitOnChar '/' rest, s ≠ [] → Plain s := fun s hs hne =>
    ⟨hne, (hdots s hs).1, (hdots s hs).2, (Text.of_mem_splitOnChar hs).1⟩
  rw [← join_splitOnChar rest]
  obtain ⟨init, last, hpieces⟩ :=
    (List.eq_nil_or_concat (splitOnChar '/' rest)).resolve_left (Text.splitOnChar_ne_nil '/' rest)
  rw [List.concat_eq_append] at hpieces
  rw [hpieces] at hplain hempty ⊢
  rw [List.dropLast_concat] at hempty
  have hinit : ∀ s ∈ init, Plain s := fun s hs =>
    hplain s (List.mem_append_left _ hs) fun hnil => hempty (hnil ▸ hs)
  -- the path ends with a slash if its last segment is empty
  by_cases hlast : last = []
  · rw [hlast, join, List.flatMap_append]
    exact .directory hinit
  · refine .leaf (fun s hs => ?_) (by simp)
    rcases List.mem_append.1 hs with hs | hs
    · exact hinit s hs
    · obtain rfl := List.mem_singleton.1 hs
      exact hplain s (by simp) hlast

theorem canonical_iff_shaped : Canonical cs ↔ Shaped cs :=
  ⟨Canonical.shaped, Shaped.canonical⟩

theorem clean_eq_self_iff (path : String) : clean path = path ↔ Canonical path.toList := by
  rw [← String.toList_inj, toList_clean]
  constructor
  · intro h
    rw [← h]
    exact canonical_cleanChars path.toList
  · exact cleanChars_eq_self

/-- When a canonical form ends with a slash. -/
theorem getLast?_cleanChars (cs : List Char) : (cleanChars cs).getLast? = some '/' ↔
    cleanChars cs = ['/'] ∨ cs.getLast? = some '/' := by
  have hjoin := getLast?_join (plain_segments cs)
  rw [cleanChars_eq]
  split
  · rename_i h
    refine iff_of_true List.getLast?_concat (h.imp_left fun hnil => ?_)
    rw [hnil]
    rfl
  · rename_i h
    refine iff_of_false hjoin (not_or.2 ⟨fun hslash => ?_, fun hslash => h (Or.inr hslash)⟩)
    rw [hslash] at hjoin
    exact hjoin rfl

/-- **The fixed points of cleaning** are the paths of canonical shape. Every canonical form has it, and
ends with a slash if it is a slash or the path ends with one, and cleaning it again changes nothing. -/
theorem fixed_iff_shaped (path : String) :
    Shaped (clean path).toList ∧
    ((clean path).toList.getLast? = some '/' ↔
      clean path = "/" ∨ path.toList.getLast? = some '/') ∧
    (clean path = path ↔ Shaped path.toList) ∧
    clean (clean path) = clean path := by
  have hroot : clean path = "/" ↔ cleanChars path.toList = ['/'] := by
    rw [← String.toList_inj, toList_clean]
    rfl
  refine ⟨?_, ?_, ?_, clean_clean path⟩
  · rw [toList_clean, ← canonical_iff_shaped]
    exact canonical_cleanChars path.toList
  · rw [hroot, toList_clean, getLast?_cleanChars]
  · rw [clean_eq_self_iff, canonical_iff_shaped]

/-! ### Paths that go on -/

/-- The segments that remain of a path are those of its canonical form. -/
theorem segments_cleanChars (cs : List Char) : segments (cleanChars cs) = segments cs := by
  rw [cleanChars_eq]
  split
  · rw [segments_concat_slash, segments_join (plain_segments cs)]
  · rw [segments_join (plain_segments cs)]

/-- A canonical form depends on the segments that remain and on the last character. -/
theorem cleanChars_congr {ds : List Char} (hsegments : segments cs = segments ds)
    (hlast : cs.getLast? = ds.getLast?) : cleanChars cs = cleanChars ds := by
  rw [cleanChars_eq, cleanChars_eq, hsegments, hlast]

/-- **A directory may be cleaned first.** The path that is taken from it leads to the same place, also
where it climbs above the directory. -/
theorem clean_append_clean (path rest : String) :
    clean (path ++ "/" ++ rest) = clean (clean path ++ "/" ++ rest) := by
  have hchars (start : String) : (start ++ "/" ++ rest).toList = start.toList ++ '/' :: rest.toList := by
    simp
  have hsegments : segments (path.toList ++ '/' :: rest.toList) =
      segments ((clean path).toList ++ '/' :: rest.toList) := by
    rw [segments_append_slash, segments_append_slash, toList_clean, segments_cleanChars]
  -- the last character of both is a slash or that of the rest
  have hlast (start : List Char) : (start ++ '/' :: rest.toList).getLast? =
      ('/' :: rest.toList).getLast? := List.getLast?_append_of_ne_nil _ (List.cons_ne_nil _ _)
  rw [← String.toList_inj, toList_clean, toList_clean, hchars, hchars]
  exact cleanChars_congr hsegments ((hlast path.toList).trans (hlast (clean path).toList).symm)

example : clean ("/a/b//" ++ "/" ++ "../.././../c/") = "/c/" := by decide +kernel

end RequestRouter.Path
