/-!
# Splitting at a character

* `splitOnChar`: all pieces between the occurrences of a character.
* `splitFirst`: the text before the first occurrence, and what follows it.
* `flatten_splitOnChar`: the pieces with the character between them are the text.
* `splitOnChar_append_cons`, `splitOnChar_append`: the pieces of a text that goes on with the character,
  or up to the next one.
* `of_mem_splitOnChar`: what a piece consists of.
* `splitFirst_of_not_mem`, `splitFirst_append`, `not_mem_splitFirst`: what is before the first occurrence.
-/

namespace RequestRouter.Text

/-- The pieces between the occurrences of `mark`, always one more than there are of those. -/
def splitOnChar (mark : Char) : List Char → List (List Char)
  | [] => [[]]
  | c :: rest =>
    if c = mark then [] :: splitOnChar mark rest
    else match splitOnChar mark rest with
      | piece :: pieces => (c :: piece) :: pieces
      | [] => [[c]]

/-- The text before the first occurrence of `mark`, and the text after it if it occurs. -/
def splitFirst (mark : Char) : List Char → List Char × Option (List Char)
  | [] => ([], none)
  | c :: rest =>
    if c = mark then ([], some rest)
    else
      let (before, after) := splitFirst mark rest
      (c :: before, after)

theorem splitOnChar_ne_nil (mark : Char) (cs : List Char) : splitOnChar mark cs ≠ [] := by
  cases cs with
  | nil => simp [splitOnChar]
  | cons c rest =>
    unfold splitOnChar
    split
    · simp
    · split <;> simp

/-- The pieces with `mark` between them are the text that was split. -/
theorem flatten_splitOnChar (mark : Char) (cs : List Char) :
    ((splitOnChar mark cs).intersperse [mark]).flatten = cs := by
  induction cs with
  | nil => rfl
  | cons c rest ih =>
    unfold splitOnChar
    split
    · next h =>
      obtain ⟨piece, pieces, hp⟩ := List.exists_cons_of_ne_nil (splitOnChar_ne_nil mark rest)
      rw [hp] at ih ⊢
      simp [h, ← ih]
    · next h =>
      split
      · next piece pieces hp =>
        rw [hp] at ih
        cases pieces <;> simp_all
      · next hp => exact absurd hp (splitOnChar_ne_nil mark rest)

theorem splitOnChar_cons_self (mark : Char) (cs : List Char) :
    splitOnChar mark (mark :: cs) = [] :: splitOnChar mark cs := by
  rw [splitOnChar, if_pos rfl]

theorem splitOnChar_cons_of_ne {mark c : Char} (h : c ≠ mark) {cs piece : List Char}
    {pieces : List (List Char)} (hcs : splitOnChar mark cs = piece :: pieces) :
    splitOnChar mark (c :: cs) = (c :: piece) :: pieces := by
  rw [splitOnChar, if_neg h, hcs]

/-- A text is split where the character stands, whatever there is on either side. -/
theorem splitOnChar_append_cons (mark : Char) (cs rest : List Char) :
    splitOnChar mark (cs ++ mark :: rest) = splitOnChar mark cs ++ splitOnChar mark rest := by
  induction cs with
  | nil => exact splitOnChar_cons_self mark rest
  | cons c cs ih =>
    rw [List.cons_append]
    by_cases h : c = mark
    · rw [h, splitOnChar_cons_self, splitOnChar_cons_self, ih, List.cons_append]
    · obtain ⟨piece, pieces, hcs⟩ := List.exists_cons_of_ne_nil (splitOnChar_ne_nil mark cs)
      rw [hcs, List.cons_append] at ih
      rw [splitOnChar_cons_of_ne h ih, splitOnChar_cons_of_ne h hcs, List.cons_append]

/-- Text without the character belongs to the piece that comes next. -/
theorem splitOnChar_append {mark : Char} {cs rest piece : List Char} {pieces : List (List Char)}
    (h : mark ∉ cs) (hrest : splitOnChar mark rest = piece :: pieces) :
    splitOnChar mark (cs ++ rest) = (cs ++ piece) :: pieces := by
  induction cs with
  | nil => exact hrest
  | cons c cs ih =>
    rw [List.mem_cons, not_or] at h
    rw [List.cons_append, splitOnChar_cons_of_ne (Ne.symm h.1) (ih h.2), List.cons_append]

/-- A piece consists of characters of the text, without those at which it was split. -/
theorem of_mem_splitOnChar {mark : Char} {cs piece : List Char}
    (h : piece ∈ splitOnChar mark cs) : mark ∉ piece ∧ piece ⊆ cs := by
  induction cs generalizing piece with
  | nil =>
    rw [splitOnChar, List.mem_singleton] at h
    rw [h]
    exact ⟨List.not_mem_nil, List.nil_subset _⟩
  | cons c cs ih =>
    -- only the first piece is longer than a piece of the rest
    by_cases hc : c = mark
    · rw [hc, splitOnChar_cons_self, List.mem_cons] at h
      rcases h with rfl | h
      · exact ⟨List.not_mem_nil, List.nil_subset _⟩
      · exact ⟨(ih h).1, List.subset_cons_of_subset c (ih h).2⟩
    · obtain ⟨first, others, hcs⟩ := List.exists_cons_of_ne_nil (splitOnChar_ne_nil mark cs)
      rw [hcs] at ih
      rw [splitOnChar_cons_of_ne hc hcs, List.mem_cons] at h
      rcases h with rfl | h
      · obtain ⟨hmark, hsubset⟩ := ih List.mem_cons_self
        exact ⟨List.not_mem_cons_of_ne_of_not_mem (Ne.symm hc) hmark,
          List.cons_subset_cons c hsubset⟩
      · obtain ⟨hmark, hsubset⟩ := ih (List.mem_cons_of_mem _ h)
        exact ⟨hmark, List.subset_cons_of_subset c hsubset⟩

/-- A text without the character is not split. -/
theorem splitFirst_of_not_mem {mark : Char} {cs : List Char} (h : mark ∉ cs) :
    splitFirst mark cs = (cs, none) := by
  induction cs with
  | nil => rfl
  | cons c rest ih =>
    rw [List.mem_cons, not_or] at h
    rw [splitFirst, if_neg (Ne.symm h.1), ih h.2]

theorem splitFirst_append {mark : Char} {cs : List Char} (h : mark ∉ cs) (rest : List Char) :
    splitFirst mark (cs ++ mark :: rest) = (cs, some rest) := by
  induction cs with
  | nil => rw [List.nil_append, splitFirst, if_pos rfl]
  | cons c cs ih =>
    rw [List.mem_cons, not_or] at h
    rw [List.cons_append, splitFirst, if_neg (Ne.symm h.1), ih h.2]

theorem not_mem_splitFirst (mark : Char) (cs : List Char) : mark ∉ (splitFirst mark cs).1 := by
  induction cs with
  | nil => exact List.not_mem_nil
  | cons c rest ih =>
    rw [splitFirst]
    split
    · exact List.not_mem_nil
    · next h => exact List.not_mem_cons_of_ne_of_not_mem (Ne.symm h) ih

theorem splitFirst_prefix (mark : Char) (cs : List Char) : (splitFirst mark cs).1 <+: cs := by
  induction cs with
  | nil => exact List.prefix_rfl
  | cons c rest ih =>
    rw [splitFirst]
    split
    · exact List.nil_prefix
    · exact (List.prefix_cons_inj c).2 ih

end RequestRouter.Text
