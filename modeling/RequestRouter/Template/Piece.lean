/-!
# Pieces of a template

A template is literal text with parts in braces. Braces may be nested inside a part, and have to be
balanced.

* `Piece.split?`: the pieces of a template, unless its braces are unbalanced.
* `flatMap_text_of_split?`: the pieces are the template, cut up.
-/

namespace RequestRouter.Template

/-- A piece of a template. -/
inductive Piece where
  | literal (text : List Char)
  /-- A part in braces, without the outer ones. -/
  | braced (body : List Char)
deriving DecidableEq, Repr

namespace Piece

/-- The text of a piece. -/
def text : Piece → List Char
  | literal text => text
  | braced body => '{' :: body ++ ['}']

/-- A literal piece, unless it would be empty. The text is given in reverse. -/
def literalOf (reversed : List Char) : List Piece :=
  if reversed.isEmpty then [] else [literal reversed.reverse]

/-- The pieces of a text at a given depth of braces, the text since the last cut given in
reverse. -/
def splitAt? : Nat → List Char → List Char → Option (List Piece)
  | 0, acc, [] => some (literalOf acc)
  | _ + 1, _, [] => none
  | 0, acc, c :: rest =>
    if c = '{' then (splitAt? 1 [] rest).map (literalOf acc ++ ·)
    else if c = '}' then none
    else splitAt? 0 (c :: acc) rest
  | depth + 1, acc, c :: rest =>
    if c = '{' then splitAt? (depth + 2) (c :: acc) rest
    else if c = '}' then
      if depth = 0 then (splitAt? 0 [] rest).map (braced acc.reverse :: ·)
      else splitAt? depth (c :: acc) rest
    else splitAt? (depth + 1) (c :: acc) rest

/-- The pieces of a template, unless its braces are unbalanced. -/
def split? (template : List Char) : Option (List Piece) :=
  splitAt? 0 [] template

theorem flatMap_text_literalOf (reversed : List Char) :
    (literalOf reversed).flatMap text = reversed.reverse := by
  cases reversed <;> simp [literalOf, text]

theorem flatMap_text_of_splitAt? (depth : Nat) (acc cs : List Char) (pieces : List Piece)
    (h : splitAt? depth acc cs = some pieces) :
    pieces.flatMap text = (if depth = 0 then acc.reverse else '{' :: acc.reverse) ++ cs := by
  fun_induction splitAt? depth acc cs generalizing pieces with
  | case1 acc => simp_all [← flatMap_text_literalOf acc]
  | case2 => simp at h
  | case3 acc rest ih =>
    obtain ⟨tail, ht, rfl⟩ := Option.map_eq_some_iff.1 h
    simp [flatMap_text_literalOf, ih tail ht]
  | case4 => simp at h
  | case5 acc c rest _ _ ih => simp [ih pieces h]
  | case6 depth acc rest ih => simp [ih pieces h]
  | case7 acc rest _ ih =>
    obtain ⟨tail, ht, rfl⟩ := Option.map_eq_some_iff.1 h
    simp [text, ih tail ht]
  | case8 depth acc rest hd _ ih => simp [ih pieces h, hd]
  | case9 depth acc c rest _ _ ih => simp [ih pieces h]

/-- The pieces of a template are the template, cut up. -/
theorem flatMap_text_of_split? {template : List Char} {pieces : List Piece}
    (h : split? template = some pieces) : pieces.flatMap text = template := by
  simpa using flatMap_text_of_splitAt? 0 [] template pieces h

end Piece

end RequestRouter.Template
