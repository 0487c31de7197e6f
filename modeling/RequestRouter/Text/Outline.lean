/-!
# Outlines

A value shown as nested records, lists and calls, on one line or indented.

* `Outline.inline`: the outline on one line.
* `Outline.indented`: the outline with one part to a line.
-/

namespace RequestRouter.Text

/-- The structure of a value as it is shown. -/
inductive Outline where
  | leaf (text : String)
  /-- A name with one argument in parentheses. -/
  | call (name : String) (argument : Outline)
  | list (elements : List Outline)
  | record (name : String) (fields : List (String × Outline))

namespace Outline

/-- A value that may be absent. -/
def ofOption : Option Outline → Outline
  | some value => call "Some" value
  | none => leaf "None"

mutual

/-- The outline on one line. -/
def inline : Outline → String
  | leaf text => text
  | call name argument => name ++ "(" ++ argument.inline ++ ")"
  | list elements => "[" ++ ", ".intercalate (inlineAll elements) ++ "]"
  | record name fields => name ++ " \x7b " ++ ", ".intercalate (inlineFields fields) ++ " \x7d"

/-- Several outlines, each on one line. -/
def inlineAll : List Outline → List String
  | [] => []
  | o :: rest => o.inline :: inlineAll rest

/-- Several fields, each on one line. -/
def inlineFields : List (String × Outline) → List String
  | [] => []
  | (name, o) :: rest => (name ++ ": " ++ o.inline) :: inlineFields rest

end

/-- The blanks at the start of a line of a given level. -/
def margin (level : Nat) : String :=
  .ofList (List.replicate (4 * level) ' ')

mutual

/-- The outline with one part to a line, its lines after the first indented to a level. -/
def indentedAt (level : Nat) : Outline → String
  | leaf text => text
  | call name argument =>
    name ++ "(\n" ++ margin (level + 1) ++ argument.indentedAt (level + 1) ++ ",\n" ++
      margin level ++ ")"
  | list [] => "[]"
  | list (o :: rest) => "[\n" ++ indentedAll (level + 1) (o :: rest) ++ margin level ++ "]"
  | record name fields =>
    name ++ " \x7b\n" ++ indentedFields (level + 1) fields ++ margin level ++ "\x7d"

/-- Several outlines, each from a line of its own on. -/
def indentedAll (level : Nat) : List Outline → String
  | [] => ""
  | o :: rest => margin level ++ o.indentedAt level ++ ",\n" ++ indentedAll level rest

/-- Several fields, each from a line of its own on. -/
def indentedFields (level : Nat) : List (String × Outline) → String
  | [] => ""
  | (name, o) :: rest =>
    margin level ++ name ++ ": " ++ o.indentedAt level ++ ",\n" ++ indentedFields level rest

end

/-- The outline with one part to a line. -/
def indented (outline : Outline) : String :=
  outline.indentedAt 0

end Outline

end RequestRouter.Text
