import RequestRouter.Error
import RequestRouter.Regex.Basic
import RequestRouter.Template.Piece
import RequestRouter.Text.Split
import RequestRouter.Vars

/-!
# Route templates

A template is literal text with variables in braces: a name, or a name and a pattern after a colon.
It is compiled to an expression that a host or path is matched against, and to the segments from
which one is built.

* `Template.compile`: the template of a text, or what is wrong with it.
* `Template.matchVars?`: the variables that a text gives.
* `Template.build`: the text that variables give.
-/

namespace RequestRouter

/-- A variable of a template. -/
structure Template.Variable where
  name : String
  /-- Matches exactly the values that the variable's pattern admits. -/
  validator : Regex
  /-- The index of its group in the expression of the template. -/
  group : Nat

/-- What a text is built from: literal text, and a placeholder for each variable by index. -/
inductive Template.Segment where
  | literal (text : String)
  | placeholder (index : Nat)
deriving DecidableEq, Repr

/-- A compiled template. -/
structure Template where
  /-- The text that it was compiled from. -/
  text : String
  /-- Matches from the start on and, unless the template is one for prefixes, to the end. -/
  regex : Regex
  segments : List Template.Segment
  /-- In the order in which they stand in the template. -/
  vars : List Template.Variable
  isPrefix : Bool

namespace Template

/-- The pattern of a host variable that has none of its own: up to the next dot. -/
def defaultHostPattern : String := "[^.]+"

/-- The pattern of a path variable that has none of its own: up to the next slash. -/
def defaultPathPattern : String := "[^/]+"

/-- The name of the group of a variable. Groups of the same name inside a pattern are unlikely. -/
def groupName (index : Nat) : String :=
  "__mux_v" ++ toString index

/-- The expression of a variable as part of the whole. -/
def groupText (index : Nat) (pattern : String) : String :=
  "(?P<" ++ groupName index ++ ">" ++ pattern ++ ")"

/-- The expression that a value of a variable has to match. -/
def validatorText (pattern : String) : String :=
  "^(?:" ++ pattern ++ ")$"

/-- The name and the pattern of a part in braces. -/
def nameAndPattern (default : String) (body : List Char) : String × String :=
  let (name, pattern) := Text.splitFirst ':' body
  (.ofList name, (pattern.map String.ofList).getD default)

/-- An expression of a template, or the template's error. -/
def compileRegex (template source : String) : Except RouterError Regex :=
  match Regex.compile source with
  | .ok regex => .ok regex
  | .error e => .error (.invalidPattern template (.rejected e))

/-- A template that is being compiled. -/
structure Draft where
  /-- The expression so far. -/
  pattern : String
  segments : List Segment
  /-- The names and validators of the variables so far. -/
  vars : List (String × Regex)

/-- Where a template starts. -/
def Draft.start : Draft := ⟨"^", [], []⟩

/-- What one piece adds to a template. The names of `reserved` are taken. -/
def Draft.add (template default : String) (reserved : List String) (draft : Draft) :
    Piece → Except RouterError Draft
  | .literal text =>
    let text := String.ofList text
    .ok { draft with
      pattern := draft.pattern ++ Regex.escape text
      segments := draft.segments ++ [.literal text] }
  | .braced body => do
    let (name, pattern) := nameAndPattern default body
    if name.isEmpty || pattern.isEmpty then
      .error (.badTemplatePart (.ofList (Piece.braced body).text))
    else if reserved.contains name || (draft.vars.map (·.1)).contains name then
      .error (.duplicateVariable name)
    else
      let index := draft.vars.length
      let validator ← compileRegex template (validatorText pattern)
      return {
        pattern := draft.pattern ++ groupText index pattern
        segments := draft.segments ++ [.placeholder index]
        vars := draft.vars ++ [(name, validator)] }

/-- The group of a variable, by the name that it was given. -/
def findGroup (template : String) (regex : Regex) (index : Nat) : Except RouterError Nat :=
  match regex.groupNames.findIdx? (· == some (groupName index)) with
  | some group => .ok group
  | none => .error (.invalidPattern template (.groupMissing index))

/-- The template of a text. Variables without a pattern have the default one, and none may have a
name of `reserved` or of another variable. -/
def compile (text default : String) (isPrefix : Bool) (reserved : List String) :
    Except RouterError Template := do
  let pieces ← match Piece.split? text.toList with
    | some pieces => .ok pieces
    | none => .error (.unbalancedBraces text)
  let draft ← pieces.foldlM (Draft.add text default reserved) .start
  let regex ← compileRegex text (if isPrefix then draft.pattern else draft.pattern ++ "$")
  let groups ← (List.range draft.vars.length).mapM (findGroup text regex)
  return {
    text
    regex
    segments := draft.segments
    vars := draft.vars.zipWith (fun v group => ⟨v.1, v.2, group⟩) groups
    isPrefix }

/-- The names of the variables, in order. -/
def varNames (template : Template) : List String :=
  template.vars.map (·.name)

/-- The preferred match of a text with all its groups. -/
def captures? (template : Template) (text : String) : Option Regex.Captures :=
  template.regex.captures? text

/-- The variables of a match. -/
def extract (template : Template) (captures : Regex.Captures) : List (String × String) :=
  template.vars.filterMap fun v => (captures.get? v.group).map fun value => (v.name, value)

/-- The variables that a text gives. -/
def matchVars? (template : Template) (text : String) : Option Vars :=
  (template.captures? text).map fun captures => .ofPairs (template.extract captures)

/-- The values of all variables in order, or the first that is missing. -/
def valuesIn (template : Template) (values : Bindings) : Except RouterError (List String) :=
  template.vars.mapM fun v =>
    match values.get? v.name with
    | some value => .ok value
    | none => .error (.missingRouteVariable v.name)

/-- The text of a segment, given the values of the variables. -/
def Segment.fill (values : List String) : Segment → String
  | literal text => text
  | placeholder index => values.getD index ""

/-- The text that the values of the variables give, without any check. -/
def fill (template : Template) (values : List String) : String :=
  String.join (template.segments.map (Segment.fill values))

/-- The first variable whose value its own pattern does not admit. -/
def culprit? (template : Template) (values : List String) : Option (Variable × String) :=
  (template.vars.zip values).find? fun (v, value) => !v.validator.isMatch value

/-- The text that variables give. All have to be there. The whole is checked first, and only if the
template does not match it are the single values, to name the one to blame. -/
def build (template : Template) (values : Bindings) : Except RouterError String := do
  let values ← template.valuesIn values
  let built := template.fill values
  if template.regex.isMatch built then return built
  match template.culprit? values with
  | some (v, value) => .error (.invalidRouteVariable v.name value v.validator.source)
  | none => return built

end Template

end RequestRouter
