import RequestRouter.Bindings

/-!
# Route variables

The values that host and path templates extract, by variable name.

* `Vars.require`: a variable that has to be there.
-/

namespace RequestRouter

/-- Values by variable name. -/
abbrev Vars := Bindings

/-- A variable that is asked for and is not there. -/
structure MissingVariable where
  name : String
deriving DecidableEq, Repr

/-- What is said of a missing variable. -/
def MissingVariable.message (missing : MissingVariable) : String :=
  "Missing route variable: " ++ missing.name

/-- The value of a variable that has to be there. -/
def Vars.require (vars : Vars) (name : String) : Except MissingVariable String :=
  match vars.get? name with
  | some value => .ok value
  | none => .error ⟨name⟩

end RequestRouter
