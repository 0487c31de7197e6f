import RequestRouter.Error
import RequestRouter.Routing.Event

/-!
# What the routers of a tree share

All routers of a tree share one table of route names, and report to one log. A configuration call
works on both; what it has done to them stays done even if it fails.

* `Registry.register`: takes a name for a position, unless it is taken.
* `Setup`: configuration calls.
-/

namespace RequestRouter

/-- Route names and the positions that were given them, in the order of registration. -/
structure NameTable where
  entries : List (String × Position)
deriving DecidableEq, Repr

namespace NameTable

/-- The position of a name. -/
def find? (table : NameTable) (name : String) : Option Position :=
  table.entries.lookup name

/-- One more name. -/
def insert (table : NameTable) (name : String) (position : Position) : NameTable :=
  ⟨table.entries ++ [(name, position)]⟩

end NameTable

/-- The names of a tree and the log of what happened to it. -/
structure Registry where
  names : NameTable
  /-- In the order in which they happened. -/
  events : List Event
deriving DecidableEq, Repr

/-- No name and no event. -/
def Registry.empty : Registry := ⟨⟨[]⟩, []⟩

/-- Configuration calls: they may fail, and work on the registry. -/
abbrev Setup := ExceptT RouterError (StateM Registry)

namespace Setup

/-- A call that does not touch the registry. -/
def ofExcept {α : Type} (result : Except RouterError α) : Setup α :=
  ExceptT.mk (pure result)

/-- Reports an event. -/
def report (event : Event) : Setup Unit :=
  modify fun registry => { registry with events := registry.events ++ [event] }

/-- Takes a name for a position, unless it is taken anywhere in the tree. -/
def register (name : String) (position : Position) : Setup Unit := do
  let registry ← get
  if (registry.names.find? name).isSome then throw (.duplicateRouteName name)
  set { registry with names := registry.names.insert name position }
  report (.nameRegistered name position)

end Setup

end RequestRouter
