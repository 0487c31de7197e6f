import RequestRouter.Unicode.LetterCase

/-!
# Request methods

* `Method.parse`: the method of a name, whatever its case.
* `Method.name`: the name of a method, in upper case.
-/

namespace RequestRouter

/-- Request methods. -/
inductive Method where
  | get
  | post
  | put
  | patch
  | delete
  | head
  | options
  | connect
  | trace
  /-- Any other method, by its name in upper case. -/
  | other (name : String)
deriving DecidableEq, Repr

namespace Method

/-- The method of a name in upper case. -/
def ofUpper (name : String) : Method :=
  if name = "GET" then get
  else if name = "POST" then post
  else if name = "PUT" then put
  else if name = "PATCH" then patch
  else if name = "DELETE" then delete
  else if name = "HEAD" then head
  else if name = "OPTIONS" then options
  else if name = "CONNECT" then connect
  else if name = "TRACE" then trace
  else other name

/-- The method of a name, whatever its case. -/
def parse (name : String) : Method :=
  ofUpper (Unicode.upperCase name)

/-- The name of a method. -/
def name : Method → String
  | get => "GET"
  | post => "POST"
  | put => "PUT"
  | patch => "PATCH"
  | delete => "DELETE"
  | head => "HEAD"
  | options => "OPTIONS"
  | connect => "CONNECT"
  | trace => "TRACE"
  | other name => name

end Method

end RequestRouter
