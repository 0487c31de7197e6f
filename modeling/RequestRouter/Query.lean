import RequestRouter.MultiMap
import RequestRouter.Text.Percent
import RequestRouter.Text.Split

/-!
# Query strings

A query string is form-encoded: parameters stand between ampersands, and the first equals sign of
each divides its key from its value.

* `Query.pairs`: the parameters of a query string in order.
* `Query.parse`: the same by key.
-/

namespace RequestRouter.Query

/-- One parameter, decoded. Without an equals sign its value is empty. -/
def parameter (piece : List Char) : String × String :=
  let (key, value) := Text.splitFirst '=' piece
  (.ofList (Text.Percent.decode key), .ofList (Text.Percent.decode (value.getD [])))

/-- The parameters of a query string in order. Empty pieces are none. -/
def pairs (query : String) : List (String × String) :=
  ((Text.splitOnChar '&' query.toList).filter (· ≠ [])).map parameter

/-- The parameters of a query string by key. -/
def parse (query : String) : MultiMap :=
  .ofPairs (pairs query)

end RequestRouter.Query
