import RequestRouter.Text.Split

/-!
# Canonical paths

A request path is canonical if it starts with a slash and has no segment that is empty, a dot or two
dots, a trailing slash apart.

* `Path.clean`: the canonical form of a path.
-/

namespace RequestRouter.Path

/-- What one segment of a path does to the segments before it, which are given latest first: an
empty one and a dot do nothing, two dots take one away. -/
def resolve (before : List (List Char)) (segment : List Char) : List (List Char) :=
  if segment = [] ∨ segment = ['.'] then before
  else if segment = ['.', '.'] then before.tail
  else segment :: before

/-- The segments that remain of a path, in order. -/
def segments (cs : List Char) : List (List Char) :=
  ((Text.splitOnChar '/' cs).foldl resolve []).reverse

/-- The canonical form of a path's characters. A trailing slash is kept, and a path without segments
is a slash. -/
def cleanChars (cs : List Char) : List Char :=
  let body := (segments cs).flatMap ('/' :: ·)
  if body = [] ∨ cs.getLast? = some '/' then body ++ ['/'] else body

/-- The canonical form of a path. -/
def clean (path : String) : String :=
  .ofList (cleanChars path.toList)

end RequestRouter.Path
