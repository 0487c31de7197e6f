/-!
# Header names

Header names differ only up to the case of ASCII letters. Each has one canonical form, in which the
first letter and every letter after a hyphen are upper-case and all others lower-case.

* `Header.canonical`: the canonical form of a name.
-/

namespace RequestRouter.Header

/-- The canonical form of a name's characters; `upper` says whether the next letter is upper-case. -/
def canonicalChars : Bool → List Char → List Char
  | _, [] => []
  | upper, c :: rest =>
    (if upper then c.toUpper else c.toLower) :: canonicalChars (c == '-') rest

/-- The canonical form of a header name. -/
def canonical (name : String) : String :=
  .ofList (canonicalChars true name.toList)

end RequestRouter.Header
