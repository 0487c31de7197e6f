import RequestRouter.Header
import RequestRouter.Json.Parser
import RequestRouter.Method
import RequestRouter.Query
import RequestRouter.Vars

/-!
# Requests

A request target is absolute, with a scheme and a host before the path, or it starts with the path.
Query and fragment are cut off the end.

* `Target.parse`: the parts of a target.
* `Request.new`: the request for a target.
* `Request.headerValues`, `Request.queryValues`: what a request carries under a key.
-/

namespace RequestRouter

/-- The parts of a request target. The fragment is dropped. -/
structure Target where
  /-- In lower case, empty unless the target is absolute. -/
  scheme : String
  /-- All that stands before the first slash; empty unless the target is absolute. -/
  host : String
  path : String
  /-- The query string, without its question mark. -/
  query : String
deriving DecidableEq, Repr

namespace Target

/-- The characters of a scheme. -/
def isSchemeChar (c : Char) : Bool :=
  c.isAlphanum || c = '+' || c = '-' || c = '.'

/-- The text before the first place where a scheme would end, and the text after it. -/
def splitScheme? : List Char → Option (List Char × List Char)
  | [] => none
  | ':' :: '/' :: '/' :: rest => some ([], rest)
  | c :: rest => (splitScheme? rest).map fun (before, after) => (c :: before, after)

/-- The scheme of an absolute target, and the rest of it. -/
def absolute? (cs : List Char) : Option (List Char × List Char) :=
  (splitScheme? cs).filter fun (scheme, _) => scheme ≠ [] ∧ scheme.all isSchemeChar

/-- The host and the path of what follows a scheme. Without a slash the path is the root. -/
def splitHost (cs : List Char) : List Char × List Char :=
  match cs.span (· ≠ '/') with
  | (host, []) => (host, ['/'])
  | (host, path) => (host, path)

/-- The parts of a target. -/
def parse (target : String) : Target :=
  let cs := target.toList
  let (scheme, rest) := (absolute? cs).getD ([], cs)
  let (rest, _) := Text.splitFirst '#' rest
  let (rest, query) := Text.splitFirst '?' rest
  let (host, path) := if scheme = [] then ([], rest) else splitHost rest
  { scheme := Unicode.lowerCase (.ofList scheme)
    host := .ofList host
    path := .ofList path
    query := .ofList (query.getD []) }

end Target

/-- A request as the router sees it. -/
structure Request where
  method : Method
  /-- In lower case; empty if the target had none. -/
  scheme : String
  /-- As the target spells it; empty if it had none. -/
  host : String
  path : String
  query : MultiMap
  /-- By canonical header name. -/
  headers : MultiMap
  body : ByteArray
  /-- Set when the request is dispatched to a route. -/
  vars : Vars

namespace Request

/-- The request for a target, without headers and body. -/
def new (method : Method) (target : String) : Request :=
  let parts := Target.parse target
  { method
    scheme := parts.scheme
    host := parts.host
    path := parts.path
    query := Query.parse parts.query
    headers := .empty
    body := .empty
    vars := .empty }

/-- Adds a header value. -/
def addHeader (request : Request) (name value : String) : Request :=
  { request with headers := request.headers.add (Header.canonical name) value }

/-- Adds a query parameter. -/
def addQuery (request : Request) (key value : String) : Request :=
  { request with query := request.query.add key value }

/-- Replaces the body. -/
def withBody (request : Request) (body : ByteArray) : Request :=
  { request with body }

/-- All values of a header, whatever the case of its name. -/
def headerValues (request : Request) (name : String) : List String :=
  request.headers.values (Header.canonical name)

/-- The first value of a header. -/
def header? (request : Request) (name : String) : Option String :=
  (request.headerValues name).head?

/-- All values of a query parameter. -/
def queryValues (request : Request) (key : String) : List String :=
  request.query.values key

/-- The first value of a query parameter. -/
def query? (request : Request) (key : String) : Option String :=
  (request.queryValues key).head?

/-- The body as a text, if it is one. -/
def bodyText? (request : Request) : Option String :=
  String.fromUTF8? request.body

/-- The body as a JSON value, if it is one. -/
def json? (request : Request) : Option Json :=
  request.bodyText?.bind Json.parse?

end Request

end RequestRouter
