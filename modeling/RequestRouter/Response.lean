import RequestRouter.Bindings
import RequestRouter.Json.Printer

/-!
# Responses

* `Response.json`, `Response.text`: responses with a body of a given kind.
* `Response.redirectPermanent`, `Response.notFound`, `Response.internalServerError`: the answers
  that need no handler.
-/

namespace RequestRouter

/-- A response to a request. -/
structure Response where
  status : UInt16
  headers : Bindings
  body : ByteArray

namespace Response

/-- A response of a status, without headers and body. -/
def new (status : UInt16) : Response := ⟨status, .empty, .empty⟩

/-- A response of status 200. -/
def ok : Response := new 200

instance : Inhabited Response := ⟨ok⟩

/-- Sets a header. Names are taken as they are. -/
def withHeader (response : Response) (name value : String) : Response :=
  { response with headers := response.headers.insert name value }

/-- Sets the status. -/
def withStatus (response : Response) (status : UInt16) : Response :=
  { response with status }

/-- Sets the body. -/
def withBody (response : Response) (body : ByteArray) : Response :=
  { response with body }

/-- Sets the body to a text. -/
def withText (response : Response) (text : String) : Response :=
  response.withBody text.toUTF8

/-- A response with a plain text. -/
def text (body : String) : Response :=
  (ok.withHeader "Content-Type" "text/plain; charset=utf-8").withText body

/-- A permanent redirect. -/
def redirectPermanent (url : String) : Response :=
  (new 301).withHeader "Location" url

/-- What no route answers. -/
def notFound : Response :=
  (new 404).withText "Not Found"

/-- What could not be answered. -/
def internalServerError : Response :=
  (new 500).withText "Internal Server Error"

/-- A response with a JSON value. Data without a JSON form cannot be answered with. -/
def json (data : Option Json) : Response :=
  match data with
  | some value => (ok.withHeader "Content-Type" "application/json").withText value.render
  | none => internalServerError

/-- The body as a text, if it is one. -/
def bodyText? (response : Response) : Option String :=
  String.fromUTF8? response.body

end Response

end RequestRouter
