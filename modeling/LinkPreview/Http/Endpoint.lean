import LinkPreview.Http.Form
import LinkPreview.Http.Target
import LinkPreview.Message
import LinkPreview.Outcome

/-!
# The endpoints of the service

Two endpoints tell that the service is there, and one answers with the preview of the page
whose address it is given. Only an address that is missing, given twice or not an address
of the web is an error; a page that cannot be fetched has an empty preview.
-/

namespace LinkPreview.Http

/-- What an endpoint refuses. -/
inductive RequestError where
  | validation (what : String)
  | missingParameter (name : String)
  deriving DecidableEq, Repr

namespace RequestError

/-- What an error says. -/
def message : RequestError → String
  | validation what => "Validation error: " ++ what
  | missingParameter name => "Missing parameter: " ++ name

/-- The status of the answer. -/
def status : RequestError → Nat
  | validation _ => 400
  | missingParameter _ => 422

/-- What the answer says. -/
def detail : RequestError → String
  | validation what => what
  | missingParameter name => "Missing required query parameter: " ++ name

end RequestError

/-- An answer to a request. -/
structure Answer where
  status : Nat
  contentType : Option String := none
  allow : Option String := none
  body : List UInt8 := []
  deriving DecidableEq, Repr

namespace Answer

/-- An answer in JSON. -/
def json (status : Nat) (j : Json) : Answer where
  status := status
  contentType := some "application/json"
  body := j.write

/-- An answer in plain text. -/
def text (status : Nat) (s : String) : Answer where
  status := status
  contentType := some "text/plain; charset=utf-8"
  body := Text.Utf8.encode s.toList

/-- The answer to a request that an endpoint refuses. -/
def ofError (e : RequestError) : Answer :=
  json e.status (.ofMembers [("detail", .ofText e.detail)])

/-- The answer where there is no endpoint. -/
def notFound : Answer := { status := 404 }

/-- The answer to a method that no endpoint knows. -/
def methodNotAllowed : Answer := { status := 405, allow := some "GET,HEAD" }

/-- What is sent of the body: nothing to a request for the head alone. -/
def sentBody (method : String) (a : Answer) : List UInt8 :=
  if method = "HEAD" then [] else a.body

end Answer

/-- The endpoints. -/
inductive Endpoint where
  | health
  | ready
  | preview
  deriving DecidableEq, Repr

/-- The endpoint at a path. -/
def Endpoint.ofPath? (path : String) : Option Endpoint :=
  match path with
  | "/health" => some health
  | "/ready" => some ready
  | "/preview" => some preview
  | _ => none

/-- An answer, and the pages that were fetched for it. -/
structure Reply where
  answer : Answer
  fetched : List String := []
  deriving DecidableEq, Repr

/-- What the answers of an endpoint depend on besides the request: what is found at an
address, and the time. -/
structure Surroundings where
  fetch : String → Except FetchError String
  now : Moment

/-- The address that a query gives. -/
def pageAddress (query : List (String × String)) : Except Answer String :=
  match query.filter (·.1 == "url") with
  | [] => .error (.ofError (.missingParameter "url"))
  | [(_, url)] => .ok url
  | _ => .error (.text 400 "Failed to deserialize query string: duplicate field \x60url\x60")

/-- The reply with the preview of a page. -/
def previewReply (s : Surroundings) (url : String) : Reply :=
  if Url.isPreviewable url then
    let visit := visit s.fetch url
    ⟨.json 200 (Preview.toJson ⟨url, visit.outcome.metadata, s.now⟩), visit.fetched⟩
  else ⟨.ofError (.validation "Invalid URL. Must be a valid HTTP or HTTPS URL."), []⟩

/-- The reply of an endpoint to a request for a page or its head. -/
def Endpoint.reply (s : Surroundings) (query : Option String) : Endpoint → Reply
  | health => ⟨.json 200 (.ofMembers [("status", .ofText "ok")]), []⟩
  | ready => ⟨.json 200 (.ofMembers [("status", .ofText "ready")]), []⟩
  | preview =>
    match pageAddress (Form.read (query.getD "")) with
    | .ok url => previewReply s url
    | .error a => ⟨a, []⟩

/-- The reply to a request. -/
def reply (s : Surroundings) (method : String) (target : Target) : Reply :=
  match Endpoint.ofPath? target.path with
  | none => ⟨.notFound, []⟩
  | some endpoint =>
    if method = "GET" || method = "HEAD" then endpoint.reply s target.query
    else ⟨.methodNotAllowed, []⟩

/-- The reply to a request as it is written, if it is written well. -/
def reply? (s : Surroundings) (method target : String) : Option Reply := do
  let target ← Target.read? target
  if isMethod method then return reply s method target else none

end LinkPreview.Http
