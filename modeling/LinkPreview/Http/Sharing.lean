import LinkPreview.Http.Endpoint

/-!
# Responses of the server

What a visitor receives for a request. Every page may read the responses, wherever it comes
from: each response says so, and a browser that asks before a request is told what it may
send. What is no request is answered without a look at it.
-/

namespace LinkPreview.Http

/-- A response as it is sent. -/
structure Served where
  status : Nat
  fields : List (String × String)
  body : List UInt8 := []
  deriving DecidableEq, Repr

/-- What a browser's answers to other pages depend on. -/
def varyingFields : String :=
  "origin, access-control-request-method, access-control-request-headers"

/-- What says that every page may read a response. -/
def sharingFields : List (String × String) :=
  [("vary", varyingFields), ("access-control-allow-origin", "*")]

/-- What a browser may send that asks before. -/
def permissionFields : List (String × String) :=
  [("access-control-allow-methods", "GET"), ("access-control-allow-headers", "*")]

/-- The fields of an answer. The length is that of the whole body, even if only the head is
sent. -/
def Answer.fields (a : Answer) : List (String × String) :=
  (a.contentType.map ("content-type", ·)).toList ++ (a.allow.map ("allow", ·)).toList ++
    [("content-length", toString a.body.length)]

/-- The response to what is no request. A target that is too long has a status of its
own. -/
def refusal (target : String) : Served where
  status := if Target.maxBytes < target.utf8ByteSize then 414 else 400
  fields := [("content-length", "0")]

/-- The answer to a browser that asks before a request. -/
def permission (target : Target) : Answer where
  status := 200
  allow := (Endpoint.ofPath? target.path).bind fun _ => Answer.methodNotAllowed.allow

/-- The response to a request, and the pages that were fetched for it. -/
def serve (s : Surroundings) (method target : String) : Served × List String :=
  match Target.read? target with
  | none => (refusal target, [])
  | some t =>
    if !isMethod method then (refusal target, [])
    else if method = "OPTIONS" then
      let a := permission t
      (⟨a.status, a.fields ++ sharingFields ++ permissionFields, []⟩, [])
    else
      let r := reply s method t
      (⟨r.answer.status, r.answer.fields ++ sharingFields, r.answer.sentBody method⟩, r.fetched)

end LinkPreview.Http
