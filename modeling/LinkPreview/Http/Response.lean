import LinkPreview.Charset
import LinkPreview.Http.Framing
import LinkPreview.Http.MediaType
import LinkPreview.Outcome

/-!
# Responses as they arrive

A server sends bytes on a connection, and then closes it or leaves it open. Of a response
that never becomes complete on an open connection nothing is known but that time runs out.
-/

namespace LinkPreview.Http

/-- What a server sends on a connection, and whether it leaves the connection open. -/
structure Transmission where
  bytes : List UInt8
  isOpen : Bool := false
  deriving DecidableEq, Repr

/-- A response. Its body may fail to arrive. -/
structure Response where
  head : Head
  body : Except FetchError (List UInt8)

/-- The response in a transmission. -/
def Transmission.response (t : Transmission) : Except FetchError Response :=
  match Head.read t.bytes with
  | .malformed => .error .request
  | .incomplete => .error (if t.isOpen then .timeout else .request)
  | .complete head rest =>
    match head.framing? with
    | none => .error .request
    | some framing =>
      match framing.read (!t.isOpen) rest with
      | .complete bytes => .ok ⟨head, .ok bytes⟩
      | .incomplete => .ok ⟨head, .error (if t.isOpen then .timeout else .body)⟩
      | .malformed => .ok ⟨head, .error .body⟩

namespace Response

/-- The charset of the body, as far as the head tells. -/
def charset (r : Response) : Charset :=
  (do
    let value ← (r.head.values "content-type").head?
    Charset.ofLabel? (← MediaType.charset? (← visibleText? value))).getD .utf8

/-- The page that a response brings, if it tells of no fault. -/
def page (r : Response) : Except FetchError String :=
  if isFault r.head.status then .error (.status r.head.status)
  else r.body.map fun bytes => String.ofList (r.charset.decodePage bytes)

end Response

end LinkPreview.Http
