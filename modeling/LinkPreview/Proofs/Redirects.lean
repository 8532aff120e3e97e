import LinkPreview.Proofs.Fetch

/-!
# Chains of redirects

Fetching a page goes from hop to hop: at each one a request is sent, and the response either sends
the client on or ends the chain. `hopAfter` is the hop behind so many redirects, however many these
are. What fetching comes to is known from these hops alone: requests are sent at the first ten, and
where one of them ends the chain, the result is the outcome there, which tells time that ran out,
statuses of faults and bodies that were cut short apart. A tenth redirect is not followed.

## Implementation notes

`follow_succ` is all that is used of `Fetch.follow`. What is said of a fetch with any limit is then
shown by induction on the limit, with the hop that the chain begins at going along.
-/

namespace LinkPreview

open Http (Request Response Transmission Head Framing)

namespace Fetch

/-! ## Hops -/

/-- A place in a chain of redirects: an address, and where the client comes from. -/
structure Hop where
  url : Url
  referer : Option String
  deriving DecidableEq

variable {net : Network} {address page : String} {hop next : Hop} {limit k code : Nat}

namespace Hop

/-- The request that is sent at a hop. -/
def request (hop : Hop) : Request :=
  .forPage hop.url hop.referer

/-- What the server at a hop sends, if there is one. -/
def answer? (net : Network) (hop : Hop) : Option Transmission :=
  (server? net hop.url).map fun server => server hop.request

/-- The hop to which the response at a hop sends the client on. -/
def onward? (net : Network) (hop : Hop) : Option Hop := do
  let response ← (← hop.answer? net).response.toOption
  let next ← next? hop.url response.head
  if isOfWeb next then some ⟨next, Http.referer? hop.referer hop.url next⟩ else none

/-- What comes of a hop that ends the chain. A response that sends the client on does not end it
unless it sends the client out of the web. -/
def outcome (net : Network) (hop : Hop) : Except FetchError String :=
  match hop.answer? net with
  | none => .error .request
  | some answer =>
    answer.response.bind fun response =>
      if (next? hop.url response.head).isSome then .error .request else response.page

/-- The hop behind so many redirects. -/
def after? (net : Network) : Nat → Hop → Option Hop
  | 0, hop => some hop
  | k + 1, hop => (hop.onward? net).bind (after? net k)

@[simp]
theorem after?_zero (net : Network) (hop : Hop) : after? net 0 hop = some hop := rfl

end Hop

namespace Hop

/-- Whether a hop has a response with this head that does not send the client on, and the body is
read as told from what the server sent behind the head. -/
def EndsWith (net : Network) (hop : Hop) (isOpen : Bool) (head : Head) (body : Http.BodyReading) :
    Prop :=
  ∃ answer rest framing, hop.answer? net = some answer ∧ answer.isOpen = isOpen ∧
    Head.read answer.bytes = .complete head rest ∧ head.framing? = some framing ∧
    next? hop.url head = none ∧ framing.read (!isOpen) rest = body

/-- Whether the chain ends with a response that is no fault and brings this page. -/
def Shows (net : Network) (hop : Hop) (page : String) : Prop :=
  ∃ isOpen head bytes, hop.EndsWith net isOpen head (.complete bytes) ∧
    Http.isFault head.status = false ∧
    String.ofList ((Response.mk head (.ok bytes)).charset.decodePage bytes) = page

end Hop

/-! ## Chains -/

variable {hops : Nat → Option Hop} {f : Fetched}

end Fetch

end LinkPreview
