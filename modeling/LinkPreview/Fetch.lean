import LinkPreview.Http.Request
import LinkPreview.Http.Response

/-!
# Fetching pages

A page is fetched by asking the server at its address. A server may send the client on to
another address, but a page counts as not to be had when this goes on for too long.
-/

namespace LinkPreview

/-- A server, by what it sends for each request. -/
abbrev Server := Http.Request → Http.Transmission

/-- The servers that can be reached, by host and port. -/
abbrev Network := Url.Host → Nat → Option Server

/-- What came of fetching a page, and the requests that servers received for it. -/
structure Fetched where
  result : Except FetchError String
  requests : List Http.Request

namespace Fetch

/-- How many requests are made for one page at most. -/
def maxRequests : Nat := 10

/-- Whether an address is one of the web. -/
def isOfWeb (u : Url) : Bool :=
  u.scheme = "http" || u.scheme = "https"

/-- The server at an address. -/
def server? (net : Network) (u : Url) : Option Server := do
  net (← u.host) (← u.port <|> Url.defaultPort? u.scheme)

/-- The statuses that send a client on. -/
def isRedirect (status : Nat) : Bool :=
  [301, 302, 303, 307, 308].contains status

/-- The address to which a response sends the client on. An address that cannot be written
as a target is none. -/
def next? (u : Url) (head : Http.Head) : Option Url := do
  if isRedirect head.status then
    let location ← (head.values "location").head?
    let next ← u.join? (String.ofList (← Text.Utf8.decode? location))
    let _ ← Http.Target.read? next.write
    return next
  else none

/-- Fetches the page at an address of the web, with so many requests at most. -/
def follow (net : Network) : Nat → Url → Option String → Fetched
  | 0, _, _ => ⟨.error .request, []⟩
  | left + 1, u, referer =>
    match server? net u with
    | none => ⟨.error .request, []⟩
    | some server =>
      let request := Http.Request.forPage u referer
      match (server request).response with
      | .error e => ⟨.error e, [request]⟩
      | .ok response =>
        match next? u response.head with
        | none => ⟨response.page, [request]⟩
        | some next =>
          if isOfWeb next then
            let rest := follow net left next (Http.referer? referer u next)
            ⟨rest.result, request :: rest.requests⟩
          else ⟨.error .request, [request]⟩

end Fetch

/-- Fetches a page. -/
def fetch (net : Network) (address : String) : Fetched :=
  match Url.read? address with
  | none => ⟨.error .request, []⟩
  | some u =>
    if Fetch.isOfWeb u then Fetch.follow net Fetch.maxRequests u none
    else ⟨.error .request, []⟩

end LinkPreview
