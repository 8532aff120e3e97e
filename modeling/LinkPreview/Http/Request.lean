import LinkPreview.Url.Address

/-!
# Requests for pages

A page is asked for by the path and the query of its address. A request that follows
another one tells where it comes from, without saying who asks.
-/

namespace LinkPreview.Http

/-- A request. -/
structure Request where
  method : String := "GET"
  target : String
  /-- The header fields, with names in small letters. -/
  fields : List (String × String) := []
  deriving DecidableEq, Repr

/-- The value of a header field. -/
def Request.field? (r : Request) (name : String) : Option String :=
  r.fields.lookup name

/-- What the client calls itself. -/
def userAgent : String := "BearLink-Preview/1.0"

/-- Where a request for an address comes from: the address before it, without a user, a
password and a fragment. If that was more secret than the next one, the client only repeats
what it said when it asked for it. -/
def referer? (said : Option String) (before next : Url) : Option String :=
  if next.scheme = "http" && before.scheme = "https" then said
  else some { before with username := "", password := "" }.withoutFragment

/-- The request for an address. -/
def Request.forPage (u : Url) (referer : Option String) : Request where
  target := u.requestTarget
  fields := [("accept", "*/*"), ("user-agent", userAgent)] ++
    (referer.map ("referer", ·)).toList

end LinkPreview.Http
