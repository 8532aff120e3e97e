import LinkPreview.Fetch

/-!
# Sites

A site is a server with a fixed answer for each target. An answer may come, or never come,
or come without an end.
-/

namespace LinkPreview.Http

/-- How an answer comes. -/
inductive Manner where
  | closing
  | silent
  | lingering
  deriving DecidableEq, Repr

/-- The answer for a target. -/
structure Route where
  status : Nat
  fields : List (String × String) := []
  body : List UInt8 := []
  manner : Manner := .closing
  deriving DecidableEq, Repr

namespace Route

/-- The answer where a site has none. -/
def missing : Route := { status := 404 }

/-- Whether the fields say where the body ends. -/
def isFramed (r : Route) : Bool :=
  r.fields.any fun (name, _) =>
    ["content-length", "transfer-encoding"].contains (String.ofList (Text.asciiLower name.toList))

/-- The header fields that are sent. -/
def sentFields (r : Route) : List (String × String) :=
  r.fields ++ (if r.isFramed then [] else [("content-length", toString r.body.length)]) ++
    [("connection", "close")]

/-- The head as it is sent. -/
def writeHead (r : Route) : String :=
  "HTTP/1.1 " ++ toString r.status ++ " X\r\n" ++
    String.join (r.sentFields.map fun (name, value) => name ++ ": " ++ value ++ "\r\n") ++ "\r\n"

/-- What is sent. -/
def transmission (r : Route) : Transmission :=
  let bytes := Text.Utf8.encode r.writeHead.toList ++ r.body
  match r.manner with
  | .closing => ⟨bytes, false⟩
  | .silent => ⟨[], true⟩
  | .lingering => ⟨bytes, true⟩

end Route

/-- A site, by its routes. -/
abbrev Site := List (String × Route)

/-- The server of a site. -/
def Site.server (s : Site) : Server :=
  fun request => ((s.lookup request.target).getD .missing).transmission

/-- The network in which a site is all that can be reached. -/
def Site.network (s : Site) (host : Url.Host) (port : Nat) : Network :=
  fun h p => if h = host && p = port then some s.server else none

end LinkPreview.Http
