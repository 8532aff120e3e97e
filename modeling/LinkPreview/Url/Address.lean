import LinkPreview.Url.Host

/-!
# Addresses

An address is kept in its parts, each as it is written. Schemes that browsers know,
the special ones, have a default port and always a path; a port that is the default
one is not kept.
-/

namespace LinkPreview

/-- The path of an address: segments, each behind a slash, or a text without
structure. -/
inductive Url.Path where
  | segments (list : List String)
  | flat (text : String)
  deriving DecidableEq, Repr

/-- An address. -/
structure Url where
  scheme : String
  username : String := ""
  password : String := ""
  host : Option Url.Host := none
  port : Option Nat := none
  path : Url.Path := .segments []
  query : Option String := none
  fragment : Option String := none
  deriving DecidableEq, Repr

namespace Url

/-- How a scheme is treated. -/
inductive SchemeKind where
  | file
  | special
  | other
  deriving DecidableEq, Repr

/-- The kind of a scheme. -/
def schemeKind (scheme : String) : SchemeKind :=
  if scheme = "file" then .file
  else if ["http", "https", "ws", "wss", "ftp"].contains scheme then .special
  else .other

/-- The port of a scheme where none is given. -/
def defaultPort? (scheme : String) : Option Nat :=
  match scheme with
  | "http" | "ws" => some 80
  | "https" | "wss" => some 443
  | "ftp" => some 21
  | _ => none

/-- The user name and the password as they stand in front of a host. -/
def userInfo (u : Url) : String :=
  if u.username = "" && u.password = "" then ""
  else if u.password = "" then u.username ++ "@"
  else u.username ++ ":" ++ u.password ++ "@"

/-- The port as it stands behind a host. -/
def portSuffix (u : Url) : String :=
  match u.port with
  | none => ""
  | some n => ":" ++ toString n

/-- The path as it is written. -/
def Path.write : Path → String
  | segments list => String.join (list.map ("/" ++ ·))
  | flat text => text

/-- Whether a path would be taken for a host if it followed the scheme. -/
def Path.looksLikeHost : Path → Bool
  | segments ("" :: _ :: _) => true
  | _ => false

/-- The address up to its path. Without a host, a path that would be taken for one is
kept apart by a dot. -/
def beforePath (u : Url) : String :=
  match u.host with
  | some host => u.scheme ++ "://" ++ u.userInfo ++ host.write ++ u.portSuffix
  | none =>
    if u.scheme = "file" then "file://"
    else u.scheme ++ ":" ++ (if u.path.looksLikeHost then "/." else "")

/-- The query as it stands behind a path. -/
def querySuffix (u : Url) : String :=
  match u.query with
  | none => ""
  | some q => "?" ++ q

/-- The address without its fragment. -/
def withoutFragment (u : Url) : String :=
  u.beforePath ++ u.path.write ++ u.querySuffix

/-- The address as it is written. -/
def write (u : Url) : String :=
  match u.fragment with
  | none => u.withoutFragment
  | some f => u.withoutFragment ++ "#" ++ f

/-- What a request for the address asks a server for. -/
def requestTarget (u : Url) : String :=
  u.path.write ++ u.querySuffix

end Url

end LinkPreview
