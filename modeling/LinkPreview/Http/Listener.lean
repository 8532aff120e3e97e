import LinkPreview.Url.Host

/-!
# Listening

A server listens at an address of its own machine that nobody else listens at. The machine
has no address but those by which it knows itself.
-/

namespace LinkPreview.Http

/-- Why a server cannot listen. -/
inductive ListenError where
  | inUse
  | notLocal
  deriving DecidableEq, Repr

/-- The report of the system. -/
def ListenError.report : ListenError → String
  | inUse => "Os \x7b code: 98, kind: AddrInUse, message: \"Address already in use\" \x7d"
  | notLocal =>
    "Os \x7b code: 99, kind: AddrNotAvailable, " ++
      "message: \"Cannot assign requested address\" \x7d"

/-- Reads the host at which a server shall listen; brackets around an address with colons
may be missing. -/
def readHost? (host : String) : Option Url.Host :=
  let isBare := host.contains ':' && !host.startsWith "["
  Url.Host.readSpecial? (if isBare then "[" ++ host ++ "]" else host).toList

/-- Whether a host is the machine itself: any of its addresses, or one that only the machine
can reach. -/
def isLocal : Url.Host → Bool
  | .ipv4 n => n = 0 || (Url.Ipv4.bytes n).head? = some 127
  | .ipv6 pieces => pieces = List.replicate 8 0 || pieces = List.replicate 7 0 ++ [1]
  | .domain name => name = "localhost"
  | .opaqueText _ => false

/-- Why a server cannot listen at a host, if it cannot. -/
def listenError? (isOccupied : Bool) (host : String) : Option ListenError :=
  if !(readHost? host).any isLocal then some .notLocal
  else if isOccupied then some .inUse
  else none

end LinkPreview.Http
