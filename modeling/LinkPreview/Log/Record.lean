/-!
# Log records

The service reports what it does in records. A record has a target, which tells the part of
the service that it comes from, and a level, which tells how grave it is.
-/

namespace LinkPreview.Log

/-- How grave a record is. -/
inductive Level where
  | error
  | warn
  | info
  | debug
  | trace
  deriving DecidableEq, Repr

namespace Level

/-- The levels in order, from the gravest. -/
def all : List Level := [error, warn, info, debug, trace]

/-- The place of a level in the order, from 1. -/
def rank : Level → Nat
  | error => 1
  | warn => 2
  | info => 3
  | debug => 4
  | trace => 5

/-- The name of a level. -/
def name : Level → String
  | error => "ERROR"
  | warn => "WARN"
  | info => "INFO"
  | debug => "DEBUG"
  | trace => "TRACE"

end Level

/-- What a field of a record tells. -/
inductive Value where
  | text (s : String)
  | number (n : Nat)
  deriving DecidableEq, Repr

/-- A record. -/
structure Record where
  target : String
  level : Level
  message : String
  fields : List (String × Value) := []
  deriving DecidableEq, Repr

end LinkPreview.Log
