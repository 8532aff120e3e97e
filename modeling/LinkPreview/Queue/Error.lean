/-!
# Errors of the queue
-/

namespace LinkPreview.Queue

/-- Why nothing more comes from a broker. -/
inductive Error where
  | transport (what : String)
  | streamClosed
  deriving DecidableEq, Repr

/-- What an error says. -/
def Error.message : Error → String
  | transport what => "broker transport error: " ++ what
  | streamClosed => "consumer stream closed by broker"

end LinkPreview.Queue
