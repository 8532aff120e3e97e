/-!
# Settlements
-/

namespace LinkPreview.Queue

/-- How a delivery is settled: the broker may forget it, must drop it, or shall deliver it
again. -/
inductive Settlement where
  | ack
  | reject
  | requeue
  deriving DecidableEq, Repr

end LinkPreview.Queue
