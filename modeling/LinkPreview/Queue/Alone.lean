import LinkPreview.Message
import LinkPreview.Outcome
import LinkPreview.Queue.Settlement

/-!
# A job on its own

What a delivery comes to when nothing interferes: the pages that are fetched for it, the
result that is published, and how it is settled. A delivery that is no job has no result
and must be dropped; any other one is over when its result is published, and is delivered
again if that fails.
-/

namespace LinkPreview.Queue

/-- What a delivery comes to. -/
structure Processed where
  fetched : List String := []
  result : Option JobResult := none
  deriving DecidableEq

/-- Processes a delivery, with the pages that can be fetched and the present time. -/
def process (fetch : String → Except FetchError String) (now : Moment)
    (payload : List UInt8) : Processed :=
  match Job.decode? payload with
  | none => {}
  | some job =>
    let visit := visit fetch job.url
    ⟨visit.fetched, some ⟨job.id, visit.outcome.metadata, now⟩⟩

/-- How a delivery is settled whose result was published, or was not. -/
def settlementAfter (isPublished : Bool) : Settlement :=
  if isPublished then .ack else .requeue

end LinkPreview.Queue
