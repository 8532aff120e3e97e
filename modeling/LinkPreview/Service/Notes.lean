import LinkPreview.Log.Record
import LinkPreview.Outcome
import LinkPreview.Settings

/-!
# What the service logs

The records of a run, by the occasion on which they are written.
-/

namespace LinkPreview.Service

open Log (Record Level)

/-- The version of the service. -/
def version : String := "0.1.0"

/-- The target of the service's own records. -/
def ownTarget : String := "bearlink_preview"

/-- A record of the service itself. -/
def note (message : String) (fields : List (String × Log.Value)) : Record :=
  ⟨ownTarget, .info, message, fields⟩

/-- A record of the job consumer. -/
def consumerNote (level : Level) (message : String) : Record :=
  ⟨ownTarget ++ "::queue::consumer", level, message, []⟩

/-- A record of the connection to the broker. -/
def brokerNote (message : String) : Record :=
  ⟨ownTarget ++ "::queue::amqp", .info, message, []⟩

/-- What is logged before the service listens. -/
def openingNotes (s : Settings) : List Record :=
  [note "🚀 BearLink Preview Service starting..." [("version", .text version)],
    note "📝 Configuration loaded"
      [("timeout_secs", .number s.requestTimeout), ("workers", .number s.workers)]]

/-- What is logged when the service listens. -/
def listeningNotes (s : Settings) : List Record :=
  (if s.consumerEnabled then []
    else [note "⏸️  Job consumer disabled (JOB_CONSUMER_ENABLED=false)" []]) ++
    [note ("🎧 Server listening on http://" ++ s.serverAddress) []]

/-- What is logged when the service stops. -/
def closingNotes : List Record :=
  [note "Shutdown signal received" [], note "👋 Server shutdown complete" []]

/-- What is logged when a page cannot be shown. -/
def visitNotes (v : Visit) : List Record :=
  let target := ownTarget ++ "::preview"
  match v.outcome with
  | .extracted _ => []
  | .degraded .invalidUrl => [⟨target, .warn, "Refusing to preview invalid URL", []⟩]
  | .degraded (.fetch _) => [⟨target, .warn, "Failed to fetch URL for link preview", []⟩]

/-- What is logged when a visitor asks for a page. -/
def servedNotes (v : Visit) : List Record :=
  visitNotes v ++
    if v.outcome.isDegraded then
      [⟨ownTarget ++ "::handlers::preview", .debug, "Serving empty link preview", []⟩]
    else []

/-- What is logged when the consumer connects, or cannot. -/
def connectionNotes (isConnected : Bool) : List Record :=
  [consumerNote .info "Job consumer started",
    consumerNote .debug "Job consumer state changed",
    brokerNote "🔌 Connecting to message broker..."] ++
    if isConnected then
      [brokerNote "✅ Broker connected, queues declared",
        consumerNote .info "Consuming preview jobs"]
    else [consumerNote .warn "Failed to connect to broker"]

/-- What is logged when the consumer stops. -/
def consumerClosingNotes : List Record :=
  [consumerNote .info "Job consumer stopped"]

/-- What is logged about a request, besides its page. -/
def requestNotes (method : String) : List Record :=
  if method = "OPTIONS" then []
  else
    [⟨"tower_http::trace::on_request", .debug, "started processing request", []⟩,
      ⟨"tower_http::trace::on_response", .debug, "finished processing request", []⟩]

/-- What is logged about a delivery, given what its page came to if it is a job, and whether
its result was published. -/
def deliveryNotes (visit? : Option Visit) (isPublished : Bool) : List Record :=
  match visit? with
  | none => [consumerNote .error "Rejecting malformed preview job"]
  | some v =>
    [consumerNote .debug "Processing preview job"] ++ visitNotes v ++
      if isPublished then [consumerNote .info "Preview job completed"]
      else [consumerNote .warn "Failed to publish preview result"]

end LinkPreview.Service
