import LinkPreview.Amqp.Client
import LinkPreview.Fetch
import LinkPreview.Http.Listener
import LinkPreview.Http.Sharing
import LinkPreview.Log.Filter
import LinkPreview.Queue.Alone
import LinkPreview.Service.Notes

/-!
# Runs of the service

The service reads its settings, begins to log, listens, connects to its broker unless that
is switched off, and serves until it is told to stop. Without settings or a place to listen
it does not start.

## Implementation notes

A run serves the requests one after another, and then the jobs, each of which is settled
before the next one comes. `Queue.System` says what happens when jobs run side by side.
-/

namespace LinkPreview.Service

open Log (Record)

/-- Why the service does not start. -/
inductive StartError where
  | settings (e : SettingsError)
  | listen (e : Http.ListenError)
  deriving DecidableEq, Repr

/-- The report of a refused variable. -/
def settingsReport : SettingsError → String
  | .invalid key value =>
    "Invalid \x7b key: " ++ Text.quoted key.name ++ ", value: " ++ Text.quoted value ++ " \x7d"
  | .zero key => "Zero(" ++ Text.quoted key.name ++ ")"

/-- What an error says. -/
def StartError.message : StartError → String
  | settings e => "Failed to load configuration: " ++ settingsReport e
  | listen e => "Failed to bind to address: " ++ e.report

/-- The variable that holds the log filter. -/
def filterVariable : String := "RUST_LOG"

/-- The filter for what is logged: the one of the environment, or else the one of the
settings, or else all up to the usual level. -/
def filter (lookup : Settings.Lookup) (s : Settings) : Log.Filter :=
  (((lookup filterVariable).bind Log.Filter.read?) <|> Log.Filter.read? s.logFilter).getD
    (.upTo .info)

/-- What surrounds a run: the variables, what can be reached, the present time, and
whether somebody listens where the service wants to. -/
structure Surroundings where
  lookup : Settings.Lookup
  network : Network
  now : Moment
  isOccupied : Bool
  broker : Amqp.Broker
  isListening : String → Nat → Bool

namespace Surroundings

/-- What is found at an address. -/
def fetch (c : Surroundings) (url : String) : Except FetchError String :=
  (LinkPreview.fetch c.network url).result

/-- What servers are asked for when pages are fetched. -/
def requested (c : Surroundings) (urls : List String) : List Http.Request :=
  urls.flatMap fun url => (LinkPreview.fetch c.network url).requests

/-- What the consumer connects to. -/
def target (c : Surroundings) (s : Settings) : Amqp.Target :=
  ⟨s.brokerUrl, s.topology, c.broker, c.isListening⟩

end Surroundings

/-- What came of a request: the response, what servers were asked for, and what was
logged. -/
structure Answered where
  response : Http.Served
  requested : List Http.Request
  notes : List Record

/-- Answers a request. -/
def answer (c : Surroundings) (method target : String) : Answered :=
  let (response, fetched) := Http.serve ⟨c.fetch, c.now⟩ method target
  { response
    requested := c.requested fetched
    notes := requestNotes method ++ fetched.flatMap fun url => servedNotes (visit c.fetch url) }

/-- The visit that a job makes. -/
def jobVisit? (c : Surroundings) (payload : List UInt8) : Option Visit :=
  (Job.decode? payload).map fun job => visit c.fetch job.url

/-- Works on a delivery that was given out: publishes its result and settles it. -/
def work (c : Surroundings) (s : Settings) (number : Nat) (payload : List UInt8)
    (client : Amqp.Client) : Amqp.Client × List Record :=
  match (Queue.process c.fetch c.now payload).result with
  | none => ((client.settle c.broker number .reject).1, deliveryNotes none false)
  | some result =>
    let (client, publication) := client.publish c.broker s.resultQueue result.encode
    let isPublished := publication.isOk
    ((client.settle c.broker number (Queue.settlementAfter isPublished)).1,
      deliveryNotes (jobVisit? c payload) isPublished)

/-- Takes jobs one after another: what the broker received for each, and what was
logged. -/
def workAll (c : Surroundings) (s : Settings) :
    List (List UInt8) → Amqp.Client → List (List Amqp.Entry) × List Record
  | [], _ => ([], [])
  | payload :: rest, client =>
    match (client.push payload).next with
    | (taken, .delivery number payload) =>
      let (worked, notes) := work c s number payload taken
      let (received, moreNotes) := workAll c s rest worked
      (worked.log.drop client.log.length :: received, notes ++ moreNotes)
    | (other, _) => workAll c s rest other

/-- What the consumer does: what the broker receives when it connects and for each job, and
what is logged. -/
def consume (c : Surroundings) (s : Settings) (jobs : List (List UInt8)) :
    List (List Amqp.Entry) × List Record :=
  match ({} : Amqp.Client).connect (c.target s) with
  | (client, isConnected) =>
    let (received, notes) := workAll c s jobs client
    (client.log :: received, connectionNotes isConnected ++ notes ++ consumerClosingNotes)

/-- What came of a run of the service. -/
structure Run where
  error : Option StartError := none
  /-- Whether the log is in JSON. -/
  isStructured : Bool := false
  /-- What was logged. -/
  notes : List Record := []
  answers : List Answered := []
  /-- What the broker received when the consumer connected, and for each job. -/
  received : List (List Amqp.Entry) := []

/-- Runs the service until it is told to stop. -/
def run (c : Surroundings) (requests : List (String × String))
    (jobs : List (List UInt8)) : Run :=
  match Settings.read c.lookup with
  | .error e => { error := some (.settings e) }
  | .ok s =>
    let keep := List.filter (filter c.lookup s).lets
    match Http.listenError? c.isOccupied s.serverHost with
    | some e =>
      { error := some (.listen e), isStructured := s.isProduction, notes := keep (openingNotes s) }
    | none =>
      let answers := requests.map fun (method, target) => answer c method target
      let (received, jobNotes) := if s.consumerEnabled then consume c s jobs else ([], [])
      let notes := openingNotes s ++ listeningNotes s ++ answers.flatMap (·.notes) ++ jobNotes ++
        closingNotes
      { isStructured := s.isProduction, notes := keep notes, answers, received }

end LinkPreview.Service
