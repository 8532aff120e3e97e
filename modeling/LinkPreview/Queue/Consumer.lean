import LinkPreview.Message
import LinkPreview.Outcome
import LinkPreview.Queue.Settlement
import LinkPreview.Settings

/-!
# The job consumer

The consumer connects to a broker, takes jobs from it as long as fewer than its limit are
running, and runs each on its own: it decodes the job, fetches its page, publishes the
result and settles the delivery. When the connection ends, or cannot be made, it waits and
connects again, for ever, until it is cancelled. A connection that ends takes the jobs
that came over it with it, and leaves their deliveries unsettled.

The consumer, its jobs and what surrounds them are one system. `System.step?` says
what the system becomes when one of its parts makes its next move. Which part moves is
the argument of the step, so what is proved of every sequence of steps holds however the
jobs take turns.

## Implementation notes

Only what an observer of the surroundings can see is in the log: attempts to connect,
pages asked for, results published, deliveries settled, and the published state.
A delivery keeps the number that it got when it was sent, so its log entries can be told
from those of another delivery.
-/

namespace LinkPreview.Queue

/-- What a request for a page comes to. -/
inductive Page.Content where
  | served (markup : String)
  | failed (error : FetchError)
  | crash

/-- A page. A gated one is held back until it is released. -/
structure Page where
  isGated : Bool := false
  content : Page.Content := .failed .timeout

/-- What a broker sends: a delivery with its number, or the end of the connection. -/
inductive Inbound where
  | delivery (tag : Nat) (payload : List UInt8)
  | lost
  | closed
  deriving DecidableEq, Repr

/-- How far a job has come. -/
inductive Stage where
  | begun
  | fetching (job : Job)
  | extracting (job : Job) (markup : String)
  | ready (job : Job) (outcome : Outcome)
  | published (job : Job)
  | refused (job : Job)
  | finished
  | crashed
  deriving DecidableEq, Repr

/-- Whether a job that has come this far makes no more moves. -/
def Stage.isOver : Stage → Bool
  | finished | crashed => true
  | _ => false

/-- A job that runs, with the delivery that brought it. -/
structure Running where
  tag : Nat
  payload : List UInt8
  stage : Stage := .begun
  deriving DecidableEq, Repr

/-- Whether a job waits for the page at an address. -/
def Running.awaits (r : Running) (url : String) : Bool :=
  match r.stage with
  | .fetching job => job.url == url
  | _ => false

/-- The state that the consumer shows. -/
inductive State where
  | disconnected
  | connecting
  | consuming
  deriving DecidableEq, Repr

/-- What the consumer is about. -/
inductive Phase where
  | unstarted
  | starting
  | dialling
  | connecting (isHeld : Bool)
  | consuming (jobs : List Running)
  | waiting (due : Nat)
  | stopped
  deriving DecidableEq, Repr

/-- The state that the consumer shows in a phase. -/
def Phase.state : Phase → State
  | dialling | connecting _ => .connecting
  | consuming _ => .consuming
  | unstarted | starting | waiting _ | stopped => .disconnected

/-- What an observer sees. -/
inductive Event where
  | state (state : State)
  | attempt
  | failed
  | taken (session : Nat) (item : Inbound)
  | fetched (session tag : Nat) (url : String)
  | published (session tag : Nat) (queue : String) (body : List UInt8)
  | refused (session tag : Nat)
  | settled (session tag : Nat) (how : Settlement) (isOk : Bool)
  deriving DecidableEq, Repr

/-- An event, and when it happened. -/
structure Entry where
  time : Nat
  event : Event
  deriving DecidableEq, Repr

/-- What does not change while the system runs: the pages, the settings of the consumer,
and the time that results are stamped with. -/
structure Setup where
  pages : String → Page
  retry : Nat
  maxInFlight : Nat
  resultQueue : String
  stamp : Moment

/-- What does not change while a consumer with these settings runs. Times are in milliseconds. -/
def Setup.ofSettings (s : ConsumerSettings) (pages : String → Page) (stamp : Moment) : Setup where
  pages
  retry := 1000 * s.retrySeconds
  maxInFlight := s.maxInFlight
  resultQueue := s.resultQueue
  stamp

/-- How many jobs may run at once. -/
def Setup.limit (c : Setup) : Nat :=
  max 1 c.maxInFlight

/-- The consumer with its jobs, and what surrounds it: the time in milliseconds, what the
broker has sent and was not yet taken, how the next connections and calls go, and the
pages that were released and not yet fetched. The log has the latest entry first. -/
structure System where
  phase : Phase := .unstarted
  isCancelled : Bool := false
  session : Nat := 0
  time : Nat := 0
  inbound : List Inbound := []
  sent : Nat := 0
  failures : Nat := 0
  isHolding : Bool := false
  connectPermits : Nat := 0
  publishFails : Bool := false
  settleFails : Bool := false
  released : List String := []
  log : List Entry := []
  deriving DecidableEq, Repr

/-- What can be done to the system from outside. -/
inductive Input where
  | start
  | cancel
  | deliver (payload : List UInt8)
  | drop
  | close
  | failConnects (count : Nat)
  | holdConnects (isOn : Bool)
  | releaseConnect
  | failPublish (isOn : Bool)
  | failSettle (isOn : Bool)
  | release (url : String)
  | nothing
  deriving DecidableEq, Repr

/-- Which part of the system moves. -/
inductive Move where
  | input (input : Input)
  | consumer
  | job (tag : Nat)
  | wait (span : Nat)
  deriving DecidableEq, Repr

namespace System

/-- Adds an event to the log. -/
def note (s : System) (e : Event) : System :=
  { s with log := ⟨s.time, e⟩ :: s.log }

/-- Enters a phase, and shows its state if it is another one. -/
def enter (s : System) (p : Phase) : System :=
  let entered := { s with phase := p }
  if p.state = s.phase.state then entered else entered.note (.state p.state)

/-- The jobs that run. -/
def jobs (s : System) : List Running :=
  match s.phase with
  | .consuming jobs => jobs
  | _ => []

/-- Settles a delivery. The call is made even if it fails. -/
def settle (s : System) (tag : Nat) (how : Settlement) : System :=
  s.note (.settled s.session tag how !s.settleFails)

/-- What is done from outside. -/
def input (s : System) : Input → System
  | .start => if s.phase = .unstarted then { s with phase := .starting } else s
  | .cancel => { s with isCancelled := true }
  | .deliver payload =>
    { s with inbound := s.inbound ++ [.delivery (s.sent + 1) payload], sent := s.sent + 1 }
  | .drop => { s with inbound := s.inbound ++ [.lost] }
  | .close => { s with inbound := s.inbound ++ [.closed] }
  | .failConnects count => { s with failures := s.failures + count }
  | .holdConnects isOn => { s with isHolding := isOn }
  | .releaseConnect => { s with connectPermits := s.connectPermits + 1 }
  | .failPublish isOn => { s with publishFails := isOn }
  | .failSettle isOn => { s with settleFails := isOn }
  | .release url => { s with released := s.released ++ [url] }
  | .nothing => s

/-- The end of a connection, or of an attempt to make one. -/
def disconnect (c : Setup) (s : System) : System :=
  s.enter (.waiting (s.time + c.retry))

/-- The answer to an attempt to connect. -/
def answerAttempt (c : Setup) (s : System) : System :=
  if s.failures = 0 then { s with session := s.session + 1 }.enter (.consuming [])
  else ({ s with failures := s.failures - 1 }.note .failed).disconnect c

/-- Takes what the broker has sent next. -/
def take? (c : Setup) (s : System) (jobs : List Running) : Option System :=
  match s.inbound with
  | [] => none
  | item :: rest =>
    let s := { s with inbound := rest }.note (.taken s.session item)
    match item with
    | .delivery tag payload =>
      some { s with phase := .consuming (jobs ++ [{ tag := tag, payload := payload }]) }
    | .lost | .closed => some (s.disconnect c)

/-- The next move of the consumer. Cancellation comes before everything, and a job that is
over gives its place free before anything is taken. -/
def consumerStep? (c : Setup) (s : System) : Option System :=
  match s.phase with
  | .unstarted | .stopped => none
  | .starting => some (s.enter .dialling)
  | .dialling =>
    if s.isCancelled then some (s.enter .stopped)
    else some ({ s with phase := .connecting s.isHolding }.note .attempt)
  | .connecting isHeld =>
    if s.isCancelled then some (s.enter .stopped)
    else if !isHeld then some (s.answerAttempt c)
    else if s.connectPermits = 0 then none
    else some ({ s with connectPermits := s.connectPermits - 1 }.answerAttempt c)
  | .consuming jobs =>
    if s.isCancelled then some (s.enter .stopped)
    else if jobs.any (·.stage.isOver) then
      some { s with phase := .consuming (jobs.eraseP (·.stage.isOver)) }
    else if jobs.length < c.limit then s.take? c jobs
    else none
  | .waiting due =>
    if s.isCancelled then some (s.enter .stopped)
    else if due ≤ s.time then some (s.enter .dialling)
    else none

/-- The stage that follows when a page has arrived, or has not. -/
def arrival (job : Job) : Page.Content → Stage
  | .served markup => .extracting job markup
  | .failed e => .ready job (.ofPage job.url (.error e))
  | .crash => .crashed

/-- The result of a job. -/
def resultOf (c : Setup) (job : Job) (outcome : Outcome) : JobResult :=
  ⟨job.id, outcome.metadata, c.stamp⟩

/-- The next move of a job behind those that came before it: its next stage, and what the
system becomes besides. A page that is released goes to the job that has waited longest. -/
def stageStep? (c : Setup) (s : System) (before : List Running) (r : Running) :
    Option (Stage × System) :=
  match r.stage with
  | .begun =>
    match Job.decode? r.payload with
    | none => some (.finished, s.settle r.tag .reject)
    | some job =>
      if Url.isPreviewable job.url then
        some (.fetching job, s.note (.fetched s.session r.tag job.url))
      else some (.ready job (.degraded .invalidUrl), s)
  | .fetching job =>
    if !(c.pages job.url).isGated then some (arrival job (c.pages job.url).content, s)
    else if s.released.contains job.url && !before.any (·.awaits job.url) then
      some (arrival job (c.pages job.url).content,
        { s with released := s.released.erase job.url })
    else none
  | .extracting job markup => some (.ready job (.ofPage job.url (.ok markup)), s)
  | .ready job outcome =>
    if s.publishFails then some (.refused job, s.note (.refused s.session r.tag))
    else
      some (.published job,
        s.note (.published s.session r.tag c.resultQueue (resultOf c job outcome).encode))
  | .published _ => some (.finished, s.settle r.tag .ack)
  | .refused _ => some (.finished, s.settle r.tag .requeue)
  | .finished | .crashed => none

/-- The next move of the job with the given number among those behind the given ones. -/
def jobsStep? (c : Setup) (s : System) (tag : Nat) (before : List Running) :
    List Running → Option (List Running × System)
  | [] => none
  | r :: rs =>
    if r.tag = tag then
      (stageStep? c s before r).map fun (stage, s) => ({ r with stage := stage } :: rs, s)
    else (jobsStep? c s tag (before ++ [r]) rs).map fun (rs, s) => (r :: rs, s)

/-- The next move of the job with the given number. -/
def jobStep? (c : Setup) (s : System) (tag : Nat) : Option System :=
  match s.phase with
  | .consuming jobs =>
    (jobsStep? c s tag [] jobs).map fun (jobs, s) => { s with phase := .consuming jobs }
  | _ => none

/-- Whether no part of the system can move by itself. -/
def isIdle (c : Setup) (s : System) : Bool :=
  (s.consumerStep? c).isNone && s.jobs.all fun r => (s.jobStep? c r.tag).isNone

/-- Whether the consumer would have to move before this time. -/
def isDueBefore (s : System) (time : Nat) : Bool :=
  match s.phase with
  | .waiting due => due < time
  | _ => false

/-- What the system becomes when a part of it moves, if it can. Time passes only while
no part can move, and not beyond the moment when the consumer has to. -/
def step? (c : Setup) (s : System) : Move → Option System
  | .input i => some (s.input i)
  | .consumer => s.consumerStep? c
  | .job tag => s.jobStep? c tag
  | .wait span =>
    if s.isIdle c && !s.isDueBefore (s.time + span) then some { s with time := s.time + span }
    else none

/-- What the system becomes when its parts move in the given order, if they can. -/
def run? (c : Setup) (s : System) (moves : List Move) : Option System :=
  moves.foldlM (step? c) s

end System

end LinkPreview.Queue
