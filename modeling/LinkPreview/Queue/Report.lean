import LinkPreview.Queue.Schedule

/-!
# Reports

What an observer has seen of the system since he looked last. Jobs that run at the same
time have no order, so a report lists what they did in an order of its own.
-/

namespace LinkPreview.Queue

/-- What an observer has seen. -/
structure Report where
  state : State
  connects : Nat
  fetched : List String
  published : List (String × List UInt8)
  settled : List (Nat × Settlement)
  isStopped : Bool
  deriving DecidableEq, Repr

namespace Report

/-- The pages that were asked for. -/
def fetchedIn (log : List Entry) : List String :=
  log.filterMap fun entry =>
    match entry.event with
    | .fetched _ _ url => some url
    | _ => none

/-- The results that were published, with their queues. -/
def publishedIn (log : List Entry) : List (String × List UInt8) :=
  log.filterMap fun entry =>
    match entry.event with
    | .published _ _ queue body => some (queue, body)
    | _ => none

/-- The deliveries that were settled. -/
def settledIn (log : List Entry) : List (Nat × Settlement) :=
  log.filterMap fun entry =>
    match entry.event with
    | .settled _ tag how _ => some (tag, how)
    | _ => none

/-- The number of attempts to connect. -/
def attemptsIn (log : List Entry) : Nat :=
  log.countP (·.event == .attempt)

/-- What an observer of `after` has seen since he looked at `before`. -/
def between (before after : System) : Report :=
  let log := (after.log.take (after.log.length - before.log.length)).reverse
  { state := after.phase.state
    connects := attemptsIn log
    fetched := (fetchedIn log).mergeSort (· ≤ ·)
    published := publishedIn log
    settled := (settledIn log).mergeSort fun a b => a.1 ≤ b.1
    isStopped := after.phase == .stopped }

end Report

/-- Does one thing after the other from outside, each with the time that passes after it:
what is seen each time. -/
def reports (c : Setup) : System → List (Input × Nat) → List Report
  | _, [] => []
  | s, (i, span) :: rest =>
    let s' := s.act c i span
    Report.between s s' :: reports c s' rest

end LinkPreview.Queue
