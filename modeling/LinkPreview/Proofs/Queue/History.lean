import LinkPreview.Proofs.Queue.Transition

/-!
# Histories of deliveries

The log of a run has the events of all deliveries, interleaved as the jobs take turns. The
history of one delivery keeps its own events only. Whatever the other parts of the system
do, this history follows the job alone: `Story` lists the histories that a job can have, by
the stage to which it has come, and `Story.advance` says that no move leads elsewhere.

## Implementation notes

A story has a constructor for each way to come to a stage. So what holds of all histories is
read off by cases, without an induction over moves.
-/

namespace LinkPreview.Queue

open LinkPreview.Queue.System

/-! ## Views of the log -/

/-- The delivery that an event is about. -/
def Event.delivery? : Event → Option Nat
  | .taken _ (.delivery tag _) | .fetched _ tag _ | .published _ tag _ _ | .refused _ tag
  | .settled _ tag _ _ => some tag
  | .taken _ .lost | .taken _ .closed | .state _ | .attempt | .failed => none

/-- The item that an event takes from what the broker sent. -/
def Event.item? : Event → Option Inbound
  | .taken _ item => some item
  | _ => none

/-- What an observer has seen, the earliest first. -/
def events (log : List Entry) : List Event :=
  (log.map Entry.event).reverse

/-- What an observer has seen of one delivery, the earliest first. -/
def history (log : List Entry) (tag : Nat) : List Event :=
  (events log).filter (·.delivery? == some tag)

/-- What was taken from the broker, the earliest first. -/
def takenItems (log : List Entry) : List Inbound :=
  (events log).filterMap Event.item?

@[simp]
theorem events_cons (time : Nat) (e : Event) (log : List Entry) :
    events (⟨time, e⟩ :: log) = events log ++ [e] := by
  simp [events]

@[simp]
theorem events_append_log (time : Nat) (es : List Event) (log : List Entry) :
    events (es.map (⟨time, ·⟩) ++ log) = events log ++ es.reverse := by
  simp [events, Function.comp_def]

theorem history_cons (time : Nat) (e : Event) (log : List Entry) (tag : Nat) :
    history (⟨time, e⟩ :: log) tag =
      history log tag ++ if e.delivery? = some tag then [e] else [] := by
  simp [history, List.filter_cons]

@[simp]
theorem takenItems_cons (time : Nat) (e : Event) (log : List Entry) :
    takenItems (⟨time, e⟩ :: log) = takenItems log ++ e.item?.toList := by
  cases h : e.item? <;> simp [takenItems, h]

namespace System

variable {s : System}

@[simp]
theorem log_note (e : Event) : (s.note e).log = ⟨s.time, e⟩ :: s.log := rfl

@[simp]
theorem phase_note (e : Event) : (s.note e).phase = s.phase := rfl

@[simp]
theorem session_note (e : Event) : (s.note e).session = s.session := rfl

@[simp]
theorem inbound_note (e : Event) : (s.note e).inbound = s.inbound := rfl

@[simp]
theorem isCancelled_note (e : Event) : (s.note e).isCancelled = s.isCancelled := rfl

@[simp]
theorem publishFails_note (e : Event) : (s.note e).publishFails = s.publishFails := rfl

@[simp]
theorem log_worked (jobs : List Running) (es : List Event) (released : List String) :
    (s.worked jobs es released).log = es.map (⟨s.time, ·⟩) ++ s.log := rfl

theorem log_enter (p : Phase) :
    (s.enter p).log = s.log ∨ (s.enter p).log = ⟨s.time, .state p.state⟩ :: s.log := by
  unfold enter
  split
  · exact Or.inl rfl
  · exact Or.inr rfl

@[simp]
theorem history_enter (p : Phase) (tag : Nat) :
    history (s.enter p).log tag = history s.log tag := by
  rcases log_enter (s := s) p with h | h <;> simp [h, history_cons, Event.delivery?]

@[simp]
theorem takenItems_enter (p : Phase) : takenItems (s.enter p).log = takenItems s.log := by
  rcases log_enter (s := s) p with h | h <;> simp [h, Event.item?]

theorem mem_events_enter {p : Phase} {e : Event} :
    e ∈ events (s.enter p).log ↔
      e ∈ events s.log ∨ (p.state ≠ s.phase.state ∧ e = .state p.state) := by
  unfold enter
  split <;> rename_i hp <;> simp [hp]

@[simp]
theorem phase_enter (p : Phase) : (s.enter p).phase = p := by
  unfold enter
  split <;> rfl

@[simp]
theorem session_enter (p : Phase) : (s.enter p).session = s.session := by
  unfold enter
  split <;> rfl

@[simp]
theorem inbound_enter (p : Phase) : (s.enter p).inbound = s.inbound := by
  unfold enter
  split <;> rfl

@[simp]
theorem isCancelled_enter (p : Phase) : (s.enter p).isCancelled = s.isCancelled := by
  unfold enter
  split <;> rfl

@[simp]
theorem publishFails_enter (p : Phase) : (s.enter p).publishFails = s.publishFails := by
  unfold enter
  split <;> rfl

@[simp]
theorem sent_enter (p : Phase) : (s.enter p).sent = s.sent := by
  unfold enter
  split <;> rfl

end System

/-! ## What a delivery comes to -/

/-- The answer of a page, unless fetching it crashes. -/
def Page.Content.answer? : Page.Content → Option (Except FetchError String)
  | served markup => some (.ok markup)
  | failed e => some (.error e)
  | crash => none

/-- Whether fetching answers as the pages do, wherever they answer. -/
def Setup.IsAnsweredBy (c : Setup) (fetch : String → Except FetchError String) : Prop :=
  ∀ url answer, (c.pages url).content.answer? = some answer → fetch url = answer

theorem Setup.exists_isAnsweredBy (c : Setup) : ∃ fetch, c.IsAnsweredBy fetch := by
  refine ⟨fun url => (c.pages url).content.answer?.getD (.error .timeout), ?_⟩
  intro url answer h
  simp [h]

/-- Whether a preview of an address is asked for in vain, since fetching its page crashes. -/
def Setup.CrashesAt (c : Setup) (url : String) : Prop :=
  Url.isPreviewable url = true ∧ (c.pages url).content = .crash

/-- Whether a delivery is a job that ends because fetching its page crashes. -/
def Setup.CrashesOn (c : Setup) (payload : List UInt8) : Prop :=
  ∃ job, Job.decode? payload = some job ∧ c.CrashesAt job.url

theorem not_crashesOn {c : Setup} {payload : List UInt8} {job : Job}
    (hd : Job.decode? payload = some job) (hc : ¬ c.CrashesAt job.url) :
    ¬ c.CrashesOn payload := by
  rintro ⟨job', hj, hcrash⟩
  rw [hd] at hj
  cases hj
  exact hc hcrash

variable (c : Setup) (fetch : String → Except FetchError String)

/-- What is seen of a delivery that is a job until its page has arrived. -/
def opening (session tag : Nat) (payload : List UInt8) (job : Job) : List Event :=
  .taken session (.delivery tag payload) ::
    (visit fetch job.url).fetched.map fun url => .fetched session tag url

/-- What is seen when the result of a job is published. -/
def publication (session tag : Nat) (job : Job) : Event :=
  .published session tag c.resultQueue
    (JobResult.encode ⟨job.id, (visit fetch job.url).outcome.metadata, c.stamp⟩)

/-- The histories that a delivery can have whose job has come to a stage. -/
inductive Story (session tag : Nat) (payload : List UInt8) : Stage → List Event → Prop where
  | begun : Story session tag payload .begun [.taken session (.delivery tag payload)]
  | fetching {job : Job} (hd : Job.decode? payload = some job)
      (hu : Url.isPreviewable job.url = true) :
      Story session tag payload (.fetching job) (opening fetch session tag payload job)
  | extracting {job : Job} {markup : String} (hd : Job.decode? payload = some job)
      (hu : Url.isPreviewable job.url = true)
      (hp : (c.pages job.url).content = .served markup) :
      Story session tag payload (.extracting job markup) (opening fetch session tag payload job)
  | ready {job : Job} (hd : Job.decode? payload = some job) (hc : ¬ c.CrashesAt job.url) :
      Story session tag payload (.ready job (visit fetch job.url).outcome)
        (opening fetch session tag payload job)
  | published {job : Job} (hd : Job.decode? payload = some job) (hc : ¬ c.CrashesAt job.url) :
      Story session tag payload (.published job)
        (opening fetch session tag payload job ++ [publication c fetch session tag job])
  | refused {job : Job} (hd : Job.decode? payload = some job) (hc : ¬ c.CrashesAt job.url) :
      Story session tag payload (.refused job)
        (opening fetch session tag payload job ++ [.refused session tag])
  | rejected (isOk : Bool) (hd : Job.decode? payload = none) :
      Story session tag payload .finished
        [.taken session (.delivery tag payload), .settled session tag .reject isOk]
  | acked {job : Job} (isOk : Bool) (hd : Job.decode? payload = some job)
      (hc : ¬ c.CrashesAt job.url) :
      Story session tag payload .finished
        (opening fetch session tag payload job ++
          [publication c fetch session tag job, .settled session tag .ack isOk])
  | requeued {job : Job} (isOk : Bool) (hd : Job.decode? payload = some job)
      (hc : ¬ c.CrashesAt job.url) :
      Story session tag payload .finished
        (opening fetch session tag payload job ++
          [.refused session tag, .settled session tag .requeue isOk])
  | crashed {job : Job} (hd : Job.decode? payload = some job) (hc : c.CrashesAt job.url) :
      Story session tag payload .crashed (opening fetch session tag payload job)

variable {c fetch} {session tag : Nat} {payload : List UInt8}

theorem opening_of_isPreviewable {job : Job} (hu : Url.isPreviewable job.url = true) :
    opening fetch session tag payload job =
      [.taken session (.delivery tag payload), .fetched session tag job.url] := by
  simp [opening, visit, hu]

theorem opening_of_not_isPreviewable {job : Job} (hu : Url.isPreviewable job.url = false) :
    opening fetch session tag payload job = [.taken session (.delivery tag payload)] := by
  simp [opening, visit, hu]

theorem outcome_of_answer (hf : c.IsAnsweredBy fetch) {url : String}
    (hu : Url.isPreviewable url = true) {answer : Except FetchError String}
    (ha : (c.pages url).content.answer? = some answer) :
    (visit fetch url).outcome = .ofPage url answer := by
  simp [visit, hu, hf url answer ha]

/-- A story begins when the delivery is taken. -/
theorem Story.exists_eq_cons {stage : Stage} {es : List Event}
    (h : Story c fetch session tag payload stage es) :
    ∃ rest, es = .taken session (.delivery tag payload) :: rest := by
  cases h <;> exact ⟨_, rfl⟩

theorem Story.taken_mem {stage : Stage} {es : List Event}
    (h : Story c fetch session tag payload stage es) :
    .taken session (.delivery tag payload) ∈ es := by
  obtain ⟨rest, rfl⟩ := h.exists_eq_cons
  exact List.mem_cons_self

/-- A story is about the delivery that is taken in it. -/
theorem Story.eq_of_taken_mem {stage : Stage} {es : List Event}
    (h : Story c fetch session tag payload stage es) {n : Nat} {p : List UInt8}
    (hm : .taken n (.delivery tag p) ∈ es) : n = session ∧ p = payload := by
  cases h <;> simpa [opening, publication] using hm

theorem Story.arrive (hf : c.IsAnsweredBy fetch) {job : Job} {es : List Event}
    (h : Story c fetch session tag payload (.fetching job) es) :
    Story c fetch session tag payload (arrival job (c.pages job.url).content) es := by
  cases h with
  | fetching hd hu =>
      cases hp : (c.pages job.url).content with
      | served markup => exact .extracting hd hu hp
      | failed e =>
          have ho : (visit fetch job.url).outcome = .ofPage job.url (.error e) :=
            outcome_of_answer hf hu (by rw [hp]; rfl)
          have hc : ¬ c.CrashesAt job.url := by simp [Setup.CrashesAt, hp]
          rw [arrival, ← ho]
          exact .ready hd hc
      | crash => exact .crashed hd ⟨hu, hp⟩

/-- A move of a job carries its story on. -/
theorem Story.advance (hf : c.IsAnsweredBy fetch) {s : System} {before : List Running}
    {r : Running} {stage : Stage} {es new : List Event} {released : List String}
    (h : Story c fetch s.session r.tag r.payload r.stage es)
    (ha : Advance c s before r stage new released) :
    Story c fetch s.session r.tag r.payload stage (es ++ new.reverse) := by
  cases ha with
  | reject hr hd =>
      rw [hr] at h
      cases h
      exact .rejected _ hd
  | fetch hr hd hu =>
      rw [hr] at h
      cases h
      have h : Story c fetch s.session r.tag r.payload _ _ := .fetching hd hu
      rwa [opening_of_isPreviewable hu] at h
  | @refuse job hr hd hu =>
      rw [hr] at h
      cases h
      have ho : (visit fetch job.url).outcome = .degraded .invalidUrl := by simp [visit, hu]
      have hc : ¬ c.CrashesAt job.url := by simp [Setup.CrashesAt, hu]
      have h : Story c fetch s.session r.tag r.payload _ _ := .ready hd hc
      rwa [opening_of_not_isPreviewable hu, ho] at h
  | arrive hr =>
      rw [hr] at h
      simpa using h.arrive hf
  | release hr =>
      rw [hr] at h
      simpa using h.arrive hf
  | @extract job markup hr =>
      rw [hr] at h
      cases h with
      | extracting hd hu hp =>
          have ho : (visit fetch job.url).outcome = .ofPage job.url (.ok markup) :=
            outcome_of_answer hf hu (by rw [hp]; rfl)
          have hc : ¬ c.CrashesAt job.url := by simp [Setup.CrashesAt, hp]
          rw [← ho]
          simpa using Story.ready hd hc
  | publish hr =>
      rw [hr] at h
      cases h with
      | ready hd hc => exact .published hd hc
  | fail hr =>
      rw [hr] at h
      cases h with
      | ready hd hc => exact .refused hd hc
  | ack hr =>
      rw [hr] at h
      cases h with
      | published hd hc => simpa using .acked _ hd hc
  | requeue hr =>
      rw [hr] at h
      cases h with
      | refused hd hc => simpa using .requeued _ hd hc

end LinkPreview.Queue
