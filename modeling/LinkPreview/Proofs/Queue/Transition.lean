import LinkPreview.Queue.Consumer

/-!
# What a move can do

`System.step?` decides by nested cases which move is possible. `Transition` lists the
possible moves, each with what it requires and what the system becomes by it, and
`transition_of_step?` says that there are no others. Statements about all runs are proved by
cases on it, and never open the definitions of the moves again.

## Implementation notes

A transition of a job keeps the jobs before and behind it apart, since a released page goes
to the first job that waits for it. What the job does is `Advance`; its list of events is
that of the log, with the latest first.
-/

namespace LinkPreview.Queue

open LinkPreview.Queue.System

variable {c : Setup}

/-- What a job may do behind those that came before it: its next stage, what an observer
sees of it, and the released pages that are left. -/
inductive Advance (c : Setup) (s : System) (before : List Running) (r : Running) :
    Stage → List Event → List String → Prop where
  | reject (hr : r.stage = .begun) (hd : Job.decode? r.payload = none) :
      Advance c s before r .finished [.settled s.session r.tag .reject !s.settleFails] s.released
  | fetch {job : Job} (hr : r.stage = .begun) (hd : Job.decode? r.payload = some job)
      (hu : Url.isPreviewable job.url = true) :
      Advance c s before r (.fetching job) [.fetched s.session r.tag job.url] s.released
  | refuse {job : Job} (hr : r.stage = .begun) (hd : Job.decode? r.payload = some job)
      (hu : Url.isPreviewable job.url = false) :
      Advance c s before r (.ready job (.degraded .invalidUrl)) [] s.released
  | arrive {job : Job} (hr : r.stage = .fetching job)
      (hg : (c.pages job.url).isGated = false) :
      Advance c s before r (arrival job (c.pages job.url).content) [] s.released
  | release {job : Job} (hr : r.stage = .fetching job) (hg : (c.pages job.url).isGated = true)
      (hm : job.url ∈ s.released) (hb : ∀ a ∈ before, a.awaits job.url = false) :
      Advance c s before r (arrival job (c.pages job.url).content) [] (s.released.erase job.url)
  | extract {job : Job} {markup : String} (hr : r.stage = .extracting job markup) :
      Advance c s before r (.ready job (.ofPage job.url (.ok markup))) [] s.released
  | publish {job : Job} {outcome : Outcome} (hr : r.stage = .ready job outcome)
      (hf : s.publishFails = false) :
      Advance c s before r (.published job)
        [.published s.session r.tag c.resultQueue (resultOf c job outcome).encode] s.released
  | fail {job : Job} {outcome : Outcome} (hr : r.stage = .ready job outcome)
      (hf : s.publishFails = true) :
      Advance c s before r (.refused job) [.refused s.session r.tag] s.released
  | ack {job : Job} (hr : r.stage = .published job) :
      Advance c s before r .finished [.settled s.session r.tag .ack !s.settleFails] s.released
  | requeue {job : Job} (hr : r.stage = .refused job) :
      Advance c s before r .finished [.settled s.session r.tag .requeue !s.settleFails] s.released

/-- The system when a job has moved on and something was seen of it. -/
def System.worked (s : System) (jobs : List Running) (events : List Event)
    (released : List String) : System :=
  { s with
    phase := .consuming jobs
    log := events.map (⟨s.time, ·⟩) ++ s.log
    released := released }

/-- The moves that are possible, with what the system becomes by them. -/
inductive Transition (c : Setup) (s : System) : Move → System → Prop where
  | input (i : Input) : Transition c s (.input i) (s.input i)
  | begin (hp : s.phase = .starting) : Transition c s .consumer (s.enter .dialling)
  | stop (hc : s.isCancelled = true) (hu : s.phase ≠ .unstarted) (hs : s.phase ≠ .starting)
      (ho : s.phase ≠ .stopped) : Transition c s .consumer (s.enter .stopped)
  | attempt (hp : s.phase = .dialling) (hc : s.isCancelled = false) :
      Transition c s .consumer ({ s with phase := .connecting s.isHolding }.note .attempt)
  | connect {isHeld : Bool} {permits : Nat} (hp : s.phase = .connecting isHeld)
      (hc : s.isCancelled = false)
      (hh : s.connectPermits = if isHeld then permits + 1 else permits) (hf : s.failures = 0) :
      Transition c s .consumer
        ({ s with connectPermits := permits, session := s.session + 1 }.enter (.consuming []))
  | fail {isHeld : Bool} {permits : Nat} (hp : s.phase = .connecting isHeld)
      (hc : s.isCancelled = false)
      (hh : s.connectPermits = if isHeld then permits + 1 else permits) (hf : s.failures ≠ 0) :
      Transition c s .consumer
        (({ s with connectPermits := permits, failures := s.failures - 1 }.note
          .failed).disconnect c)
  | leave {as bs : List Running} {r : Running} (hp : s.phase = .consuming (as ++ r :: bs))
      (hc : s.isCancelled = false) (ha : ∀ a ∈ as, a.stage.isOver = false)
      (hr : r.stage.isOver = true) :
      Transition c s .consumer { s with phase := .consuming (as ++ bs) }
  | take {jobs : List Running} {tag : Nat} {payload : List UInt8} {rest : List Inbound}
      (hp : s.phase = .consuming jobs) (hc : s.isCancelled = false)
      (hj : ∀ r ∈ jobs, r.stage.isOver = false) (hl : jobs.length < c.limit)
      (hi : s.inbound = .delivery tag payload :: rest) :
      Transition c s .consumer
        { { s with inbound := rest }.note (.taken s.session (.delivery tag payload)) with
          phase := .consuming (jobs ++ [{ tag := tag, payload := payload }]) }
  | finish {jobs : List Running} {item : Inbound} {rest : List Inbound}
      (hp : s.phase = .consuming jobs) (hc : s.isCancelled = false)
      (hj : ∀ r ∈ jobs, r.stage.isOver = false) (hl : jobs.length < c.limit)
      (hi : s.inbound = item :: rest) (he : item = .lost ∨ item = .closed) :
      Transition c s .consumer
        (({ s with inbound := rest }.note (.taken s.session item)).disconnect c)
  | retry {due : Nat} (hp : s.phase = .waiting due) (hc : s.isCancelled = false)
      (hd : due ≤ s.time) : Transition c s .consumer (s.enter .dialling)
  | work {as bs : List Running} {r : Running} {stage : Stage} {events : List Event}
      {released : List String} (hp : s.phase = .consuming (as ++ r :: bs))
      (ha : ∀ a ∈ as, a.tag ≠ r.tag) (hw : Advance c s as r stage events released) :
      Transition c s (.job r.tag)
        (s.worked (as ++ { r with stage := stage } :: bs) events released)
  | wait {span : Nat} (hi : s.isIdle c = true) (hd : s.isDueBefore (s.time + span) = false) :
      Transition c s (.wait span) { s with time := s.time + span }

theorem jobs_of_consuming {s : System} {jobs : List Running} (hp : s.phase = .consuming jobs) :
    s.jobs = jobs := by
  rw [System.jobs, hp]

theorem state_of_consuming {s : System} {jobs : List Running} (hp : s.phase = .consuming jobs) :
    s.phase.state = .consuming := by
  rw [hp]
  rfl

/-- A system is idle when neither the consumer nor any of the jobs can move. -/
theorem isIdle_iff {s : System} : s.isIdle c = true ↔
    s.consumerStep? c = none ∧ ∀ r ∈ s.jobs, s.jobStep? c r.tag = none := by
  simp [System.isIdle]

/-- Starting does something to a system only that was not started before. -/
theorem input_start (s : System) :
    (s.phase = .unstarted ∧ s.input .start = { s with phase := .starting }) ∨
      (s.phase ≠ .unstarted ∧ s.input .start = s) := by
  by_cases hp : s.phase = .unstarted
  · exact Or.inl ⟨hp, by simp [System.input, hp]⟩
  · exact Or.inr ⟨hp, by simp [System.input, hp]⟩

/-! ## Jobs -/

theorem advance_of_stageStep? {s t : System} {before : List Running} {r : Running} {stage : Stage}
    (h : stageStep? c s before r = some (stage, t)) :
    ∃ events released, Advance c s before r stage events released ∧
      t = { s with log := events.map (⟨s.time, ·⟩) ++ s.log, released := released } := by
  unfold stageStep? at h
  split at h <;> rename_i hr
  · split at h <;> rename_i hd
    · cases h
      exact ⟨_, _, .reject hr hd, rfl⟩
    · split at h <;> rename_i hu <;> cases h
      · exact ⟨_, _, .fetch hr hd hu, rfl⟩
      · exact ⟨_, _, .refuse hr hd (Bool.eq_false_iff.mpr hu), rfl⟩
  · split at h <;> rename_i hg
    · cases h
      exact ⟨_, _, .arrive hr (by simpa using hg), rfl⟩
    · split at h <;> rename_i hm
      · cases h
        simp only [Bool.and_eq_true, List.contains_eq_mem, decide_eq_true_eq, Bool.not_eq_true',
          List.any_eq_false, Bool.not_eq_true] at hm
        exact ⟨_, _, .release hr (by simpa using hg) hm.1 hm.2, rfl⟩
      · cases h
  · cases h
    exact ⟨_, _, .extract hr, rfl⟩
  · split at h <;> rename_i hf <;> cases h
    · exact ⟨_, _, .fail hr hf, rfl⟩
    · exact ⟨_, _, .publish hr (Bool.eq_false_iff.mpr hf), rfl⟩
  · cases h
    exact ⟨_, _, .ack hr, rfl⟩
  · cases h
    exact ⟨_, _, .requeue hr, rfl⟩
  · cases h
  · cases h

theorem split_of_jobsStep? {s t : System} {tag : Nat} {before rs rs' : List Running}
    (h : jobsStep? c s tag before rs = some (rs', t)) :
    ∃ as r bs stage, rs = as ++ r :: bs ∧ r.tag = tag ∧ (∀ a ∈ as, a.tag ≠ tag) ∧
      stageStep? c s (before ++ as) r = some (stage, t) ∧
      rs' = as ++ { r with stage := stage } :: bs := by
  induction rs generalizing before rs' with
  | nil => cases h
  | cons r rs ih =>
      unfold jobsStep? at h
      split at h <;> rename_i hr
      · obtain ⟨⟨stage, u⟩, hs, he⟩ := Option.map_eq_some_iff.mp h
        cases he
        exact ⟨[], r, rs, stage, rfl, hr, by simp, by simpa using hs, rfl⟩
      · obtain ⟨⟨js, u⟩, hs, he⟩ := Option.map_eq_some_iff.mp h
        cases he
        obtain ⟨as, q, bs, stage, rfl, hq, ha, hstep, rfl⟩ := ih hs
        refine ⟨r :: as, q, bs, stage, rfl, hq, ?_, by simpa using hstep, rfl⟩
        intro a hm
        rcases List.mem_cons.mp hm with rfl | hm
        · exact hr
        · exact ha a hm

/-! ## The consumer -/

theorem eq_append_of_any_isOver {jobs : List Running} (h : jobs.any (·.stage.isOver)) :
    ∃ as r bs, jobs = as ++ r :: bs ∧ (∀ a ∈ as, a.stage.isOver = false) ∧
      r.stage.isOver = true ∧ jobs.eraseP (·.stage.isOver) = as ++ bs := by
  obtain ⟨r, hr, ho⟩ := List.any_eq_true.mp h
  obtain ⟨r, as, bs, ha, ho, he, herase⟩ :=
    List.exists_of_eraseP (p := (·.stage.isOver)) hr ho
  exact ⟨as, r, bs, he, fun a hm => Bool.eq_false_iff.mpr (ha a hm), ho, herase⟩

theorem transition_of_answerAttempt {s : System} {isHeld : Bool} {permits : Nat}
    (hp : s.phase = .connecting isHeld) (hc : s.isCancelled = false)
    (hh : s.connectPermits = if isHeld then permits + 1 else permits) :
    Transition c s .consumer ({ s with connectPermits := permits }.answerAttempt c) := by
  unfold System.answerAttempt
  split <;> rename_i hf
  · exact .connect hp hc hh hf
  · exact .fail hp hc hh hf

theorem transition_of_take? {s t : System} {jobs : List Running} (hp : s.phase = .consuming jobs)
    (hc : s.isCancelled = false) (hj : ∀ r ∈ jobs, r.stage.isOver = false)
    (hl : jobs.length < c.limit) (h : s.take? c jobs = some t) :
    Transition c s .consumer t := by
  unfold System.take? at h
  split at h
  · cases h
  · rename_i item rest hi
    split at h <;> cases h
    · exact .take hp hc hj hl hi
    · exact .finish hp hc hj hl hi (Or.inl rfl)
    · exact .finish hp hc hj hl hi (Or.inr rfl)

theorem transition_of_consumerStep? {s t : System} (h : s.consumerStep? c = some t) :
    Transition c s .consumer t := by
  unfold System.consumerStep? at h
  split at h <;> rename_i hp
  · cases h
  · cases h
  · cases h
    exact .begin hp
  · split at h <;> rename_i hc <;> cases h
    · exact .stop hc (by simp [hp]) (by simp [hp]) (by simp [hp])
    · exact .attempt hp (Bool.eq_false_iff.mpr hc)
  · split at h <;> rename_i hc
    · cases h
      exact .stop hc (by simp [hp]) (by simp [hp]) (by simp [hp])
    · replace hc := Bool.eq_false_iff.mpr hc
      split at h <;> rename_i hh
      · cases h
        exact transition_of_answerAttempt hp hc (by simp [show _ = false by simpa using hh])
      · split at h <;> rename_i hz
        · cases h
        · cases h
          refine transition_of_answerAttempt hp hc ?_
          simp only [show _ = true by simpa using hh, if_true]
          omega
  · split at h <;> rename_i hc
    · cases h
      exact .stop hc (by simp [hp]) (by simp [hp]) (by simp [hp])
    · replace hc := Bool.eq_false_iff.mpr hc
      split at h <;> rename_i ho
      · cases h
        obtain ⟨as, r, bs, rfl, ha, hr, he⟩ := eq_append_of_any_isOver ho
        rw [he]
        exact .leave hp hc ha hr
      · split at h <;> rename_i hl
        · refine transition_of_take? hp hc (fun r hm => ?_) hl h
          exact Bool.eq_false_iff.mpr fun hr => ho (List.any_eq_true.mpr ⟨r, hm, hr⟩)
        · cases h
  · split at h <;> rename_i hc
    · cases h
      exact .stop hc (by simp [hp]) (by simp [hp]) (by simp [hp])
    · split at h <;> rename_i hd <;> cases h
      exact .retry hp (Bool.eq_false_iff.mpr hc) hd

/-- There are no other moves. -/
theorem transition_of_step? {s t : System} {m : Move} (h : s.step? c m = some t) :
    Transition c s m t := by
  cases m with
  | input i =>
      cases h
      exact .input i
  | consumer => exact transition_of_consumerStep? h
  | job tag =>
      replace h : s.jobStep? c tag = some t := h
      unfold System.jobStep? at h
      split at h
      · rename_i jobs hp
        obtain ⟨⟨js, u⟩, hs, rfl⟩ := Option.map_eq_some_iff.mp h
        obtain ⟨as, r, bs, stage, rfl, rfl, ha, hstep, rfl⟩ := split_of_jobsStep? hs
        obtain ⟨events, released, hw, rfl⟩ := advance_of_stageStep? hstep
        exact .work hp ha (by simpa using hw)
      · cases h
  | wait span =>
      simp only [System.step?, Option.ite_none_right_eq_some, Bool.and_eq_true,
        Bool.not_eq_true'] at h
      obtain ⟨⟨hi, hd⟩, ht⟩ := h
      cases ht
      exact .wait hi hd

/-! ## Runs -/

theorem run?_append {s : System} (ms ns : List Move) :
    s.run? c (ms ++ ns) = (s.run? c ms).bind fun t => t.run? c ns := by
  simp [System.run?]

theorem run?_trans {s t u : System} {ms ns : List Move} (h : s.run? c ms = some t)
    (g : t.run? c ns = some u) : s.run? c (ms ++ ns) = some u := by
  rw [run?_append, h, Option.bind_some, g]

/-- What holds at first and is kept by every move holds of every run. The moves that were
made are at hand. -/
theorem run?_induction {P : List Move → System → Prop} {s : System} (hnil : P [] s)
    (hstep : ∀ ms m t u, s.run? c ms = some t → P ms t → Transition c t m u → P (ms ++ [m]) u)
    {ms : List Move} {t : System} (h : s.run? c ms = some t) : P ms t := by
  have hext : ∀ ns ms t u, s.run? c ms = some t → P ms t → t.run? c ns = some u →
      P (ms ++ ns) u := by
    intro ns
    induction ns with
    | nil =>
        intro ms t u _ hP hrun
        cases hrun
        simpa using hP
    | cons m ns ih =>
        intro ms t u ht hP hrun
        obtain ⟨v, hm, hns⟩ := Option.bind_eq_some_iff.mp hrun
        have hv : s.run? c (ms ++ [m]) = some v := by
          rw [run?_append, ht]
          simp [System.run?, hm]
        have hPv := hstep ms m t v ht hP (transition_of_step? hm)
        simpa using ih (ms ++ [m]) v u hv hPv hns
  simpa using hext ms [] s t rfl hnil h

/-! ## Moves of a kind -/

/-- Whether moves that are all of a kind lead from one system to another. -/
def Leads (c : Setup) (kind : Move → Bool) (s t : System) : Prop :=
  ∃ ms, (∀ m ∈ ms, kind m = true) ∧ s.run? c ms = some t

namespace Leads

variable {kind : Move → Bool} {s t u : System}

theorem refl (s : System) : Leads c kind s s :=
  ⟨[], by simp, rfl⟩

theorem trans (h : Leads c kind s t) (g : Leads c kind t u) : Leads c kind s u := by
  obtain ⟨ms, hms, hs⟩ := h
  obtain ⟨ns, hns, ht⟩ := g
  exact ⟨ms ++ ns, List.forall_mem_append.mpr ⟨hms, hns⟩, run?_trans hs ht⟩

theorem of_step? {m : Move} (hk : kind m = true) (h : s.step? c m = some t) :
    Leads c kind s t := by
  refine ⟨[m], List.forall_mem_singleton.mpr hk, ?_⟩
  simp [System.run?, h]

theorem mono {kind' : Move → Bool} (h : Leads c kind s t)
    (hk : ∀ m, kind m = true → kind' m = true) : Leads c kind' s t := by
  obtain ⟨ms, hms, hs⟩ := h
  exact ⟨ms, fun m hm => hk m (hms m hm), hs⟩

/-- What holds at first and is kept by every move of the kind holds in the end. -/
theorem invariant {P : System → Prop} (h : Leads c kind s t) (hs : P s)
    (hstep : ∀ t m u, P t → Transition c t m u → kind m = true → P u) : P t := by
  obtain ⟨ms, hms, hrun⟩ := h
  refine run?_induction (P := fun ms t => (∀ m ∈ ms, kind m = true) → P t)
    (fun _ => hs) ?_ hrun hms
  intro ms m t u _ ih hm hk
  obtain ⟨hms, hlast⟩ := List.forall_mem_append.mp hk
  exact hstep t m u (ih hms) hm (hlast m List.mem_cons_self)

end Leads

end LinkPreview.Queue
