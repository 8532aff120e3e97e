import LinkPreview.Queue.Consumer

/-!
# Turns

One way for the parts of the system to take turns: the consumer moves as long as it can,
then each job does, in the order in which they began, and so on until no part can move.
Reading a page takes longer than anything else, so it ends only when nothing else can
happen. Work takes no time; time passes between one such rest and the next moment when the
consumer has to move.

Every move of the consumer or of a job lowers `System.potential`, so the system always
comes to rest.
-/

namespace LinkPreview.Queue

/-- How many moves a job in this stage can have before it, at most, and one for its end. -/
def Stage.weight : Stage → Nat
  | begun => 6
  | fetching _ => 5
  | extracting _ _ => 4
  | ready _ _ => 3
  | published _ | refused _ => 2
  | finished | crashed => 1

/-- The moves that jobs can have before them, and their ends. -/
def jobsWeight : List Running → Nat
  | [] => 0
  | r :: rs => r.stage.weight + jobsWeight rs

theorem jobsWeight_append (rs ss : List Running) :
    jobsWeight (rs ++ ss) = jobsWeight rs + jobsWeight ss := by
  induction rs with
  | nil => simp [jobsWeight]
  | cons r rs ih => simp only [List.cons_append, jobsWeight, ih, Nat.add_assoc]

/-- How many moves a phase can have before it that use nothing up. -/
def Phase.weight : Phase → Nat
  | unstarted | stopped => 0
  | consuming jobs => 1 + jobsWeight jobs
  | connecting _ => 2
  | dialling => 3
  | starting | waiting _ => 4

namespace System

/-- A bound on the moves that the system can make by itself. -/
def potential (s : System) : Nat :=
  12 * (s.inbound.length + s.failures) + s.phase.weight

@[simp]
theorem potential_enter (s : System) (p : Phase) :
    (s.enter p).potential = 12 * (s.inbound.length + s.failures) + p.weight := by
  unfold enter
  simp only
  split <;> rfl

@[simp]
theorem potential_disconnect (c : Setup) (s : System) :
    (s.disconnect c).potential = 12 * (s.inbound.length + s.failures) + 4 :=
  potential_enter s _

theorem potential_answerAttempt_lt (c : Setup) (s : System) :
    (s.answerAttempt c).potential < 12 * (s.inbound.length + s.failures) + 2 := by
  unfold answerAttempt
  split
  · simp [Phase.weight, jobsWeight]
  · rw [potential_disconnect]
    simp only [note]
    omega

theorem potential_take?_lt {c : Setup} {s s' : System} {jobs : List Running}
    (h : s.take? c jobs = some s') :
    s'.potential < 12 * (s.inbound.length + s.failures) + 1 + jobsWeight jobs := by
  unfold take? at h
  split at h
  · cases h
  · rename_i item rest hi
    simp only [hi, List.length_cons]
    split at h <;> cases h
    · simp only [potential, note, Phase.weight, jobsWeight_append, jobsWeight, Stage.weight]
      omega
    · rw [potential_disconnect]
      simp only [note]
      omega
    · rw [potential_disconnect]
      simp only [note]
      omega

theorem jobsWeight_eraseP_lt {jobs : List Running} (h : jobs.any (·.stage.isOver)) :
    jobsWeight (jobs.eraseP (·.stage.isOver)) < jobsWeight jobs := by
  induction jobs with
  | nil => simp at h
  | cons r rs ih =>
    by_cases hr : r.stage.isOver
    · have : 0 < r.stage.weight := by cases r.stage <;> simp [Stage.weight]
      simp [jobsWeight, hr, this]
    · simp only [List.any_cons, hr, Bool.false_or] at h
      have := ih h
      simp [jobsWeight, hr, this]

theorem potential_enter_lt {s : System} {p : Phase} (h : p.weight < s.phase.weight) :
    (s.enter p).potential < s.potential := by
  rw [potential_enter, potential]
  omega

/-- A move of the consumer lowers the potential. -/
theorem potential_consumerStep?_lt {c : Setup} {s s' : System}
    (h : s.consumerStep? c = some s') : s'.potential < s.potential := by
  unfold consumerStep? at h
  split at h <;> rename_i hp
  · cases h
  · cases h
  · cases h
    exact potential_enter_lt (by simp [hp, Phase.weight])
  · split at h <;> cases h
    · exact potential_enter_lt (by simp [hp, Phase.weight])
    · simp [potential, hp, note, Phase.weight]
  · have hw : s.potential = 12 * (s.inbound.length + s.failures) + 2 := by
      simp [potential, hp, Phase.weight]
    split at h
    · cases h
      exact potential_enter_lt (by simp [hp, Phase.weight])
    · split at h
      · cases h
        rw [hw]
        exact potential_answerAttempt_lt c s
      · split at h
        · cases h
        · cases h
          rw [hw]
          exact potential_answerAttempt_lt c _
  · rename_i jobs
    have hw : s.potential = 12 * (s.inbound.length + s.failures) + 1 + jobsWeight jobs := by
      simp [potential, hp, Phase.weight, Nat.add_assoc]
    split at h
    · cases h
      exact potential_enter_lt (by simp only [hp, Phase.weight]; omega)
    · split at h
      · rename_i ho
        cases h
        have := jobsWeight_eraseP_lt ho
        simp only [potential, Phase.weight, hp]
        omega
      · split at h
        · rw [hw]
          exact potential_take?_lt h
        · cases h
  · split at h
    · cases h
      exact potential_enter_lt (by simp [hp, Phase.weight])
    · split at h
      · cases h
        exact potential_enter_lt (by simp [hp, Phase.weight])
      · cases h

/-- What a move of a job leaves as it is. -/
structure KeepsSupply (s t : System) : Prop where
  inbound_eq : t.inbound = s.inbound
  failures_eq : t.failures = s.failures

theorem weight_arrival_lt (job : Job) (content : Page.Content) :
    (arrival job content).weight < 5 := by
  cases content <;> simp [arrival, Stage.weight]

theorem stageStep?_weight {c : Setup} {s t : System} {before : List Running} {r : Running}
    {stage : Stage} (h : stageStep? c s before r = some (stage, t)) :
    stage.weight < r.stage.weight ∧ KeepsSupply s t := by
  unfold stageStep? at h
  split at h <;> rename_i hr <;> simp only [hr]
  · split at h
    · cases h
      exact ⟨by simp [Stage.weight], rfl, rfl⟩
    · split at h <;> cases h <;> exact ⟨by simp [Stage.weight], rfl, rfl⟩
  · split at h
    · cases h
      exact ⟨weight_arrival_lt _ _, rfl, rfl⟩
    · split at h
      · cases h
        exact ⟨weight_arrival_lt _ _, rfl, rfl⟩
      · cases h
  · cases h
    exact ⟨by simp [Stage.weight], rfl, rfl⟩
  · split at h <;> cases h <;> exact ⟨by simp [Stage.weight], rfl, rfl⟩
  · cases h
    exact ⟨by simp [Stage.weight], rfl, rfl⟩
  · cases h
    exact ⟨by simp [Stage.weight], rfl, rfl⟩
  · cases h
  · cases h

theorem jobsStep?_weight {c : Setup} {s t : System} {tag : Nat} {before rs rs' : List Running}
    (h : jobsStep? c s tag before rs = some (rs', t)) :
    jobsWeight rs' < jobsWeight rs ∧ KeepsSupply s t := by
  induction rs generalizing before rs' with
  | nil => cases h
  | cons r rs ih =>
    unfold jobsStep? at h
    split at h
    · obtain ⟨⟨stage, u⟩, hs, he⟩ := Option.map_eq_some_iff.1 h
      cases he
      obtain ⟨hw, hk⟩ := stageStep?_weight hs
      exact ⟨by simp [jobsWeight, hw], hk⟩
    · obtain ⟨⟨js, u⟩, hs, he⟩ := Option.map_eq_some_iff.1 h
      cases he
      obtain ⟨hw, hk⟩ := ih hs
      exact ⟨by simp [jobsWeight, hw], hk⟩

/-- A move of a job lowers the potential. -/
theorem potential_jobStep?_lt {c : Setup} {s s' : System} {tag : Nat}
    (h : s.jobStep? c tag = some s') : s'.potential < s.potential := by
  unfold jobStep? at h
  split at h
  · rename_i jobs hp
    obtain ⟨⟨js, t⟩, hs, he⟩ := Option.map_eq_some_iff.1 h
    cases he
    obtain ⟨hw, hi, hf⟩ := jobsStep?_weight hs
    simp only [potential, hp, Phase.weight, hi, hf]
    omega
  · cases h

/-- The first move of a job whose stage is of the given kind. -/
def firstJobStep? (c : Setup) (kind : Stage → Bool) (s : System) : Option System :=
  s.jobs.findSome? fun r => if kind r.stage then s.jobStep? c r.tag else none

theorem potential_firstJobStep?_lt {c : Setup} {kind : Stage → Bool} {s s' : System}
    (h : s.firstJobStep? c kind = some s') : s'.potential < s.potential := by
  obtain ⟨r, -, hr⟩ := List.exists_of_findSome?_eq_some h
  split at hr
  · exact potential_jobStep?_lt hr
  · cases hr

/-- Whether a stage is that of reading a page. -/
def isReading : Stage → Bool
  | .extracting _ _ => true
  | _ => false

/-- Lets all jobs move as long as they can, but for reading pages. -/
def runJobs (c : Setup) (s : System) : System :=
  match h : s.firstJobStep? c (!isReading ·) with
  | some s' =>
    have := potential_firstJobStep?_lt h
    runJobs c s'
  | none => s
termination_by s.potential

/-- Lets the consumer move as long as it can. -/
def runConsumer (c : Setup) (s : System) : System :=
  match h : s.consumerStep? c with
  | some s' =>
    have := potential_consumerStep?_lt h
    runConsumer c s'
  | none => s
termination_by s.potential

theorem potential_runJobs_le (c : Setup) (s : System) :
    (s.runJobs c).potential ≤ s.potential := by
  fun_induction runJobs c s with
  | case1 s s' h _ ih => exact Nat.le_trans ih (Nat.le_of_lt (potential_firstJobStep?_lt h))
  | case2 => exact Nat.le_refl _

theorem potential_runConsumer_le (c : Setup) (s : System) :
    (s.runConsumer c).potential ≤ s.potential := by
  fun_induction runConsumer c s with
  | case1 s s' h _ ih => exact Nat.le_trans ih (Nat.le_of_lt (potential_consumerStep?_lt h))
  | case2 => exact Nat.le_refl _

/-- The system after one turn of everybody. -/
def turn (c : Setup) (s : System) : System :=
  (s.runConsumer c).runJobs c

theorem potential_turn_le (c : Setup) (s : System) : (s.turn c).potential ≤ s.potential :=
  Nat.le_trans (potential_runJobs_le c _) (potential_runConsumer_le c s)

/-- What the system becomes when a turn has gone round and something can still happen. -/
def resume? (c : Setup) (s : System) : Option System :=
  match s.consumerStep? c with
  | some s' => some s'
  | none => s.firstJobStep? c isReading

theorem potential_resume?_lt {c : Setup} {s s' : System} (h : s.resume? c = some s') :
    s'.potential < s.potential := by
  unfold resume? at h
  split at h
  · cases h
    rename_i h
    exact potential_consumerStep?_lt h
  · exact potential_firstJobStep?_lt h

/-- The system when no part of it can move any more. -/
def rest (c : Setup) (s : System) : System :=
  match h : (s.turn c).resume? c with
  | some s' =>
    have : s'.potential < s.potential :=
      Nat.lt_of_lt_of_le (potential_resume?_lt h) (potential_turn_le c s)
    rest c s'
  | none => s.turn c
termination_by s.potential

theorem potential_rest_le (c : Setup) (s : System) : (s.rest c).potential ≤ s.potential := by
  fun_induction rest c s with
  | case1 s s' h hlt ih => exact Nat.le_trans ih (Nat.le_of_lt hlt)
  | case2 s h => exact potential_turn_le c s

/-- The moment when the consumer has to move, if that is not later than `time`. -/
def due? (s : System) (time : Nat) : Option Nat :=
  match s.phase with
  | .waiting due => if due ≤ time then some (max due s.time) else none
  | _ => none

/-- The consumer's move at a moment when it has to move. -/
def wake? (c : Setup) (due : Nat) (s : System) : Option System :=
  { s with time := due }.consumerStep? c

theorem potential_wake?_lt {c : Setup} {due : Nat} {s s' : System}
    (h : s.wake? c due = some s') : s'.potential < s.potential := by
  have hlt := potential_consumerStep?_lt (show consumerStep? c _ = some s' from h)
  exact hlt

/-- The system at a later time. -/
def advance (c : Setup) (time : Nat) (s : System) : System :=
  match h : (s.due? time).bind fun due => s.wake? c due with
  | some s' =>
    have : (s'.rest c).potential < s.potential := by
      obtain ⟨due, -, hw⟩ := Option.bind_eq_some_iff.1 h
      exact Nat.lt_of_le_of_lt (potential_rest_le c s') (potential_wake?_lt hw)
    advance c time (s'.rest c)
  | none => { s with time := time }
termination_by s.potential

/-- The system after something was done from outside, everything came to rest, and a span
of time has passed. -/
def act (c : Setup) (i : Input) (span : Nat) (s : System) : System :=
  ((s.input i).rest c).advance c (s.time + span)

end System

end LinkPreview.Queue
