import LinkPreview.Proofs.Queue.History
import LinkPreview.Queue.Schedule

/-!
# Turns are runs

`System.act` lets the parts of the system take turns until it comes to rest. Whatever it comes
to, a run comes to as well: the input, and then moves of the parts and waits only. So what
holds of all runs holds of what an observer of `System.act` sees.
-/

namespace LinkPreview.Queue

open LinkPreview.Queue.System

/-- Whether a move is one of the system itself. -/
def Move.isOwn : Move → Bool
  | .consumer | .job _ => true
  | .input _ | .wait _ => false

/-- What is done from outside by a move. -/
def Move.input? : Move → Option Input
  | .input i => some i
  | _ => none

variable {c : Setup} {s t : System}

/-! ## Coming to rest -/

theorem Leads.of_firstJobStep? {p : Stage → Bool} (h : s.firstJobStep? c p = some t) :
    Leads c Move.isOwn s t := by
  obtain ⟨r, -, hr⟩ := List.exists_of_findSome?_eq_some h
  split at hr
  · exact .of_step? (m := .job r.tag) rfl hr
  · cases hr

theorem leads_runJobs (s : System) : Leads c Move.isOwn s (s.runJobs c) := by
  fun_induction runJobs c s with
  | case1 s s' h _ ih => exact (Leads.of_firstJobStep? h).trans ih
  | case2 s h => exact .refl s

theorem leads_runConsumer (s : System) : Leads c Move.isOwn s (s.runConsumer c) := by
  fun_induction runConsumer c s with
  | case1 s s' h _ ih => exact (Leads.of_step? (m := .consumer) rfl h).trans ih
  | case2 s h => exact .refl s

theorem leads_turn (s : System) : Leads c Move.isOwn s (s.turn c) :=
  (leads_runConsumer s).trans (leads_runJobs _)

theorem leads_rest (s : System) : Leads c Move.isOwn s (s.rest c) := by
  fun_induction rest c s with
  | case1 s s' h _ ih =>
      refine (leads_turn s).trans (Leads.trans ?_ ih)
      unfold resume? at h
      split at h
      · cases h
        rename_i h
        exact .of_step? (m := .consumer) rfl h
      · exact .of_firstJobStep? h
  | case2 s h => exact leads_turn s

theorem firstJobStep?_runJobs (s : System) :
    (s.runJobs c).firstJobStep? c (!isReading ·) = none := by
  fun_induction runJobs c s with
  | case1 s s' h _ ih => exact ih
  | case2 s h => exact h

/-- A system at rest has no move of its own. -/
theorem isIdle_rest (s : System) : (s.rest c).isIdle c = true := by
  fun_induction rest c s with
  | case1 s s' h _ ih => exact ih
  | case2 s h =>
      have hjobs : (s.turn c).firstJobStep? c (!isReading ·) = none := firstJobStep?_runJobs _
      unfold resume? at h
      split at h
      · cases h
      · rename_i hconsumer
        have hall : ∀ r ∈ (s.turn c).jobs, (s.turn c).jobStep? c r.tag = none := by
          intro r hr
          have h₁ := List.findSome?_eq_none_iff.mp h r hr
          have h₂ := List.findSome?_eq_none_iff.mp hjobs r hr
          cases hs : isReading r.stage <;> simp [hs] at h₁ h₂
          · exact h₂
          · exact h₁
        exact isIdle_iff.mpr ⟨hconsumer, hall⟩

/-! ## Time -/

theorem time_enter (p : Phase) : (s.enter p).time = s.time := by
  unfold enter
  split <;> rfl

/-- Moves of the system itself take no time. -/
theorem Transition.time_eq {m : Move} (h : Transition c s m t) (hm : m.isOwn = true) :
    t.time = s.time := by
  cases h with
  | input | wait => cases hm
  | begin | stop | retry | connect => rw [time_enter]
  | fail | finish => exact time_enter _
  | attempt | leave | take | work => rfl

theorem Leads.time_eq (h : Leads c Move.isOwn s t) : t.time = s.time :=
  h.invariant (P := fun t => t.time = s.time) rfl fun _ _ _ ht hm hk => (hm.time_eq hk).trans ht

theorem time_input (i : Input) : (s.input i).time = s.time := by
  cases i with
  | start => rcases input_start s with ⟨-, he⟩ | ⟨-, he⟩ <;> rw [he]
  | _ => rfl

theorem input?_of_isOwn {m : Move} (h : m.isOwn = true) : m.input?.isNone = true := by
  cases m <;> first | rfl | cases h

/-- A system that is idle can wait for any moment that the consumer need not be up before. -/
theorem leads_wait (hi : s.isIdle c = true) {time : Nat} (ht : s.time ≤ time)
    (hd : s.isDueBefore time = false) :
    Leads c (·.input?.isNone) s { s with time := time } := by
  have he : s.time + (time - s.time) = time := by omega
  apply Leads.of_step? (m := .wait (time - s.time)) rfl
  simp [System.step?, hi, he, hd]

theorem consumerStep?_of_waiting {due : Nat} (hp : s.phase = .waiting due) (ht : due ≤ s.time) :
    s.consumerStep? c ≠ none := by
  simp only [System.consumerStep?, hp, ht, if_true]
  split <;> nofun

/-- If an idle system is woken as time passes, the consumer has waited for that moment. -/
theorem exists_due_of_wake? (hi : s.isIdle c = true) {time : Nat}
    (h : ((s.due? time).bind fun due => s.wake? c due) = some t) :
    ∃ due, s.phase = .waiting due ∧ s.time < due ∧ due ≤ time ∧ s.wake? c due = some t := by
  obtain ⟨moment, hdue, hw⟩ := Option.bind_eq_some_iff.mp h
  obtain ⟨due, hp, hle, rfl⟩ : ∃ due, s.phase = .waiting due ∧ due ≤ time ∧
      max due s.time = moment := by
    unfold System.due? at hdue
    split at hdue
    · rename_i due hp
      simp only [Option.ite_none_right_eq_some, Option.some.injEq] at hdue
      exact ⟨due, hp, hdue⟩
    · cases hdue
  have hlt : s.time < due := by
    -- Otherwise the consumer could move, but the system is idle.
    apply Decidable.byContradiction
    intro hge
    exact consumerStep?_of_waiting hp (by omega) (isIdle_iff.mp hi).1
  have hmax : max due s.time = due := by omega
  rw [hmax] at hw
  exact ⟨due, hp, hlt, hle, hw⟩

/-- If nothing is woken as time passes, no moment has come that the consumer waits for. -/
theorem lt_due_of_wake?_eq_none {time : Nat}
    (h : ((s.due? time).bind fun due => s.wake? c due) = none) {due : Nat}
    (hp : s.phase = .waiting due) : time < due := by
  apply Decidable.byContradiction
  intro hge
  have hdue : s.due? time = some (max due s.time) := by
    simp only [System.due?, hp, if_pos (Nat.not_lt.mp hge)]
  rw [hdue, Option.bind_some] at h
  refine consumerStep?_of_waiting (s := { s with time := max due s.time }) hp ?_ h
  exact Nat.le_max_left _ _

theorem leads_rest_of_wake? {due : Nat} (h : s.wake? c due = some t) :
    Leads c Move.isOwn { s with time := due } (t.rest c) :=
  (Leads.of_step? (m := .consumer) rfl h).trans (leads_rest t)

theorem time_rest_of_wake? {due : Nat} (h : s.wake? c due = some t) : (t.rest c).time = due :=
  (leads_rest_of_wake? h).time_eq

/-- As time passes, the consumer moves whenever it has to. -/
theorem leads_advance (hi : s.isIdle c = true) {time : Nat} (ht : s.time ≤ time) :
    Leads c (·.input?.isNone) s (s.advance c time) := by
  fun_induction System.advance c time s with
  | case1 s s' h _ ih =>
      obtain ⟨due, hp, hlt, hle, hw⟩ := exists_due_of_wake? hi h
      have hwait : Leads c (·.input?.isNone) s { s with time := due } :=
        leads_wait hi (by omega) (by simp [System.isDueBefore, hp])
      have hmove := leads_rest_of_wake? hw
      have htime : (s'.rest c).time = due := hmove.time_eq
      refine hwait.trans ((hmove.mono fun _ => input?_of_isOwn).trans ?_)
      exact ih (isIdle_rest s') (by omega)
  | case2 s h =>
      apply leads_wait hi ht
      unfold System.isDueBefore
      split
      · rename_i due hp
        simpa using Nat.le_of_lt (lt_due_of_wake?_eq_none h hp)
      · rfl

/-- What the system comes to when something is done from outside, a run comes to by that and
by moves that nobody does from outside. -/
theorem exists_run?_act (i : Input) (span : Nat) (s : System) :
    ∃ ms, ms.filterMap Move.input? = [i] ∧ System.run? c s ms = some (s.act c i span) := by
  have hrest : Leads c Move.isOwn (s.input i) ((s.input i).rest c) := leads_rest _
  have htime : ((s.input i).rest c).time = s.time := by
    rw [hrest.time_eq, time_input]
  have hle : ((s.input i).rest c).time ≤ s.time + span := by omega
  obtain ⟨ms, hms, hrun⟩ := (hrest.mono fun _ => input?_of_isOwn).trans
    (leads_advance (isIdle_rest (c := c) (s.input i)) hle)
  refine ⟨.input i :: ms, ?_, hrun⟩
  have hnil : ms.filterMap Move.input? = [] :=
    List.filterMap_eq_nil_iff.mpr fun m hm => by simpa using hms m hm
  simp [Move.input?, hnil]

/-- The systems that are reported about are those of runs. -/
theorem exists_run?_acts (acts : List (Input × Nat)) (s : System) :
    ∃ ms, ms.filterMap Move.input? = acts.map Prod.fst ∧
      System.run? c s ms = some (acts.foldl (fun s a => s.act c a.1 a.2) s) := by
  induction acts generalizing s with
  | nil => exact ⟨[], rfl, rfl⟩
  | cons a acts ih =>
      obtain ⟨ms, hms, hs⟩ := exists_run?_act (c := c) a.1 a.2 s
      obtain ⟨ns, hns, ht⟩ := ih (s.act c a.1 a.2)
      refine ⟨ms ++ ns, ?_, ?_⟩
      · rw [List.filterMap_append, hms, hns]
        rfl
      · exact run?_trans hs ht

/-! ## Stopping -/

theorem runConsumer_of_none (h : s.consumerStep? c = none) : s.runConsumer c = s := by
  rw [runConsumer]
  split <;> rename_i he
  · rw [h] at he
    cases he
  · rfl

theorem runConsumer_of_some (h : s.consumerStep? c = some t) :
    s.runConsumer c = t.runConsumer c := by
  rw [runConsumer]
  split <;> rename_i he
  · rw [h] at he
    cases he
    rfl
  · rw [h] at he
    cases he

theorem consumerStep?_runConsumer (s : System) : (s.runConsumer c).consumerStep? c = none := by
  fun_induction runConsumer c s with
  | case1 s s' h _ ih => exact ih
  | case2 s h => exact h

theorem firstJobStep?_of_jobs_eq_nil (h : s.jobs = []) (kind : Stage → Bool) :
    s.firstJobStep? c kind = none := by
  simp [firstJobStep?, h]

theorem runJobs_of_none (h : s.firstJobStep? c (!isReading ·) = none) : s.runJobs c = s := by
  rw [runJobs]
  split <;> rename_i he
  · rw [h] at he
    cases he
  · rfl

theorem rest_of_none (h : (s.turn c).resume? c = none) : s.rest c = s.turn c := by
  rw [rest]
  split <;> rename_i he
  · rw [h] at he
    cases he
  · rfl

theorem consumerStep?_of_stopped (h : s.phase = .stopped) : s.consumerStep? c = none := by
  simp [consumerStep?, h]

theorem jobs_of_stopped (h : s.phase = .stopped) : s.jobs = [] := by
  rw [System.jobs, h]

/-- A consumer that is cancelled stops with its next move. -/
theorem consumerStep?_of_isCancelled (hc : s.isCancelled = true) (hu : s.phase ≠ .unstarted)
    (hs : s.phase ≠ .starting) (ho : s.phase ≠ .stopped) :
    s.consumerStep? c = some (s.enter .stopped) := by
  cases hp : s.phase with
  | unstarted => exact absurd hp hu
  | starting => exact absurd hp hs
  | stopped => exact absurd hp ho
  | dialling | connecting | consuming | waiting => simp [consumerStep?, hp, hc]

/-- When the consumer has moved as long as it can and no job runs, nothing else happens. -/
theorem rest_of_jobs_eq_nil (h : (s.runConsumer c).jobs = []) : s.rest c = s.runConsumer c := by
  have hturn : s.turn c = s.runConsumer c := runJobs_of_none (firstJobStep?_of_jobs_eq_nil h _)
  have hresume : (s.turn c).resume? c = none := by
    rw [hturn, resume?, consumerStep?_runConsumer]
    exact firstJobStep?_of_jobs_eq_nil h _
  rw [rest_of_none hresume, hturn]

/-- When the parts take turns, a consumer that is cancelled stops before anything else
happens. -/
theorem rest_of_isCancelled (hc : s.isCancelled = true) (hu : s.phase ≠ .unstarted)
    (hs : s.phase ≠ .starting) (ho : s.phase ≠ .stopped) : s.rest c = s.enter .stopped := by
  have hstopped : (s.enter .stopped).phase = .stopped := phase_enter _
  have hrun : s.runConsumer c = s.enter .stopped := by
    rw [runConsumer_of_some (consumerStep?_of_isCancelled hc hu hs ho),
      runConsumer_of_none (consumerStep?_of_stopped hstopped)]
  rw [rest_of_jobs_eq_nil, hrun]
  rw [hrun]
  exact jobs_of_stopped hstopped

theorem advance_of_wake?_eq_none {time : Nat}
    (h : ((s.due? time).bind fun due => s.wake? c due) = none) :
    s.advance c time = { s with time := time } := by
  rw [advance]
  split <;> rename_i he
  · rw [h] at he
    cases he
  · rfl

theorem advance_of_wake? {time : Nat}
    (h : ((s.due? time).bind fun due => s.wake? c due) = some t) :
    s.advance c time = (t.rest c).advance c time := by
  rw [advance]
  split <;> rename_i he
  · rw [h] at he
    cases he
    rfl
  · rw [h] at he
    cases he

/-- Time just passes while the consumer has no moment when it has to move. -/
theorem advance_of_due?_eq_none {time : Nat} (h : s.due? time = none) :
    s.advance c time = { s with time := time } :=
  advance_of_wake?_eq_none (by rw [h, Option.bind_none])

theorem advance_of_stopped (h : s.phase = .stopped) (time : Nat) :
    s.advance c time = { s with time := time } :=
  advance_of_due?_eq_none (by simp [due?, h])

/-- A consumer at work that is cancelled has stopped before time passes. -/
theorem act_cancel (hu : s.phase ≠ .unstarted) (hs : s.phase ≠ .starting)
    (ho : s.phase ≠ .stopped) (span : Nat) : s.act c .cancel span =
      { { s with isCancelled := true }.enter .stopped with time := s.time + span } := by
  have hrest : (s.input .cancel).rest c = { s with isCancelled := true }.enter .stopped :=
    rest_of_isCancelled rfl hu hs ho
  rw [act, hrest]
  exact advance_of_stopped (phase_enter _) _

/-! ## Time that is divided -/

/-- A job moves or not, whatever the time is. -/
theorem isSome_stageStep?_time (time : Nat) (before : List Running) (r : Running) :
    (stageStep? c { s with time := time } before r).isSome =
      (stageStep? c s before r).isSome := by
  unfold stageStep?
  cases hr : r.stage with
  | begun =>
      cases Job.decode? r.payload with
      | none => rfl
      | some job => simp only [apply_ite Option.isSome]; rfl
  | fetching job => simp only [apply_ite Option.isSome]; rfl
  | extracting | published | refused | finished | crashed => rfl
  | ready => simp only [apply_ite Option.isSome]; rfl

theorem isSome_jobsStep?_time (time tag : Nat) (before rs : List Running) :
    (jobsStep? c { s with time := time } tag before rs).isSome =
      (jobsStep? c s tag before rs).isSome := by
  induction rs generalizing before with
  | nil => rfl
  | cons r rs ih =>
      unfold jobsStep?
      split
      · simp only [Option.isSome_map, isSome_stageStep?_time]
      · simp only [Option.isSome_map, ih]

theorem isSome_jobStep?_time (time tag : Nat) :
    (System.jobStep? c { s with time := time } tag).isSome = (s.jobStep? c tag).isSome := by
  rcases s with ⟨phase⟩
  cases phase with
  | consuming jobs =>
      simp only [System.jobStep?, Option.isSome_map]
      symm
      exact (isSome_jobsStep?_time time tag [] jobs).symm
  | _ => rfl

theorem isSome_take?_time (time : Nat) (jobs : List Running) :
    (System.take? c { s with time := time } jobs).isSome = (s.take? c jobs).isSome := by
  unfold System.take?
  cases s.inbound with
  | nil => rfl
  | cons item rest => cases item <;> rfl

/-- The consumer moves or not, whatever the time is, unless it waits for a moment. -/
theorem isSome_consumerStep?_time {time : Nat}
    (hd : ∀ due, s.phase = .waiting due → (due ≤ time ↔ due ≤ s.time)) :
    (System.consumerStep? c { s with time := time }).isSome = (s.consumerStep? c).isSome := by
  rcases s with ⟨phase⟩
  cases phase with
  | waiting due =>
      have hiff := hd due rfl
      simp only [System.consumerStep?, hiff, apply_ite Option.isSome]
      rfl
  | consuming jobs =>
      simp only [System.consumerStep?, apply_ite Option.isSome, ← isSome_take?_time time]
      rfl
  | dialling | connecting =>
      simp only [System.consumerStep?, apply_ite Option.isSome]
      rfl
  | unstarted | starting | stopped => rfl

/-- A system stays idle until the consumer has to move. -/
theorem isIdle_time (hi : s.isIdle c = true) {time : Nat}
    (hd : ∀ due, s.phase = .waiting due → time < due) :
    System.isIdle c { s with time := time } = true := by
  obtain ⟨hnone, hjobs⟩ := isIdle_iff.mp hi
  have hstep : (System.consumerStep? c { s with time := time }).isSome =
      (s.consumerStep? c).isSome := by
    apply isSome_consumerStep?_time
    intro due hp
    constructor
    · intro hle
      exact absurd hle (Nat.not_le.mpr (hd due hp))
    · intro hle
      exact absurd hnone (consumerStep?_of_waiting hp hle)
  rw [hnone, Option.isSome_none, Option.isSome_eq_false_iff, Option.isNone_iff_eq_none] at hstep
  refine isIdle_iff.mpr ⟨hstep, ?_⟩
  intro r hr
  have hjob := isSome_jobStep?_time (c := c) (s := s) time r.tag
  rw [hjobs r hr] at hjob
  simpa using hjob

theorem rest_of_isIdle (hi : s.isIdle c = true) : s.rest c = s := by
  obtain ⟨hnone, hjobs⟩ := isIdle_iff.mp hi
  have hfirst : ∀ kind, s.firstJobStep? c kind = none := by
    intro kind
    apply List.findSome?_eq_none_iff.mpr
    intro r hr
    simp [hjobs r hr]
  have hturn : s.turn c = s := by
    rw [turn, runConsumer_of_none hnone, runJobs_of_none (hfirst _)]
  have hresume : (s.turn c).resume? c = none := by
    rw [hturn, resume?, hnone]
    exact hfirst _
  rw [rest_of_none hresume, hturn]

/-- An idle system is idle when time has passed. -/
theorem isIdle_advance (hi : s.isIdle c = true) (time : Nat) :
    (s.advance c time).isIdle c = true := by
  fun_induction System.advance c time s with
  | case1 s s' h _ ih => exact ih (isIdle_rest s')
  | case2 s h => exact isIdle_time hi fun due => lt_due_of_wake?_eq_none h

theorem isIdle_act (i : Input) (span : Nat) (s : System) : (s.act c i span).isIdle c = true :=
  isIdle_advance (isIdle_rest _) _

theorem time_advance (hi : s.isIdle c = true) {time : Nat} (ht : s.time ≤ time) :
    (s.advance c time).time = time := by
  fun_induction System.advance c time s with
  | case1 s s' h _ ih =>
      obtain ⟨due, -, -, hle, hw⟩ := exists_due_of_wake? hi h
      have hdue : (s'.rest c).time = due := time_rest_of_wake? hw
      exact ih (isIdle_rest s') (by omega)
  | case2 s h => rfl

theorem time_rest_input (i : Input) (s : System) : ((s.input i).rest c).time = s.time := by
  rw [Leads.time_eq (leads_rest _), time_input]

theorem time_act (i : Input) (span : Nat) (s : System) :
    (s.act c i span).time = s.time + span := by
  have htime := time_rest_input (c := c) i s
  exact time_advance (isIdle_rest _) (by omega)

/-- It does not matter whether a span of time passes at once or in two parts. -/
theorem advance_advance (hi : s.isIdle c = true) {time later : Nat} (ht : s.time ≤ time)
    (hl : time ≤ later) : (s.advance c time).advance c later = s.advance c later := by
  fun_induction System.advance c time s with
  | case1 s s' h _ ih =>
      obtain ⟨due, hp, hlt, hle, hw⟩ := exists_due_of_wake? hi h
      have hdue : s.due? later = some due := by
        have hmax : max due s.time = due := by omega
        simp only [System.due?, hp, if_pos (Nat.le_trans hle hl), hmax]
      have hwake : ((s.due? later).bind fun due => s.wake? c due) = some s' := by
        rw [hdue, Option.bind_some, hw]
      have htime : (s'.rest c).time = due := time_rest_of_wake? hw
      rw [advance_of_wake? hwake]
      exact ih (isIdle_rest s') (by omega)
  | case2 s h =>
      have hlt : ∀ due, s.phase = .waiting due → time < due :=
        fun due => lt_due_of_wake?_eq_none h
      -- The consumer waits for the same moment as before.
      have hdue : System.due? { s with time := time } later = s.due? later := by
        unfold System.due?
        cases hp : s.phase with
        | waiting due =>
            have hd := hlt due hp
            have hmax : max due time = due := by omega
            have hmax' : max due s.time = due := by omega
            simp only [hmax, hmax']
        | _ => rfl
      cases hw : (s.due? later).bind fun due => s.wake? c due with
      | none =>
          rw [advance_of_wake?_eq_none hw, advance_of_wake?_eq_none]
          · rw [hdue]
            exact hw
      | some s' =>
          rw [advance_of_wake? hw, advance_of_wake?]
          · rw [hdue]
            exact hw

/-- When something has been done and time has passed, it makes no difference whether more time
passes then or has passed at once. -/
theorem act_nothing (i : Input) (span more : Nat) (s : System) :
    (s.act c i span).act c .nothing more = s.act c i (span + more) := by
  have hidle : (s.act c i span).isIdle c = true := isIdle_act i span s
  have htime := time_rest_input (c := c) i s
  have hact : (s.act c i span).act c .nothing more =
      (s.act c i span).advance c ((s.act c i span).time + more) :=
    congrArg (System.advance c _) (rest_of_isIdle hidle)
  rw [hact, time_act, act, act, ← Nat.add_assoc]
  exact advance_advance (isIdle_rest _) (by omega) (by omega)

end LinkPreview.Queue
