import LinkPreview.Proofs.Queue.Cancellation

/-!
# Attempts to connect

The consumer attempts to connect when it is started, and again when the retry interval has passed
since an attempt failed or a session ended. The log alone gives this schedule: the beginning, and
the moment of every such break with the interval added to it. What was attempted is always a
beginning of the schedule, and it is all of what the time has come for unless the consumer is
cancelled or has yet to move.

## Implementation notes

`Punctual` is the invariant. It says which moment of the schedule is still to come, so that
nothing has to be counted: a break adds a moment to the schedule, and an attempt takes it.
-/

namespace LinkPreview.Queue

open LinkPreview.Queue.System

variable {c : Setup} {s t : System}

/-! ## The schedule -/

/-- Whether an event is an attempt to connect. -/
def Event.isAttempt : Event → Bool
  | .attempt => true
  | _ => false

/-- Whether an event is that an attempt failed, or that the end of a session was taken. -/
def Event.isBreak : Event → Bool
  | .failed => true
  | .taken _ item => item.isEnd
  | _ => false

/-- When events of a kind were seen, the earliest first. -/
def timesOf (kind : Event → Bool) (log : List Entry) : List Nat :=
  ((log.filter (kind ·.event)).map Entry.time).reverse

/-- When the consumer attempted to connect. -/
def attemptTimes (log : List Entry) : List Nat :=
  timesOf Event.isAttempt log

/-- When attempts failed and sessions ended. -/
def breakTimes (log : List Entry) : List Nat :=
  timesOf Event.isBreak log

/-- When the consumer has to attempt to connect, if it was started at the given time. -/
def schedule (c : Setup) (start : Nat) (log : List Entry) : List Nat :=
  start :: (breakTimes log).map (· + c.retry)

theorem timesOf_cons (kind : Event → Bool) (time : Nat) (e : Event) (log : List Entry) :
    timesOf kind (⟨time, e⟩ :: log) = timesOf kind log ++ if kind e then [time] else [] := by
  cases h : kind e <;> simp [timesOf, h]

theorem timesOf_append {kind : Event → Bool} {later log : List Entry}
    (h : ∀ entry ∈ later, kind entry.event = false) :
    timesOf kind (later ++ log) = timesOf kind log := by
  have hnil : later.filter (kind ·.event) = [] :=
    List.filter_eq_nil_iff.mpr fun entry hm => by simp [h entry hm]
  rw [timesOf, List.filter_append, hnil, List.nil_append, ← timesOf]

theorem Event.IsTrailing.isAttempt_eq {tags : List Nat} {e : Event} (h : e.IsTrailing tags) :
    e.isAttempt = false ∧ e.isBreak = false := by
  rcases h with h | ⟨hitem, tag, -, hd⟩
  · cases e <;> first | exact ⟨rfl, rfl⟩ | cases h
  · cases e <;> first | exact ⟨rfl, rfl⟩ | cases hd | cases hitem

/-- What is seen of states and of jobs does not touch the schedule. -/
theorem SeesOnly.times_eq {tags : List Nat} (h : SeesOnly (Event.IsTrailing tags) s t) :
    attemptTimes t.log = attemptTimes s.log ∧ breakTimes t.log = breakTimes s.log := by
  obtain ⟨later, hlog, hlater⟩ := h
  rw [hlog]
  constructor
  · exact timesOf_append fun entry hm => (hlater entry hm).isAttempt_eq.1
  · exact timesOf_append fun entry hm => (hlater entry hm).isAttempt_eq.2

theorem times_enter (s : System) (p : Phase) :
    attemptTimes (s.enter p).log = attemptTimes s.log ∧
      breakTimes (s.enter p).log = breakTimes s.log :=
  (seesOnly_enter s p []).times_eq

/-- The moment of the next attempt, if one is to come. -/
def System.pending? (s : System) : Option Nat :=
  match s.phase with
  | .starting | .dialling => some s.time
  | .waiting due => some due
  | .unstarted | .connecting _ | .consuming _ | .stopped => none

/-- In an idle system, the moment of an attempt that is to come has not come yet. -/
theorem waiting_of_pending? (hi : s.isIdle c = true) {time : Nat} (he : s.pending? = some time) :
    s.phase = .waiting time ∧ s.time < time := by
  have hnone : s.consumerStep? c = none := (isIdle_iff.mp hi).1
  cases hp : s.phase with
  | starting => simp [System.consumerStep?, hp] at hnone
  | dialling =>
      simp only [System.consumerStep?, hp] at hnone
      split at hnone <;> cases hnone
  | waiting due =>
      simp only [System.pending?, hp, Option.some.injEq] at he
      subst he
      exact ⟨rfl, Nat.not_le.mp fun hle => consumerStep?_of_waiting hp hle hnone⟩
  | unstarted | connecting | consuming | stopped => simp [System.pending?, hp] at he

/-- A consumer that was started keeps to the schedule. -/
structure Punctual (c : Setup) (start : Nat) (s : System) : Prop where
  isStarted : s.phase ≠ .unstarted
  isCancelled : s.phase = .stopped → s.isCancelled = true
  attempts_eq : ∃ rest, attemptTimes s.log ++ rest = schedule c start s.log ∧
    (s.phase ≠ .stopped → rest = s.pending?.toList)
  le_time : ∀ time ∈ attemptTimes s.log, time ≤ s.time
  time_le : ∀ time, s.pending? = some time → s.time ≤ time
  increasing : (schedule c start s.log).Pairwise (· < ·)

namespace Punctual

variable {start : Nat}

/-- A move that neither attempts to connect nor is a break. -/
theorem congr (h : Punctual c start s) (hphase : t.phase ≠ .unstarted) (ht : t.time = s.time)
    (hl : attemptTimes t.log = attemptTimes s.log ∧ breakTimes t.log = breakTimes s.log)
    (hp : t.pending? = s.pending? ∧ s.phase ≠ .stopped ∧ t.phase ≠ .stopped ∨
      t.phase = .stopped ∧ t.isCancelled = true) : Punctual c start t := by
  have hschedule : schedule c start t.log = schedule c start s.log := by
    rw [schedule, schedule, hl.2]
  obtain ⟨rest, hrest, hpending⟩ := h.attempts_eq
  refine ⟨hphase, ?_, ⟨rest, ?_, ?_⟩, ?_, ?_, ?_⟩
  · intro hs
    rcases hp with ⟨-, -, hne⟩ | ⟨-, hc⟩
    · exact absurd hs hne
    · exact hc
  · rw [hl.1, hschedule, hrest]
  · intro hne
    rcases hp with ⟨he, hs, -⟩ | ⟨hs, -⟩
    · rw [he, hpending hs]
    · exact absurd hs hne
  · rw [hl.1, ht]
    exact h.le_time
  · intro time he
    rw [ht]
    rcases hp with ⟨hsame, -, -⟩ | ⟨hs, -⟩
    · exact h.time_le time (hsame ▸ he)
    · rw [System.pending?, hs] at he
      cases he
  · rw [hschedule]
    exact h.increasing

/-- An attempt failed or a session ended, with no attempt to come. The consumer waits. -/
theorem pause (hr : 0 < c.retry) (h : Punctual c start s) (hn : s.pending? = none)
    (hs : s.phase ≠ .stopped) (hl : t.log = s.log) (ht : t.time = s.time) {e : Event}
    (he : e.isAttempt = false) (hb : e.isBreak = true) :
    Punctual c start ((t.note e).disconnect c) := by
  obtain ⟨rest, hrest, hpending⟩ := h.attempts_eq
  rw [hpending hs, hn, Option.toList_none, List.append_nil] at hrest
  obtain ⟨hattempts, hbreaks⟩ := times_enter (t.note e) (.waiting ((t.note e).time + c.retry))
  rw [← disconnect, log_note, hl, ht] at hattempts hbreaks
  rw [attemptTimes, attemptTimes, timesOf_cons, he, if_neg Bool.false_ne_true, List.append_nil,
    ← attemptTimes, ← attemptTimes] at hattempts
  rw [breakTimes, breakTimes, timesOf_cons, hb, if_pos rfl, ← breakTimes, ← breakTimes]
    at hbreaks
  have hschedule : schedule c start ((t.note e).disconnect c).log =
      attemptTimes s.log ++ [s.time + c.retry] := by
    rw [hrest, schedule, hbreaks]
    simp [schedule]
  have hphase : ((t.note e).disconnect c).phase = .waiting (s.time + c.retry) := by
    rw [← ht]
    exact phase_enter _
  have htime : ((t.note e).disconnect c).time = s.time := (time_enter _).trans ht
  have hdue : ((t.note e).disconnect c).pending? = some (s.time + c.retry) := by
    rw [System.pending?, hphase]
  refine ⟨by simp [hphase], by simp [hphase], ⟨[s.time + c.retry], ?_, ?_⟩, ?_, ?_, ?_⟩
  · rw [hattempts, hschedule]
  · intro _
    rw [hdue, Option.toList_some]
  · rw [hattempts, htime]
    exact h.le_time
  · intro time hd
    rw [hdue] at hd
    cases hd
    omega
  · rw [hschedule]
    apply List.pairwise_append.mpr
    refine ⟨hrest ▸ h.increasing, List.pairwise_singleton _ _, ?_⟩
    intro time hm due hd
    have hle := h.le_time time hm
    cases List.mem_singleton.mp hd
    omega

/-- The moment of an attempt has come. -/
theorem attempt (h : Punctual c start s) (hp : s.phase = .dialling) :
    Punctual c start ({ s with phase := .connecting s.isHolding }.note .attempt) := by
  obtain ⟨rest, hrest, hpending⟩ := h.attempts_eq
  have hnow : s.pending? = some s.time := by
    rw [System.pending?, hp]
  rw [hpending (by simp [hp]), hnow, Option.toList_some] at hrest
  have ha : attemptTimes ({ s with phase := .connecting s.isHolding }.note .attempt).log =
      attemptTimes s.log ++ [s.time] :=
    timesOf_cons Event.isAttempt s.time .attempt s.log
  have hb : breakTimes ({ s with phase := .connecting s.isHolding }.note .attempt).log =
      breakTimes s.log := by
    rw [breakTimes, log_note, timesOf_cons, ← breakTimes]
    exact List.append_nil _
  have hschedule : schedule c start
      ({ s with phase := .connecting s.isHolding }.note .attempt).log =
        schedule c start s.log := by
    rw [schedule, schedule, hb]
  refine ⟨by simp, by simp, ⟨[], ?_, fun _ => rfl⟩, ?_, by simp [System.pending?], ?_⟩
  · rw [List.append_nil, ha, hschedule, hrest]
  · rw [ha]
    intro time hm
    rcases List.mem_append.mp hm with hm | hm
    · exact h.le_time time hm
    · exact Nat.le_of_eq (List.mem_singleton.mp hm)
  · rw [hschedule]
    exact h.increasing

theorem input (h : Punctual c start s) (i : Input) : Punctual c start (s.input i) := by
  have hphase : (s.input i).phase = s.phase := by
    cases i with
    | start =>
        rcases input_start s with ⟨hu, -⟩ | ⟨-, he⟩
        · exact absurd hu h.isStarted
        · rw [he]
    | _ => rfl
  have hl : (s.input i).log = s.log := (input_items i).2.1
  refine h.congr (hphase ▸ h.isStarted) (time_input i) (by rw [hl]; exact ⟨rfl, rfl⟩) ?_
  by_cases hs : s.phase = .stopped
  · exact Or.inr ⟨hphase.trans hs, isCancelled_input (h.isCancelled hs) i⟩
  · refine Or.inl ⟨?_, hs, hphase ▸ hs⟩
    rw [System.pending?, hphase, time_input, ← System.pending?]

/-- Time passes, but not beyond the moment of an attempt. -/
theorem wait (h : Punctual c start s) {span : Nat} (hi : s.isIdle c = true)
    (hd : s.isDueBefore (s.time + span) = false) :
    Punctual c start { s with time := s.time + span } := by
  have hpending : System.pending? { s with time := s.time + span } = s.pending? := by
    unfold System.pending?
    cases hp : s.phase with
    | starting | dialling =>
        have hnow : s.pending? = some s.time := by rw [System.pending?, hp]
        exact absurd (waiting_of_pending? hi hnow).2 (Nat.lt_irrefl _)
    | _ => rfl
  obtain ⟨rest, hrest, hlast⟩ := h.attempts_eq
  refine ⟨h.isStarted, h.isCancelled, ⟨rest, hrest, ?_⟩, ?_, ?_, h.increasing⟩
  · rw [hpending]
    exact hlast
  · intro time hm
    exact Nat.le_trans (h.le_time time hm) (Nat.le_add_right _ _)
  · intro time he
    rw [hpending] at he
    simpa [System.isDueBefore, (waiting_of_pending? hi he).1] using hd

/-- Every move keeps to the schedule. -/
theorem step (hr : 0 < c.retry) (h : Punctual c start s) {m : Move} (hm : Transition c s m t) :
    Punctual c start t := by
  cases hm with
  | input i => exact h.input i
  | begin hp =>
      refine h.congr (by simp) (time_enter _) (times_enter s _) (Or.inl ⟨?_, ?_, by simp⟩)
      · simp [System.pending?, hp, time_enter]
      · simp [hp]
  | stop hc =>
      exact h.congr (by simp) (time_enter _) (times_enter s _)
        (Or.inr ⟨phase_enter _, (isCancelled_enter _).trans hc⟩)
  | attempt hp => exact h.attempt hp
  | @connect _ permits hp =>
      exact h.congr (by simp) (time_enter _)
        (times_enter { s with connectPermits := permits, session := s.session + 1 } _)
        (Or.inl ⟨by simp [System.pending?, hp], by simp [hp], by simp⟩)
  | fail hp =>
      have hn : s.pending? = none := by rw [System.pending?, hp]
      have hs : s.phase ≠ .stopped := by simp [hp]
      apply h.pause hr hn hs <;> rfl
  | leave hp =>
      exact h.congr (by simp) rfl ⟨rfl, rfl⟩
        (Or.inl ⟨by simp [System.pending?, hp], by simp [hp], by simp⟩)
  | @take jobs tag payload rest hp =>
      refine h.congr (by simp) rfl ⟨?_, ?_⟩
        (Or.inl ⟨by simp [System.pending?, hp], by simp [hp], by simp⟩)
      · exact (timesOf_cons Event.isAttempt s.time _ s.log).trans (List.append_nil _)
      · exact (timesOf_cons Event.isBreak s.time _ s.log).trans (List.append_nil _)
  | finish hp _ _ _ _ he =>
      have hn : s.pending? = none := by rw [System.pending?, hp]
      have hs : s.phase ≠ .stopped := by simp [hp]
      rcases he with rfl | rfl <;> apply h.pause hr hn hs <;> rfl
  | @retry due hp _ hd =>
      have hle : s.time ≤ due := h.time_le due (by rw [System.pending?, hp])
      have hnow : s.time = due := Nat.le_antisymm hle hd
      refine h.congr (by simp) (time_enter _) (times_enter s _) (Or.inl ⟨?_, by simp [hp], by simp⟩)
      simp [System.pending?, hp, time_enter, hnow]
  | @work as bs r stage es released hp _ hw =>
      exact h.congr (by simp [System.worked]) rfl
        (hw.seesOnly (List.mem_singleton_self r.tag) _).times_eq
        (Or.inl ⟨by simp [System.pending?, System.worked, hp], by simp [hp],
          by simp [System.worked]⟩)
  | wait hi hd => exact h.wait hi hd

end Punctual

/-! ## From the start on -/

/-- Nothing is seen of a consumer before it is started. -/
theorem log_eq_nil_of_unstarted {ms : List Move} (h : System.run? c {} ms = some s)
    (hs : s.phase = .unstarted) : s.log = [] := by
  refine run?_induction (P := fun _ s => s.phase = .unstarted → s.log = []) (fun _ => rfl) ?_ h hs
  intro ms m t u _ ih hm hu
  cases hm with
  | input i =>
      rw [(input_items i).2.1]
      exact ih ((phase_input_eq_unstarted_iff i).mp hu).1
  | wait => exact ih hu
  | begin | stop | attempt | connect | fail | leave | take | finish | retry | work =>
      simp [disconnect, System.worked] at hu

theorem punctual_start (hs : s.phase = .unstarted) (hl : s.log = []) :
    Punctual c s.time (s.input .start) := by
  have he : s.input .start = { s with phase := .starting } := by simp [System.input, hs]
  rw [he]
  refine ⟨by simp, by simp, ⟨[s.time], ?_, fun _ => rfl⟩, ?_, ?_, ?_⟩
  · simp [hl, attemptTimes, schedule, breakTimes, timesOf]
  · simp [hl, attemptTimes, timesOf]
  · simp [System.pending?]
  · simp [hl, schedule, breakTimes, timesOf]

theorem Transition.time_le {m : Move} (h : Transition c s m t) : s.time ≤ t.time := by
  cases m with
  | input i =>
      cases h
      rw [time_input]
  | consumer | job => exact Nat.le_of_eq (h.time_eq rfl).symm
  | wait span =>
      cases h
      exact Nat.le_add_right _ _

theorem punctual_of_run? (hr : 0 < c.retry) {ms ns : List Move}
    (h : System.run? c {} ms = some s) (hs : s.phase = .unstarted)
    (ht : s.run? c (.input .start :: ns) = some t) : Punctual c s.time t ∧ s.time ≤ t.time := by
  have hrun : (s.input .start).run? c ns = some t := ht
  have hstart : Punctual c s.time (s.input .start) :=
    punctual_start hs (log_eq_nil_of_unstarted h hs)
  refine run?_induction (P := fun _ t => Punctual c s.time t ∧ s.time ≤ t.time)
    ⟨hstart, Nat.le_of_eq (time_input _).symm⟩ ?_ hrun
  rintro _ m t u _ ⟨hp, hle⟩ hm
  exact ⟨hp.step hr hm, Nat.le_trans hle hm.time_le⟩

/-! ## What was attempted -/

namespace Punctual

variable {start : Nat}

theorem isPrefix (h : Punctual c start s) : attemptTimes s.log <+: schedule c start s.log := by
  obtain ⟨rest, hrest, -⟩ := h.attempts_eq
  exact ⟨rest, hrest⟩

/-- What was scheduled and not attempted is to come. -/
theorem schedule_eq (h : Punctual c start s) (hc : s.isCancelled = false) :
    schedule c start s.log = attemptTimes s.log ++ s.pending?.toList := by
  have hs : s.phase ≠ .stopped := by
    intro hs
    rw [h.isCancelled hs] at hc
    cases hc
  obtain ⟨rest, hrest, hpending⟩ := h.attempts_eq
  rw [← hrest, hpending hs]

/-- No moment of the schedule was missed. -/
theorem mem_attemptTimes (h : Punctual c start s) (hc : s.isCancelled = false) {time : Nat}
    (hm : time ∈ schedule c start s.log) (hlt : time < s.time) : time ∈ attemptTimes s.log := by
  rw [h.schedule_eq hc] at hm
  rcases List.mem_append.mp hm with hm | hm
  · exact hm
  · have hle := h.time_le time (by simpa using hm)
    omega

/-- When everything is at rest, the consumer has attempted what it had to. -/
theorem attemptTimes_of_isIdle (h : Punctual c start s) (hc : s.isCancelled = false)
    (hi : s.isIdle c = true) :
    attemptTimes s.log = (schedule c start s.log).filter (· ≤ s.time) := by
  have hnil : s.pending?.toList.filter (· ≤ s.time) = [] := by
    apply List.filter_eq_nil_iff.mpr
    intro time hm
    simpa using (waiting_of_pending? hi (by simpa using hm)).2
  have hall : (attemptTimes s.log).filter (· ≤ s.time) = attemptTimes s.log := by
    apply List.filter_eq_self.mpr
    intro time hm
    simpa using h.le_time time hm
  rw [h.schedule_eq hc, List.filter_append, hall, hnil, List.append_nil]

end Punctual

theorem length_filter_schedule {start time : Nat} (h : start ≤ time) (log : List Entry) :
    ((schedule c start log).filter (· ≤ time)).length =
      1 + (breakTimes log).countP (· + c.retry ≤ time) := by
  rw [← List.countP_eq_length_filter, schedule, List.countP_cons_of_pos (by simpa using h),
    List.countP_map, Nat.add_comm]
  rfl

/-- What was attempted before a cancellation is all that ever is. -/
theorem times_of_isCancelled {ks : List Move} (hc : s.isCancelled = true)
    (h : s.run? c ks = some t) :
    attemptTimes t.log = attemptTimes s.log ∧ breakTimes t.log = breakTimes s.log :=
  ((Fading.refl hc).run h).seesOnly.times_eq

/-! ## No end of attempts -/

/-- An attempt that is to be made now can fail. -/
theorem exists_failure (hc : s.isCancelled = false) (hp : s.phase = .dialling) :
    ∃ t, Leads c (· != .input .cancel) s t ∧ t.isCancelled = false ∧
      t.phase = .waiting (t.time + c.retry) ∧
      attemptTimes t.log = attemptTimes s.log ++ [s.time] := by
  let ready := (s.input (.holdConnects false)).input (.failConnects 1)
  let dialled := { ready with phase := .connecting false }.note .attempt
  let failed := { dialled with failures := s.failures }.note .failed
  have hready : Leads c (· != .input .cancel) s ready :=
    (Leads.of_step? (m := .input (.holdConnects false)) rfl rfl).trans
      (Leads.of_step? (m := .input (.failConnects 1)) rfl rfl)
  have hdialled : ready.consumerStep? c = some dialled := by
    simp [ready, dialled, System.consumerStep?, System.input, hp, hc]
  have hfailed : dialled.consumerStep? c = some (failed.disconnect c) := by
    simp [ready, dialled, failed, System.consumerStep?, System.answerAttempt, System.input,
      System.note, hc]
  have htime : (failed.disconnect c).time = s.time := time_enter _
  refine ⟨failed.disconnect c, ?_, (isCancelled_enter _).trans hc, ?_, ?_⟩
  · exact hready.trans ((Leads.of_step? (m := .consumer) rfl hdialled).trans
      (Leads.of_step? (m := .consumer) rfl hfailed))
  · rw [htime]
    exact phase_enter _
  · refine (times_enter failed _).1.trans ?_
    simp [failed, dialled, ready, System.input, attemptTimes, timesOf_cons, Event.isAttempt]

/-- A consumer that is to attempt to connect comes to do so. -/
theorem exists_dialling (hc : s.isCancelled = false)
    (hle : ∀ due, s.pending? = some due → s.time ≤ due) (hp : s.pending? ≠ none) :
    ∃ t, Leads c (· != .input .cancel) s t ∧ t.isCancelled = false ∧ t.phase = .dialling ∧
      attemptTimes t.log = attemptTimes s.log := by
  cases hphase : s.phase with
  | dialling => exact ⟨s, .refl s, hc, hphase, rfl⟩
  | starting =>
      have hstep : s.consumerStep? c = some (s.enter .dialling) := by
        simp [System.consumerStep?, hphase]
      exact ⟨s.enter .dialling, .of_step? (m := .consumer) rfl hstep,
        (isCancelled_enter _).trans hc, phase_enter _, (times_enter s _).1⟩
  | waiting due =>
      have hle : s.time ≤ due := hle due (by rw [System.pending?, hphase])
      have hwait : Leads c (· != .input .cancel) s { s with time := due } := by
        by_cases hlt : due ≤ s.time
        · have he : s.time = due := Nat.le_antisymm hle hlt
          rw [← he]
          exact .refl s
        · have hidle : s.isIdle c = true := by
            simp [System.isIdle, System.consumerStep?, hphase, hc, hlt, System.jobs]
          refine (leads_wait hidle hle (by simp [System.isDueBefore, hphase])).mono ?_
          intro m hm
          cases m <;> first | rfl | cases hm
      have hstep : System.consumerStep? c { s with time := due } =
          some ({ s with time := due }.enter .dialling) := by
        simp [System.consumerStep?, hphase, hc]
      exact ⟨_, hwait.trans (.of_step? (m := .consumer) rfl hstep),
        (isCancelled_enter _).trans hc, phase_enter _, (times_enter { s with time := due } _).1⟩
  | unstarted | connecting | consuming | stopped =>
      rw [System.pending?, hphase] at hp
      exact absurd rfl hp

/-- A consumer that is to attempt to connect can be made to do so as often as one likes. -/
theorem exists_attempts (hc : s.isCancelled = false)
    (hle : ∀ due, s.pending? = some due → s.time ≤ due) (hp : s.pending? ≠ none) (n : Nat) :
    ∃ t, Leads c (· != .input .cancel) s t ∧
      (attemptTimes t.log).length = (attemptTimes s.log).length + n := by
  induction n generalizing s with
  | zero => exact ⟨s, .refl s, rfl⟩
  | succ n ih =>
      obtain ⟨u, hu, hcu, hpu, hau⟩ := exists_dialling (c := c) hc hle hp
      obtain ⟨v, hv, hcv, hpv, hav⟩ := exists_failure (c := c) hcu hpu
      have hdue : v.pending? = some (v.time + c.retry) := by rw [System.pending?, hpv]
      have hlev : ∀ due, v.pending? = some due → v.time ≤ due := by
        intro due he
        rw [hdue] at he
        cases he
        exact Nat.le_add_right _ _
      obtain ⟨t, ht, hat⟩ := ih hcv hlev (by rw [hdue]; nofun)
      refine ⟨t, hu.trans (hv.trans ht), ?_⟩
      rw [hat, hav, hau, List.length_append, List.length_singleton]
      omega

/-- The consumer keeps to the schedule: the moment when it was started, and then the moment of every
attempt that failed and of every session that ended, with the retry interval added. Its moments
increase, and what was attempted is a beginning of it, so nothing is attempted before its time or
twice. While the consumer is not cancelled it misses nothing: what the time has gone beyond was
attempted, and what it has come to as well once everything is at rest. After a cancellation there
are no more attempts, and without one there is no end of them. When the parts take turns everything
is at rest each time, and it makes no difference in how many parts the time passes. -/
theorem attempts_keep_to_the_schedule (hr : 0 < c.retry) {ms ns : List Move}
    (h : System.run? c {} ms = some s) (hs : s.phase = .unstarted)
    (ht : s.run? c (.input .start :: ns) = some t) :
    attemptTimes s.log = [] ∧
      (schedule c s.time t.log).Pairwise (· < ·) ∧
      attemptTimes t.log <+: schedule c s.time t.log ∧
      (∀ time ∈ attemptTimes t.log, time ≤ t.time) ∧
      (t.isCancelled = false →
        (∀ time ∈ schedule c s.time t.log, time < t.time → time ∈ attemptTimes t.log) ∧
        (t.isIdle c = true →
          attemptTimes t.log = (schedule c s.time t.log).filter (· ≤ t.time) ∧
          (attemptTimes t.log).length =
            1 + (breakTimes t.log).countP (· + c.retry ≤ t.time)) ∧
        (t.pending? ≠ none → ∀ n, ∃ u, Leads c (· != .input .cancel) t u ∧
          (attemptTimes u.log).length = (attemptTimes t.log).length + n)) ∧
      (s.isCancelled = true → attemptTimes t.log = []) ∧
      (∀ ks u, t.run? c (.input .cancel :: ks) = some u →
        attemptTimes u.log = attemptTimes t.log ∧ breakTimes u.log = breakTimes t.log) ∧
      ∀ i span,
        (∃ ks, ks.filterMap Move.input? = [i] ∧ t.run? c ks = some (t.act c i span)) ∧
          (t.act c i span).isIdle c = true ∧ (t.act c i span).time = t.time + span ∧
          ∀ more, (t.act c i span).act c .nothing more = t.act c i (span + more) := by
  obtain ⟨hp, hle⟩ := punctual_of_run? hr h hs ht
  have hnil : attemptTimes s.log = [] := by
    rw [log_eq_nil_of_unstarted h hs]
    rfl
  refine ⟨hnil, hp.increasing, hp.isPrefix, hp.le_time, ?_, ?_, ?_, ?_⟩
  · intro hc
    refine ⟨fun time hm hlt => hp.mem_attemptTimes hc hm hlt, ?_, ?_⟩
    · intro hi
      have he := hp.attemptTimes_of_isIdle hc hi
      refine ⟨he, ?_⟩
      rw [he]
      exact length_filter_schedule hle t.log
    · intro hn n
      exact exists_attempts hc hp.time_le hn n
  · intro hc
    rw [(times_of_isCancelled hc ht).1, hnil]
  · intro ks u hu
    have hrun : (t.input .cancel).run? c ks = some u := hu
    have hlog : (t.input .cancel).log = t.log := (input_items .cancel).2.1
    rw [← hlog]
    exact times_of_isCancelled rfl hrun
  · intro i span
    exact ⟨exists_run?_act i span t, isIdle_act i span t, time_act i span t,
      fun more => act_nothing i span more t⟩

/-- A consumer whose connection is lost at once connects again when the interval has passed. -/
theorem attempts_keep_to_the_schedule_of_lost :
    0 < gatedSetup.retry ∧ System.run? gatedSetup {} [] = some {} ∧
      System.run? gatedSetup {} (.input .start :: (lossyMoves.tail ++ recoveryMoves)) =
        some recoveredSystem ∧
      recoveredSystem.isCancelled = false ∧ recoveredSystem.isIdle gatedSetup = true ∧
      breakTimes recoveredSystem.log = [0] ∧
      attemptTimes recoveredSystem.log = [0, 2000].filter (· ≤ recoveredSystem.time) ∧
      (attemptTimes recoveredSystem.log).length =
        1 + [0].countP (· + 2000 ≤ recoveredSystem.time) := by
  have hr : 0 < gatedSetup.retry := by decide
  have hrun : System.run? gatedSetup {} (.input .start :: (lossyMoves.tail ++ recoveryMoves)) =
      some recoveredSystem := run?_trans run?_lossy run?_recovered
  have hc : recoveredSystem.isCancelled = false := by decide +kernel
  have hi : recoveredSystem.isIdle gatedSetup = true := by decide +kernel
  have hb : breakTimes recoveredSystem.log = [0] := by decide +kernel
  have hinit : System.run? gatedSetup {} [] = some {} := rfl
  obtain ⟨-, -, -, -, hlaw, -⟩ := attempts_keep_to_the_schedule hr hinit rfl hrun
  obtain ⟨he, hn⟩ := (hlaw hc).2.1 hi
  rw [schedule, hb] at he
  rw [hb] at hn
  exact ⟨hr, hinit, hrun, hc, hi, hb, he, hn⟩

end LinkPreview.Queue
