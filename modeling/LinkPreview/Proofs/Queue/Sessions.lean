import LinkPreview.Proofs.Queue.Pool
import LinkPreview.Proofs.Queue.Turns

/-!
# Sessions

A session lasts from a connection that was made until the consumer leaves it: when it takes the
end of what comes over the connection, or when it moves after it was cancelled. Its jobs go on
until then. The state that the consumer shows tells whether a session is on. What is taken is
taken in order over all sessions, each end of a connection ends the session that takes it and no
other, and when a session has ended nothing is seen of its jobs any more.

Nearly all of this is read off the order of the log.
-/

namespace LinkPreview.Queue

open LinkPreview.Queue.System

variable {c : Setup} {s t : System}

/-! ## What is seen later -/

/-- What was seen stays. -/
theorem Transition.exists_later {m : Move} (h : Transition c s m t) :
    ∃ later, events t.log = events s.log ++ later := by
  cases h with
  | input i => exact ⟨[], by rw [(input_items i).2.1, List.append_nil]⟩
  | begin | stop | retry => exact ⟨_, events_enter _⟩
  | connect => exact ⟨_, events_enter _⟩
  | attempt | take => exact ⟨_, events_cons _ _ _⟩
  | fail | finish =>
      rw [disconnect, events_enter, log_note, events_cons, List.append_assoc]
      exact ⟨_, rfl⟩
  | leave | wait => exact ⟨[], (List.append_nil _).symm⟩
  | work => exact ⟨_, events_append_log _ _ _⟩

theorem exists_later_of_run? {ns : List Move} (h : s.run? c ns = some t) :
    ∃ later, events t.log = events s.log ++ later := by
  refine run?_induction (P := fun _ t => ∃ later, events t.log = events s.log ++ later)
    ⟨[], (List.append_nil _).symm⟩ ?_ h
  rintro _ m t u _ ⟨later, hlater⟩ hm
  obtain ⟨last, hlast⟩ := hm.exists_later
  exact ⟨later ++ last, by rw [hlast, hlater, List.append_assoc]⟩

/-- A consumer that has stopped stays so. -/
theorem Transition.stopped {m : Move} (h : Transition c s m t) (hp : s.phase = .stopped) :
    t.phase = .stopped := by
  cases h with
  | input i =>
      cases i with
      | start =>
          rcases input_start s with ⟨hu, -⟩ | ⟨-, he⟩
          · rw [hp] at hu
            cases hu
          · rw [he, hp]
      | _ => exact hp
  | stop => exact phase_enter _
  | wait => exact hp
  | begin he | attempt he | connect he | fail he | leave he | take he | finish he | retry he
  | work he =>
      rw [hp] at he
      cases he

theorem stopped_of_run? {ns : List Move} (h : s.run? c ns = some t) (hp : s.phase = .stopped) :
    t.phase = .stopped :=
  run?_induction (P := fun _ t => t.phase = .stopped) hp
    (fun _ _ _ _ _ ih hm => hm.stopped ih) h

/-! ## How a session begins and ends -/

/-- A session that has begun is over: a later one has begun, or none is on. -/
structure System.HasEnded (s : System) (session : Nat) : Prop where
  le : session ≤ s.session
  away : session = s.session → s.phase.state ≠ .consuming

/-- A session begins without jobs, and is not cancelled yet. -/
theorem Transition.begins {m : Move} (h : Transition c s m t)
    (hs : s.phase.state ≠ .consuming) (ht : t.phase.state = .consuming) :
    t.phase = .consuming [] ∧ t.session = s.session + 1 ∧ t.isCancelled = false := by
  cases h with
  | input i => exact absurd ((input_session i).1.symm.trans ht) hs
  | connect _ hc => exact ⟨phase_enter _, session_enter _, (isCancelled_enter _).trans hc⟩
  | begin | stop | retry | attempt => simp [Phase.state] at ht
  | fail | finish => simp [disconnect, Phase.state] at ht
  | leave hp | take hp | work hp => exact absurd (state_of_consuming hp) hs
  | wait => exact absurd ht hs

/-- A session ends because it is cancelled or its end was taken, and then no job is left. -/
theorem Transition.ends {m : Move} (h : Transition c s m t)
    (hs : s.phase.state = .consuming) (ht : t.phase.state ≠ .consuming) :
    t.session = s.session ∧ t.jobs = [] ∧
      (s.isCancelled = true ∨
        ∃ item, item.isEnd = true ∧ .taken s.session item ∈ events t.log) := by
  have hjobs := jobs_eq_nil_of_state ht
  cases h with
  | input i => exact absurd ((input_session i).1.trans hs) ht
  | stop hc => exact ⟨session_enter _, hjobs, Or.inl hc⟩
  | @finish _ item _ _ _ _ _ _ he =>
      refine ⟨session_enter _, hjobs, Or.inr ⟨item, ?_, ?_⟩⟩
      · rcases he with rfl | rfl <;> rfl
      · rw [disconnect, events_enter, log_note, events_cons]
        simp
  | begin hp | retry hp | attempt hp | connect hp | fail hp =>
      rw [hp] at hs
      cases hs
  | leave | take | work => exact absurd rfl ht
  | wait => exact absurd hs ht

theorem hasEnded_of_state (hs : s.phase.state ≠ .consuming) : s.HasEnded s.session :=
  ⟨Nat.le_refl _, fun _ => hs⟩

theorem hasEnded_enter {p : Phase} (hp : p.state ≠ .consuming) :
    (s.enter p).HasEnded s.session := by
  have hend := hasEnded_of_state (s := s.enter p) (by rwa [phase_enter])
  rwa [session_enter] at hend

/-- A session has ended when its end was taken. -/
theorem Account.hasEnded (h : Account s) {session : Nat} {item : Inbound}
    (hm : .taken session item ∈ events s.log) (hend : item.isEnd = true) :
    s.HasEnded session := by
  have hle := h.orderly.session_le hm rfl
  rw [h.sessionsBegun_eq] at hle
  refine ⟨hle, ?_⟩
  rintro rfl hs
  exact h.isOpen hs item hend hm

/-- In a session that is cancelled, the next move of the consumer ends it. -/
theorem consumerStep?_of_cancelled_session (hc : s.isCancelled = true)
    (hs : s.phase.state = .consuming) : s.consumerStep? c = some (s.enter .stopped) := by
  apply consumerStep?_of_isCancelled hc <;> intro hp <;> rw [hp] at hs <;> cases hs

/-- When the parts take turns, a session that is cancelled ends before anything else is seen. -/
theorem act_cancel_of_session (hs : s.phase.state = .consuming) (span : Nat) :
    (s.act c .cancel span).HasEnded s.session ∧
      events (s.act c .cancel span).log = events s.log ++ [.state .disconnected] := by
  have hact : s.act c .cancel span =
      { { s with isCancelled := true }.enter .stopped with time := s.time + span } := by
    apply act_cancel <;> intro hp <;> rw [hp] at hs <;> cases hs
  have hend : ({ s with isCancelled := true }.enter .stopped).HasEnded s.session :=
    hasEnded_enter (by simp [Phase.state])
  have hne : Phase.stopped.state ≠ s.phase.state := by
    rw [hs]
    decide
  rw [hact]
  refine ⟨⟨hend.le, hend.away⟩, (events_enter _).trans ?_⟩
  rw [if_neg hne]
  rfl

/-! ## Silence of jobs -/

/-- What is seen in the story of a delivery is of the session that took it. -/
theorem Story.session?_eq {fetch : String → Except FetchError String} {session tag : Nat}
    {payload : List UInt8} {stage : Stage} {es : List Event}
    (h : Story c fetch session tag payload stage es) :
    ∀ e ∈ es, e.session? = some session := by
  cases h <;> simp [opening, publication, or_imp, forall_and, Event.session?]

/-- What is seen of a delivery is of the session that took it. -/
theorem session?_of_taken {ms : List Move} (h : System.run? c {} ms = some s)
    {session tag : Nat} {payload : List UInt8}
    (hm : .taken session (.delivery tag payload) ∈ events s.log) {e : Event}
    (he : e ∈ events s.log) (hd : e.delivery? = some tag) : e.session? = some session := by
  obtain ⟨fetch, hf⟩ := c.exists_isAnsweredBy
  have hm : .taken session (.delivery tag payload) ∈ history s.log tag :=
    mem_history.mpr ⟨hm, rfl⟩
  obtain ⟨n, p, stage, -, hstory⟩ :=
    (chronicle_of_run? hf h).exists_story (List.ne_nil_of_mem hm)
  obtain ⟨rfl, -⟩ := hstory.eq_of_taken_mem hm
  exact hstory.session?_eq e (mem_history.mpr ⟨he, hd⟩)

/-- When a session has ended, nothing is seen of it any more. -/
theorem Account.session?_ne_of_hasEnded (h : Account s) {session : Nat}
    (hend : s.HasEnded session) {later : List Event} (hl : Orderly (events s.log ++ later)) :
    ∀ e ∈ later, e.session? ≠ some session := by
  intro e he hs
  have hle := hl.le_session he hs
  rw [h.sessionsBegun_eq] at hle
  have heq : session = s.session := Nat.le_antisymm hend.le hle
  have hshown : shown (events s.log) ≠ .consuming := by
    rw [h.shown_eq]
    exact hend.away heq
  have hlt := hl.session_lt hshown he hs
  rw [h.sessionsBegun_eq] at hlt
  omega

/-- Nothing more is seen of a session, nor of the deliveries that were taken over it. -/
def SilentOn (session : Nat) (s t : System) : Prop :=
  ∃ later, events t.log = events s.log ++ later ∧
    ∀ e ∈ later, e.session? ≠ some session ∧
      ∀ tag payload, .taken session (.delivery tag payload) ∈ events s.log →
        e.delivery? ≠ some tag

/-- When a session has ended, nothing is seen of it or of its deliveries any more, whatever
happens. -/
theorem silentOn_of_hasEnded {ms ns : List Move} (h : System.run? c {} ms = some s)
    {session : Nat} (hend : s.HasEnded session) (hns : s.run? c ns = some t) :
    SilentOn session s t := by
  have hrun : System.run? c {} (ms ++ ns) = some t := run?_trans h hns
  obtain ⟨later, hlater⟩ := exists_later_of_run? hns
  have horderly : Orderly (events s.log ++ later) := by
    rw [← hlater]
    exact (account_of_run? hrun).orderly
  have hsilent := (account_of_run? h).session?_ne_of_hasEnded hend horderly
  refine ⟨later, hlater, fun e he => ⟨hsilent e he, ?_⟩⟩
  intro tag payload hm hd
  have htaken : .taken session (.delivery tag payload) ∈ events t.log := by
    rw [hlater]
    exact List.mem_append_left _ hm
  have hmem : e ∈ events t.log := by
    rw [hlater]
    exact List.mem_append_right _ he
  exact hsilent e he (session?_of_taken hrun htaken hmem hd)

/-- When the parts take turns, nothing is seen any more of a session that is cancelled, from the
cancellation on, whatever is done later. -/
theorem silentOn_act_cancel {ms : List Move} (h : System.run? c {} ms = some s)
    (hs : s.phase.state = .consuming) (span : Nat) (acts : List (Input × Nat)) :
    SilentOn s.session s (acts.foldl (fun s a => s.act c a.1 a.2) (s.act c .cancel span)) := by
  obtain ⟨hend, hshown⟩ := act_cancel_of_session (c := c) hs span
  obtain ⟨ns, -, hns⟩ := exists_run?_act (c := c) .cancel span s
  obtain ⟨ks, -, hks⟩ := exists_run?_acts (c := c) acts (s.act c .cancel span)
  obtain ⟨later, hlater, hsilent⟩ := silentOn_of_hasEnded (run?_trans h hns) hend hks
  refine ⟨.state .disconnected :: later, ?_, ?_⟩
  · rw [hlater, hshown, List.append_assoc, List.singleton_append]
  · intro e he
    rcases List.mem_cons.mp he with rfl | he
    · simp [Event.session?, Event.delivery?]
    · refine ⟨(hsilent e he).1, fun tag payload hm => (hsilent e he).2 tag payload ?_⟩
      rw [hshown]
      exact List.mem_append_left _ hm

/-- Sessions do not touch each other. When one has ended, nothing is seen of it any more, and of
no delivery that was taken over it, whatever is done later. It has ended when its end was taken,
and when the consumer has moved on from a cancellation, which is its next move then. When the
parts take turns it moves on before anything else happens, and nothing is seen of the session from
the cancellation on. There is no other way for a session to end, and no job is left then. A session
that begins takes as many deliveries as may run at once, with as many moves. -/
theorem sessions_are_isolated {ms : List Move} (h : System.run? c {} ms = some s) :
    (∀ session, s.HasEnded session → ∀ ns t, s.run? c ns = some t → SilentOn session s t) ∧
      (∀ session item, .taken session item ∈ events s.log → item.isEnd = true →
        s.HasEnded session) ∧
      (s.phase.state = .consuming →
        (s.isCancelled = true → ∃ t, s.step? c .consumer = some t ∧ t.HasEnded s.session) ∧
        (∀ span, (s.act c .cancel span).HasEnded s.session ∧
          events (s.act c .cancel span).log = events s.log ++ [.state .disconnected]) ∧
        ∀ span (acts : List (Input × Nat)), SilentOn s.session s
          (acts.foldl (fun s a => s.act c a.1 a.2) (s.act c .cancel span))) ∧
      (∀ m t, s.step? c m = some t → s.phase.state = .consuming →
        t.phase.state ≠ .consuming → t.HasEnded s.session ∧ t.jobs = [] ∧
          (s.isCancelled = true ∨
            ∃ item, item.isEnd = true ∧ .taken s.session item ∈ events t.log)) ∧
      (∀ m t, s.step? c m = some t → s.phase.state ≠ .consuming →
        t.phase.state = .consuming → t.phase = .consuming [] ∧ t.session = s.session + 1 ∧
          ∀ (ds : List (List UInt8 × Nat)) (rest : List Inbound),
            t.inbound = ds.map inboundOf ++ rest → ds.length ≤ c.limit →
            ∃ u, t.run? c (List.replicate ds.length .consumer) = some u ∧
              u.phase = .consuming (ds.map beginning) ∧ u.inbound = rest ∧
              events u.log = events t.log ++ ds.map fun d => .taken t.session (inboundOf d)) := by
  have ha := account_of_run? h
  refine ⟨fun session hend ns t hns => silentOn_of_hasEnded h hend hns,
    fun session item hm hend => ha.hasEnded hm hend, ?_, ?_, ?_⟩
  · intro hs
    refine ⟨?_, act_cancel_of_session hs, silentOn_act_cancel h hs⟩
    intro hc
    exact ⟨_, consumerStep?_of_cancelled_session hc hs, hasEnded_enter (by simp [Phase.state])⟩
  · intro m t hm hs ht
    obtain ⟨hsession, hjobs, hcause⟩ := (transition_of_step? hm).ends hs ht
    refine ⟨?_, hjobs, hcause⟩
    rw [← hsession]
    exact hasEnded_of_state ht
  · intro m t hm hs ht
    obtain ⟨hp, hsession, hc⟩ := (transition_of_step? hm).begins hs ht
    refine ⟨hp, hsession, ?_⟩
    intro ds rest hi hl
    exact exists_run?_take hp hc (by simp) (by simpa using hl) hi

/-! ### A run with a connection that is lost -/

/-- A system whose pages are held back. -/
def gatedSetup : Setup :=
  { Setup.uniform (.served "") with pages := fun _ => { isGated := true, content := .served "" } }

/-- The connection is lost while a job waits for its page. -/
def lossyMoves : List Move :=
  [.input .start, .consumer, .consumer, .consumer,
    .input (.deliver (Job.encode ⟨"a", "http://[::1]"⟩)), .consumer, .job 1, .input .drop,
    .consumer]

/-- The page is released, and the consumer connects again. -/
def recoveryMoves : List Move :=
  [.input (.release "http://[::1]"), .wait 2000, .consumer, .consumer, .consumer]

theorem isSome_run?_lossyMoves : (System.run? gatedSetup {} lossyMoves).isSome = true := by
  decide +kernel

/-- The system when the connection is lost. -/
def lossySystem : System := (System.run? _ _ _).get isSome_run?_lossyMoves

theorem run?_lossy : System.run? gatedSetup {} lossyMoves = some lossySystem :=
  (Option.some_get _).symm

theorem isSome_run?_recoveryMoves : (lossySystem.run? gatedSetup recoveryMoves).isSome = true := by
  decide +kernel

/-- The system when the second session has begun. -/
def recoveredSystem : System := (System.run? _ _ _).get isSome_run?_recoveryMoves

theorem run?_recovered : lossySystem.run? gatedSetup recoveryMoves = some recoveredSystem :=
  (Option.some_get _).symm

/-- A job whose connection was lost is not seen again when its page is released. -/
theorem sessions_are_isolated_of_lost :
    System.run? gatedSetup {} lossyMoves = some lossySystem ∧
      lossySystem.run? gatedSetup recoveryMoves = some recoveredSystem ∧
      lossySystem.HasEnded 1 ∧
      ∃ later, events recoveredSystem.log = events lossySystem.log ++ later ∧
        ∀ e ∈ later, e.session? ≠ some 1 ∧ e.delivery? ≠ some 1 := by
  have htaken : .taken 1 (.delivery 1 (Job.encode ⟨"a", "http://[::1]"⟩)) ∈
      events lossySystem.log := by
    decide +kernel
  have hlost : .taken 1 .lost ∈ events lossySystem.log := by decide +kernel
  obtain ⟨hsilence, hends, -⟩ := sessions_are_isolated run?_lossy
  have hend : lossySystem.HasEnded 1 := hends 1 .lost hlost rfl
  obtain ⟨later, hlater, hquiet⟩ := hsilence 1 hend _ _ run?_recovered
  refine ⟨run?_lossy, run?_recovered, hend, later, hlater, ?_⟩
  intro e he
  exact ⟨(hquiet e he).1, (hquiet e he).2 1 _ htaken⟩

/-! ### Sessions that the consumer has not left -/

/-- The consumer is cancelled while the result of a job is ready. -/
def cancelledMoves : List Move := loneMoves 3 ++ [.input .cancel]

/-- The job makes its last moves, and then the consumer its next one. -/
def lateMoves : List Move := [.job 1, .job 1, .consumer]

theorem isSome_run?_cancelledMoves :
    (System.run? (.uniform (.served "")) {} cancelledMoves).isSome = true := by
  decide +kernel

/-- The system when the consumer is cancelled and has not moved. -/
def cancelledSystem : System := (System.run? _ _ _).get isSome_run?_cancelledMoves

theorem run?_cancelled :
    System.run? (.uniform (.served "")) {} cancelledMoves = some cancelledSystem :=
  (Option.some_get _).symm

theorem isSome_run?_lateMoves :
    (cancelledSystem.run? (.uniform (.served "")) lateMoves).isSome = true := by
  decide +kernel

/-- The system when the consumer has moved on from the cancellation. -/
def leftSystem : System := (System.run? _ _ _).get isSome_run?_lateMoves

theorem run?_left : cancelledSystem.run? (.uniform (.served "")) lateMoves = some leftSystem :=
  (Option.some_get _).symm

/-- A cancellation does not end a session by itself. A job whose result is ready publishes it and
acknowledges its delivery as long as the consumer has not moved. -/
theorem job_goes_on_after_cancellation :
    System.run? (.uniform (.served "")) {} cancelledMoves = some cancelledSystem ∧
      cancelledSystem.session = 1 ∧ cancelledSystem.isCancelled = true ∧
      cancelledSystem.run? (.uniform (.served "")) lateMoves = some leftSystem ∧
      events leftSystem.log = events cancelledSystem.log ++
        [publication (.uniform (.served "")) (fun _ => .ok "") 1 1 ⟨"a", "http://[::1]"⟩,
          .settled 1 1 .ack true, .state .disconnected] ∧
      ¬ SilentOn 1 cancelledSystem leftSystem := by
  have hlater : events leftSystem.log = events cancelledSystem.log ++
      [publication (.uniform (.served "")) (fun _ => .ok "") 1 1 ⟨"a", "http://[::1]"⟩,
        .settled 1 1 .ack true, .state .disconnected] := by
    decide +kernel
  refine ⟨run?_cancelled, by decide +kernel, by decide +kernel, run?_left, hlater, ?_⟩
  rintro ⟨later, he, hsilent⟩
  obtain rfl := List.append_cancel_left (hlater.symm.trans he)
  exact (hsilent _ List.mem_cons_self).1 rfl

/-- Nor does the end of a connection that is behind a full pool: the consumer takes it when the
job is over, whose page is released meanwhile. -/
example :
    System.run? { gatedSetup with maxInFlight := 1 } {} lossyMoves = none ∧
      (System.run? { gatedSetup with maxInFlight := 1 } {}
        (lossyMoves.dropLast ++ .input (.release "http://[::1]") :: List.replicate 4 (.job 1) ++
          [.consumer, .consumer])).map (fun s => (events s.log).drop 5) =
        some [publication gatedSetup (fun _ => .ok "") 1 1 ⟨"a", "http://[::1]"⟩,
          .settled 1 1 .ack true, .taken 1 .lost, .state .disconnected] := by
  decide +kernel

/-! ## Intake over all sessions -/

/-- How many ends of sessions were taken. -/
def endsTaken (log : List Entry) : Nat :=
  (takenItems log).countP Inbound.isEnd

/-- Only a consumer that has a free place takes what is next, and an end ends the session. -/
theorem Transition.takes {m : Move} (h : Transition c s m t) :
    takenItems t.log = takenItems s.log ∨
      ∃ jobs item, m = .consumer ∧ s.phase = .consuming jobs ∧ jobs.length < c.limit ∧
        s.inbound = item :: t.inbound ∧
        events t.log = events s.log ++ .taken s.session item ::
          if item.isEnd then [.state .disconnected] else [] := by
  cases h with
  | input i =>
      left
      rw [(input_items i).2.1]
  | begin | stop | connect | retry => exact Or.inl (takenItems_enter _)
  | attempt => exact Or.inl (by simp [Event.item?])
  | fail => exact Or.inl (by simp [disconnect, Event.item?])
  | leave | wait => exact Or.inl rfl
  | work _ _ hw => exact Or.inl hw.takenItems_append
  | take hp _ _ hl hi => exact Or.inr ⟨_, _, rfl, hp, hl, hi, events_cons _ _ _⟩
  | @finish jobs item rest hp _ _ hl hi he =>
      have hend : item.isEnd = true := by rcases he with rfl | rfl <;> rfl
      refine Or.inr ⟨jobs, item, rfl, hp, hl, ?_, ?_⟩
      · rw [hi, disconnect, inbound_enter, inbound_note]
      · rw [disconnect, events_enter, log_note, events_cons, List.append_assoc]
        simp [hend, hp, Phase.state]

/-- The sessions that have begun are those whose ends were taken, and one besides that is on or
was cancelled. -/
inductive Numbered (s : System) : Prop where
  | away (hs : s.phase.state ≠ .consuming) (hn : s.session = endsTaken s.log) : Numbered s
  | on (hs : s.phase.state = .consuming ∨ s.phase = .stopped)
      (hn : s.session = endsTaken s.log + 1) : Numbered s

namespace Numbered

theorem eq_of_away (h : Numbered s) (hs : s.phase.state ≠ .consuming) (ho : s.phase ≠ .stopped) :
    s.session = endsTaken s.log := by
  cases h with
  | away _ hn => exact hn
  | on hon => exact absurd hon (not_or.mpr ⟨hs, ho⟩)

theorem eq_of_on (h : Numbered s) (hs : s.phase.state = .consuming) :
    s.session = endsTaken s.log + 1 := by
  cases h with
  | away haway => exact absurd hs haway
  | on _ hn => exact hn

/-- A move that takes no end, and begins and ends no session. -/
theorem congr (h : Numbered s) (hl : endsTaken t.log = endsTaken s.log)
    (hp : t.phase.state = s.phase.state) (ho : s.phase = .stopped → t.phase = .stopped)
    (hs : t.session = s.session) : Numbered t := by
  cases h with
  | away haway hn => exact .away (by rwa [hp]) (by rw [hs, hl, hn])
  | on hon hn => exact .on (hon.imp hp.trans ho) (by rw [hs, hl, hn])

theorem step (h : Numbered s) {m : Move} (hm : Transition c s m t) : Numbered t := by
  have hstopped := hm.stopped
  cases hm with
  | input i =>
      obtain ⟨hp, hs, -⟩ := input_session (s := s) i
      exact h.congr (by rw [(input_items i).2.1]) hp hstopped hs
  | begin hp | retry hp =>
      have hn := h.eq_of_away (by simp [hp, Phase.state]) (by simp [hp])
      exact .away (by simp [Phase.state]) (by simp [endsTaken, hn])
  | stop =>
      cases h with
      | away _ hn => exact .away (by simp [Phase.state]) (by simp [endsTaken, hn])
      | on _ hn => exact .on (Or.inr (phase_enter _)) (by simp [endsTaken, hn])
  | attempt hp =>
      have hn := h.eq_of_away (by simp [hp, Phase.state]) (by simp [hp])
      exact .away (by simp [Phase.state]) (by simp [endsTaken, Event.item?, hn])
  | connect hp =>
      have hn := h.eq_of_away (by simp [hp, Phase.state]) (by simp [hp])
      exact .on (Or.inl (by simp [Phase.state])) (by simp [endsTaken, hn])
  | fail hp =>
      have hn := h.eq_of_away (by simp [hp, Phase.state]) (by simp [hp])
      exact .away (by simp [disconnect, Phase.state])
        (by simp [endsTaken, disconnect, Event.item?, hn])
  | leave hp => exact h.congr rfl (state_of_consuming hp).symm hstopped rfl
  | take hp =>
      exact h.congr (by simp [endsTaken, Event.item?, Inbound.isEnd]) (state_of_consuming hp).symm
        hstopped rfl
  | finish hp _ _ _ _ he =>
      have hn := h.eq_of_on (state_of_consuming hp)
      refine .away (by simp [disconnect, Phase.state]) ?_
      rcases he with rfl | rfl <;> simp [endsTaken, disconnect, Event.item?, Inbound.isEnd, hn]
  | work hp _ hw =>
      refine h.congr ?_ (state_of_consuming hp).symm hstopped rfl
      rw [endsTaken, log_worked, hw.takenItems_append, ← endsTaken]
  | wait => exact h.congr rfl rfl hstopped rfl

end Numbered

theorem numbered_of_run? {ms : List Move} (h : System.run? c {} ms = some s) : Numbered s :=
  run?_induction (P := fun _ s => Numbered s) (.away (by simp [Phase.state]) rfl)
    (fun _ _ _ _ _ ih hm => ih.step hm) h

/-- When the end of a session is taken, the session is on. It is left at once, and whatever is
taken then is taken by later sessions. -/
theorem Account.end_ends_session (h : Account s) {before after : List Event} {session : Nat}
    {item : Inbound} (he : events s.log = before ++ .taken session item :: after)
    (hend : item.isEnd = true) :
    shown before = .consuming ∧ sessionsBegun before = session ∧
      (∃ rest, after = .state .disconnected :: rest) ∧
      ∀ n next, .taken n next ∈ after → session < n := by
  have horderly := h.orderly
  rw [he] at horderly
  obtain ⟨hshown, hsession, -⟩ := (horderly.fits rfl).of_session? rfl
  refine ⟨hshown, hsession, ?_, fun n next hm => horderly.session_lt_of_end hend hm rfl⟩
  cases after with
  | nil =>
      -- Then the session would still be on.
      have hm : .taken session item ∈ events s.log := by simp [he]
      have hnow : s.phase.state = .consuming := by
        rw [← h.shown_eq, he, shown_concat rfl, hshown]
      have hbegun : session = s.session := by
        rw [← h.sessionsBegun_eq, he, sessionsBegun_concat (by simp), hsession]
      exact absurd hnow ((h.hasEnded hm hend).away hbegun)
  | cons e rest => exact ⟨rest, by rw [horderly.eq_state_of_end hend]⟩

/-- What was taken is at any time the beginning of what was sent, and the rest is still to be
taken, in this order. A move takes one item at most, and only the consumer does so, in a session
and with a place for one more job, whatever is next. When it is the end of a session, the session
is on, it is left at once, and what is next is taken by later sessions only. As many sessions have
begun as ends were taken, and one more that is on or was cancelled. -/
theorem intake_is_in_order {ms : List Move} (h : System.run? c {} ms = some s) :
    takenItems s.log ++ s.inbound = sentItems 0 ms ∧
      (∀ m t, s.step? c m = some t → takenItems t.log ≠ takenItems s.log →
        ∃ jobs item, m = .consumer ∧ s.phase = .consuming jobs ∧ jobs.length < c.limit ∧
          s.inbound = item :: t.inbound ∧
          events t.log = events s.log ++ .taken s.session item ::
            if item.isEnd then [.state .disconnected] else []) ∧
      (∀ before session item after, events s.log = before ++ .taken session item :: after →
        item.isEnd = true →
          shown before = .consuming ∧ sessionsBegun before = session ∧
            (∃ rest, after = .state .disconnected :: rest) ∧
            ∀ n next, .taken n next ∈ after → session < n) ∧
      Numbered s := by
  refine ⟨(items_of_run? h).1, ?_, ?_, numbered_of_run? h⟩
  · intro m t hm hne
    exact (transition_of_step? hm).takes.resolve_left hne
  · intro before session item after he hend
    exact (account_of_run? h).end_ends_session he hend

/-- A connection that is lost is taken behind the job that was sent before it, and ends the only
session. -/
theorem intake_is_in_order_of_lost :
    System.run? gatedSetup {} lossyMoves = some lossySystem ∧
      takenItems lossySystem.log =
        [.delivery 1 (Job.encode ⟨"a", "http://[::1]"⟩), .lost] ∧
      ∃ before, events lossySystem.log = before ++ [.taken 1 .lost, .state .disconnected] ∧
        shown before = .consuming ∧ sessionsBegun before = 1 := by
  have hi : lossySystem.inbound = [] := by decide +kernel
  have hsent : sentItems 0 lossyMoves =
      [.delivery 1 (Job.encode ⟨"a", "http://[::1]"⟩), .lost] := rfl
  have he : events lossySystem.log = (events lossySystem.log).dropLast.dropLast ++
      [.taken 1 .lost, .state .disconnected] := by
    decide +kernel
  obtain ⟨hitems, -, hends, -⟩ := intake_is_in_order run?_lossy
  rw [hi, List.append_nil, hsent] at hitems
  obtain ⟨hshown, hsession, -, -⟩ := hends _ _ _ _ he rfl
  exact ⟨run?_lossy, hitems, _, he, hshown, hsession⟩

/-! ## The shown state -/

/-- The shown state begins with disconnected and changes along four ways only. It tells what the
consumer is about: an attempt to connect is made and waits for its answer while connecting is
shown, jobs run and are seen at work while consuming is shown, the pause before the next attempt
lasts while disconnected is shown, and a consumer that has stopped shows disconnected for ever
and has no jobs. -/
theorem shown_state_is_lawful {ms : List Move} (h : System.run? c {} ms = some s) :
    (State.disconnected :: shownStates (events s.log)).IsChain State.Next ∧
      (∀ before e after, events s.log = before ++ e :: after →
        (e = .attempt ∨ e = .failed → shown before = .connecting) ∧
        (∀ session, e.session? = some session → shown before = .consuming)) ∧
      (∀ isHeld, s.phase = .connecting isHeld → shown (events s.log) = .connecting) ∧
      (s.jobs ≠ [] → shown (events s.log) = .consuming) ∧
      (∀ due, s.phase = .waiting due → shown (events s.log) = .disconnected) ∧
      (s.phase = .stopped → ∀ ns t, s.run? c ns = some t →
        t.phase = .stopped ∧ shown (events t.log) = .disconnected ∧ t.jobs = []) := by
  have ha := account_of_run? h
  refine ⟨ha.orderly.isChain, ?_, ?_, ?_, ?_, ?_⟩
  · intro before e after he
    have hfits := ha.orderly.fits he
    refine ⟨?_, fun session hs => (hfits.of_session? hs).1⟩
    rintro (rfl | rfl)
    · cases hfits with
      | attempt hs => exact hs
      | work hs => cases hs
    · cases hfits with
      | failed hs => exact hs
      | work hs => cases hs
  · intro isHeld hp
    rw [ha.shown_eq, hp]
    rfl
  · intro hj
    rw [ha.shown_eq]
    by_contra hp
    exact hj (jobs_eq_nil_of_state hp)
  · intro due hp
    rw [ha.shown_eq, hp]
    rfl
  · intro hp ns t hns
    have ht : t.phase = .stopped := stopped_of_run? hns hp
    refine ⟨ht, ?_, jobs_of_stopped ht⟩
    rw [(account_of_run? (run?_trans h hns)).shown_eq, ht]
    rfl

/-- A consumer whose connection was lost has shown every state, and is disconnected until its next
attempt. -/
theorem shown_state_is_lawful_of_lost :
    System.run? gatedSetup {} lossyMoves = some lossySystem ∧
      shownStates (events lossySystem.log) = [.connecting, .consuming, .disconnected] ∧
      [State.disconnected, .connecting, .consuming, .disconnected].IsChain State.Next ∧
      lossySystem.phase = .waiting 2000 ∧ shown (events lossySystem.log) = .disconnected := by
  have hstates : shownStates (events lossySystem.log) =
      [.connecting, .consuming, .disconnected] := by
    decide +kernel
  have hp : lossySystem.phase = .waiting 2000 := by decide +kernel
  obtain ⟨hchain, -, -, -, hwaiting, -⟩ := shown_state_is_lawful run?_lossy
  rw [hstates] at hchain
  exact ⟨run?_lossy, hstates, hchain, hp, hwaiting 2000 hp⟩

end LinkPreview.Queue
