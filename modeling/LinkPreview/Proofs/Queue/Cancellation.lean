import LinkPreview.Proofs.Queue.Sessions
import LinkPreview.Queue.Report

/-!
# Cancellation

A consumer that is cancelled does not connect and takes nothing any more. With its next moves it
stops, and drops the jobs that run, and then nothing is seen of it whatever is done. Until it
moves, the jobs that ran may still be seen. When the parts take turns it moves first, so then
nothing is seen after the cancellation but the states that it shows on its way.
-/

namespace LinkPreview.Queue

open LinkPreview.Queue.System

variable {c : Setup} {s t u : System}

/-! ## What is seen on the way -/

/-- Nothing but events of a kind was seen on the way from one system to another. -/
def SeesOnly (kind : Event → Prop) (s t : System) : Prop :=
  ∃ later, t.log = later ++ s.log ∧ ∀ entry ∈ later, kind entry.event

/-- Whether an event is that a state is shown, or that a job does something for one of the
deliveries. -/
def Event.IsTrailing (tags : List Nat) (e : Event) : Prop :=
  e.state?.isSome = true ∨ e.item? = none ∧ ∃ tag ∈ tags, e.delivery? = some tag

namespace SeesOnly

variable {kind : Event → Prop}

theorem of_log_eq (h : t.log = s.log) : SeesOnly kind s t :=
  ⟨[], by rw [h, List.nil_append], by simp⟩

theorem trans (h : SeesOnly kind s t) (g : SeesOnly kind t u) : SeesOnly kind s u := by
  obtain ⟨first, hs, hfirst⟩ := h
  obtain ⟨second, ht, hsecond⟩ := g
  refine ⟨second ++ first, by rw [ht, hs, List.append_assoc], ?_⟩
  exact List.forall_mem_append.mpr ⟨hsecond, hfirst⟩

end SeesOnly

theorem seesOnly_enter (s : System) (p : Phase) (tags : List Nat) :
    SeesOnly (Event.IsTrailing tags) s (s.enter p) := by
  rcases log_enter (s := s) p with he | he
  · exact .of_log_eq he
  · refine ⟨[_], he, ?_⟩
    intro entry hm
    rw [List.mem_singleton.mp hm]
    exact Or.inl rfl

/-- What is seen of a job that moves on. -/
theorem Advance.seesOnly {before : List Running} {r : Running} {stage : Stage} {es : List Event}
    {released : List String} (h : Advance c s before r stage es released) {tags : List Nat}
    (hr : r.tag ∈ tags) (jobs : List Running) :
    SeesOnly (Event.IsTrailing tags) s (s.worked jobs es released) := by
  refine ⟨_, log_worked jobs es released, ?_⟩
  intro entry hm
  obtain ⟨e, he, rfl⟩ := List.mem_map.mp hm
  refine Or.inr ⟨?_, r.tag, hr, h.delivery?_eq e he⟩
  rcases h.eq_nil_or_singleton with rfl | ⟨e', rfl, -, hitem⟩
  · cases he
  · rwa [List.mem_singleton.mp he]

/-! ## Until the consumer moves -/

theorem isCancelled_input (hc : s.isCancelled = true) (i : Input) :
    (s.input i).isCancelled = true := by
  cases i with
  | start => rcases input_start s with ⟨-, he⟩ | ⟨-, he⟩ <;> rw [he] <;> exact hc
  | cancel => rfl
  | _ => exact hc

/-- What has become of a system that was cancelled: no job has begun, and nothing was seen but of
the jobs that ran. -/
structure Fading (s t : System) : Prop where
  isCancelled : t.isCancelled = true
  tags_subset : t.jobs.map (·.tag) ⊆ s.jobs.map (·.tag)
  seesOnly : SeesOnly (Event.IsTrailing (s.jobs.map (·.tag))) s t

namespace Fading

theorem refl (hc : s.isCancelled = true) : Fading s s :=
  ⟨hc, List.Subset.refl _, .of_log_eq rfl⟩

/-- A phase is entered in which no job runs. -/
theorem enter (h : Fading s t) {p : Phase} (hp : p.state ≠ .consuming) : Fading s (t.enter p) := by
  refine ⟨(isCancelled_enter p).trans h.isCancelled, ?_, h.seesOnly.trans (seesOnly_enter _ _ _)⟩
  rw [jobs_eq_nil_of_state (by rwa [phase_enter])]
  exact List.nil_subset _

theorem input (h : Fading s t) (i : Input) : Fading s (t.input i) := by
  refine ⟨isCancelled_input h.isCancelled i, ?_, h.seesOnly.trans (.of_log_eq (input_items i).2.1)⟩
  rw [(input_session i).2.2]
  exact h.tags_subset

/-- No move of a cancelled system connects or takes anything. -/
theorem step (h : Fading s t) {m : Move} (hm : Transition c t m u) : Fading s u := by
  cases hm with
  | input i => exact h.input i
  | begin | stop => exact h.enter (by simp [Phase.state])
  | attempt _ hc | connect _ hc | fail _ hc | leave _ hc | take _ hc | finish _ hc
  | retry _ hc =>
      rw [h.isCancelled] at hc
      cases hc
  | @work as bs r stage es released hp ha hw =>
      have hjobs : t.jobs = as ++ r :: bs := jobs_of_consuming hp
      have htags : (t.worked (as ++ { r with stage := stage } :: bs) es released).jobs.map
          (·.tag) = t.jobs.map (·.tag) := by
        rw [jobs_of_consuming rfl, hjobs]
        simp
      have hr : r.tag ∈ s.jobs.map (·.tag) := by
        apply h.tags_subset
        rw [hjobs]
        exact List.mem_map_of_mem (by simp)
      exact ⟨h.isCancelled, htags ▸ h.tags_subset, h.seesOnly.trans (hw.seesOnly hr _)⟩
  | wait => exact ⟨h.isCancelled, h.tags_subset, h.seesOnly.trans (.of_log_eq rfl)⟩

theorem run (h : Fading s t) {ns : List Move} (hns : t.run? c ns = some u) : Fading s u :=
  run?_induction (P := fun _ u => Fading s u) h (fun _ _ _ _ _ ih hm => ih.step hm) hns

end Fading

theorem fading_of_run? {ns : List Move} (h : s.run? c (.input .cancel :: ns) = some t) :
    Fading s t := by
  have hrun : (s.input .cancel).run? c ns = some t := h
  have hcancel : Fading s (s.input .cancel) :=
    ⟨rfl, List.Subset.refl _, .of_log_eq rfl⟩
  exact hcancel.run hrun

/-! ## When the consumer moves -/

/-- What a cancelled consumer comes to when it moves as long as it can. -/
theorem runConsumer_of_isCancelled (hc : s.isCancelled = true) (hu : s.phase ≠ .unstarted) :
    (∃ n ≤ 2, s.run? c (List.replicate n .consumer) = some (s.runConsumer c)) ∧
      (s.runConsumer c).phase = .stopped ∧
      SeesOnly (Event.IsTrailing []) s (s.runConsumer c) := by
  by_cases ho : s.phase = .stopped
  · have hnone : s.consumerStep? c = none := consumerStep?_of_stopped ho
    rw [runConsumer_of_none hnone]
    exact ⟨⟨0, by omega, rfl⟩, ho, .of_log_eq rfl⟩
  · -- What is left of the way once the consumer has left its start behind.
    have hstop : ∀ t : System, t.isCancelled = true → t.phase ≠ .unstarted →
        t.phase ≠ .starting → t.phase ≠ .stopped →
        t.consumerStep? c = some (t.enter .stopped) ∧ t.runConsumer c = t.enter .stopped := by
      intro t hc hu hs ho
      have hstep := consumerStep?_of_isCancelled (c := c) hc hu hs ho
      have hnone : (t.enter .stopped).consumerStep? c = none :=
        consumerStep?_of_stopped (phase_enter _)
      exact ⟨hstep, by rw [runConsumer_of_some hstep, runConsumer_of_none hnone]⟩
    by_cases hs : s.phase = .starting
    · have hbegin : s.consumerStep? c = some (s.enter .dialling) := by
        simp [System.consumerStep?, hs]
      obtain ⟨hstep, hrun⟩ := hstop (s.enter .dialling) ((isCancelled_enter _).trans hc)
        (by simp) (by simp) (by simp)
      rw [runConsumer_of_some hbegin, hrun]
      refine ⟨⟨2, by omega, ?_⟩, phase_enter _,
        (seesOnly_enter s .dialling []).trans (seesOnly_enter _ .stopped [])⟩
      simp [System.run?, System.step?, List.replicate, hbegin, hstep]
    · obtain ⟨hstep, hrun⟩ := hstop s hc hu hs ho
      rw [hrun]
      refine ⟨⟨1, by omega, ?_⟩, phase_enter _, seesOnly_enter s .stopped []⟩
      simp [System.run?, System.step?, List.replicate, hstep]

/-- Nothing is seen of a consumer that has stopped. -/
theorem Transition.log_eq_of_stopped {m : Move} (h : Transition c s m t)
    (hp : s.phase = .stopped) : t.log = s.log := by
  cases h with
  | input i => exact (input_items i).2.1
  | stop _ _ _ ho => exact absurd hp ho
  | leave | wait => rfl
  | begin he | attempt he | connect he | fail he | take he | finish he | retry he | work he =>
      rw [hp] at he
      cases he

theorem log_eq_of_stopped {ns : List Move} (h : s.run? c ns = some t)
    (hp : s.phase = .stopped) : t.phase = .stopped ∧ t.log = s.log := by
  refine run?_induction (P := fun _ t => t.phase = .stopped ∧ t.log = s.log) ⟨hp, rfl⟩ ?_ h
  rintro _ m t u _ ⟨ht, hlog⟩ hm
  exact ⟨hm.stopped ht, (hm.log_eq_of_stopped ht).trans hlog⟩

/-! ## When the parts take turns -/

/-- A cancelled consumer that moves as long as it can stops, unless it was never started. -/
theorem phase_runConsumer_of_isCancelled (hc : s.isCancelled = true) :
    (s.runConsumer c).phase = (if s.phase = .unstarted then .unstarted else .stopped) ∧
      SeesOnly (Event.IsTrailing []) s (s.runConsumer c) := by
  by_cases hu : s.phase = .unstarted
  · have hnone : s.consumerStep? c = none := by simp [System.consumerStep?, hu]
    rw [runConsumer_of_none hnone, if_pos hu]
    exact ⟨hu, .of_log_eq rfl⟩
  · obtain ⟨-, hp, hsees⟩ := runConsumer_of_isCancelled (c := c) hc hu
    rw [if_neg hu]
    exact ⟨hp, hsees⟩

theorem phase_input_eq_unstarted_iff (i : Input) :
    (s.input i).phase = .unstarted ↔ s.phase = .unstarted ∧ i ≠ .start := by
  cases i with
  | start =>
      rcases input_start s with ⟨-, he⟩ | ⟨hp, he⟩ <;> rw [he]
      · simp
      · simp [hp]
  | _ => simp [System.input]

/-- When something is done to a consumer that is cancelled by then, only the consumer moves. -/
theorem act_of_isCancelled {i : Input} (hc : (s.input i).isCancelled = true) (span : Nat) :
    s.act c i span = { (s.input i).runConsumer c with time := s.time + span } := by
  obtain ⟨hp, -⟩ := phase_runConsumer_of_isCancelled (c := c) hc
  have hjobs : ((s.input i).runConsumer c).jobs = [] := by
    apply jobs_eq_nil_of_state
    rw [hp]
    split <;> simp [Phase.state]
  rw [act, rest_of_jobs_eq_nil hjobs]
  apply advance_of_due?_eq_none
  split at hp <;> simp [due?, hp]

/-- What a consumer comes to that is cancelled, and had the chance to move since, when all these
things were done to it. -/
structure IsOver (s : System) (inputs : List Input) (t : System) : Prop where
  isCancelled : t.isCancelled = true
  phase_eq : t.phase = if s.phase = .unstarted ∧ .start ∉ inputs then .unstarted else .stopped
  seesOnly : SeesOnly (Event.IsTrailing []) s t

theorem isOver_act {i : Input} (hc : (s.input i).isCancelled = true) (span : Nat) :
    IsOver s [i] (s.act c i span) := by
  obtain ⟨hp, hsees⟩ := phase_runConsumer_of_isCancelled (c := c) hc
  have hfading : Fading (s.input i) ((s.input i).runConsumer c) :=
    (leads_runConsumer _).invariant (.refl hc) fun _ _ _ ih hm _ => ih.step hm
  rw [act_of_isCancelled hc]
  refine ⟨hfading.isCancelled, ?_, ?_⟩
  · simpa only [phase_input_eq_unstarted_iff, List.mem_singleton, ne_comm] using hp
  · exact .trans (.of_log_eq (input_items i).2.1) hsees

namespace IsOver

variable {inputs : List Input}

theorem state_eq (h : IsOver s inputs t) : t.phase.state = .disconnected := by
  rw [h.phase_eq]
  split <;> rfl

theorem trans {others : List Input} (h : IsOver s inputs t) (g : IsOver t others u) :
    IsOver s (inputs ++ others) u := by
  refine ⟨g.isCancelled, ?_, h.seesOnly.trans g.seesOnly⟩
  have hiff : t.phase = .unstarted ↔ s.phase = .unstarted ∧ .start ∉ inputs := by
    rw [h.phase_eq]
    simp
  rw [g.phase_eq]
  simp only [hiff, List.mem_append, not_or, and_assoc]

/-- Whatever is done more, nothing more is seen. -/
theorem act (h : IsOver s inputs t) (i : Input) (span : Nat) :
    IsOver s (inputs ++ [i]) (t.act c i span) :=
  h.trans (isOver_act (isCancelled_input h.isCancelled i) span)

theorem acts (h : IsOver s inputs t) (acts : List (Input × Nat)) :
    IsOver s (inputs ++ acts.map Prod.fst) (acts.foldl (fun s a => s.act c a.1 a.2) t) := by
  induction acts generalizing inputs t with
  | nil => simpa using h
  | cons a acts ih => simpa using ih (h.act a.1 a.2)

end IsOver

/-- A report that the consumer is away and that nothing was seen. -/
structure Report.IsQuiet (r : Report) : Prop where
  state_eq : r.state = .disconnected
  connects_eq : r.connects = 0
  fetched_eq : r.fetched = []
  published_eq : r.published = []
  settled_eq : r.settled = []

theorem IsOver.isQuiet {inputs : List Input} (h : IsOver s inputs t) :
    (Report.between s t).IsQuiet := by
  obtain ⟨later, hlog, hlater⟩ := h.seesOnly
  have hshown : ∀ entry ∈ later.reverse, ∃ state, entry.event = .state state := by
    intro entry hm
    rcases hlater entry (List.mem_reverse.mp hm) with h | ⟨-, tag, hm, -⟩
    · cases he : entry.event <;> simp only [he, Event.state?, Option.isSome_none,
        Bool.false_eq_true] at h
      exact ⟨_, rfl⟩
    · cases hm
  have htake : (t.log.take (t.log.length - s.log.length)).reverse = later.reverse := by
    simp [hlog]
  have hcount : Report.attemptsIn later.reverse = 0 := by
    apply List.countP_eq_zero.mpr
    intro entry hm
    obtain ⟨state, he⟩ := hshown entry hm
    simp [he]
  have hnone : ∀ {β : Type} (see : Entry → Option β),
      (∀ time state, see ⟨time, .state state⟩ = none) → later.reverse.filterMap see = [] := by
    intro β see hsee
    apply List.filterMap_eq_nil_iff.mpr
    rintro ⟨time, e⟩ hm
    obtain ⟨state, rfl⟩ := hshown _ hm
    exact hsee time state
  have hfetched : Report.fetchedIn later.reverse = [] := hnone _ fun _ _ => rfl
  have hpublished : Report.publishedIn later.reverse = [] := hnone _ fun _ _ => rfl
  have hsettled : Report.settledIn later.reverse = [] := hnone _ fun _ _ => rfl
  refine ⟨h.state_eq, ?_, ?_, ?_, ?_⟩ <;> simp only [Report.between, htake]
  · exact hcount
  · simp [hfetched]
  · exact hpublished
  · simp [hsettled]

/-- All reports about a consumer that is cancelled are quiet. -/
theorem isQuiet_of_mem_reports (hc : s.isCancelled = true) {acts : List (Input × Nat)} :
    ∀ report ∈ reports c s acts, report.IsQuiet := by
  induction acts generalizing s with
  | nil => simp [reports]
  | cons a acts ih =>
      have hover : IsOver s [a.1] (s.act c a.1 a.2) := isOver_act (isCancelled_input hc a.1) a.2
      rw [reports]
      exact List.forall_mem_cons.mpr ⟨hover.isQuiet, ih hover.isCancelled⟩

/-- Cancellation is final, whatever the consumer is about. In every run behind it no connection is
attempted and nothing is taken, and nothing else is seen but states and what the jobs do that ran.
When the consumer moves it stops, with two moves at most, and shows nothing but states; it has no
jobs then, stays so, and nothing at all is seen any more. When the parts take turns it has stopped
before anything else happens, or stops when it is started, and every report is quiet. -/
theorem cancellation_is_final (s : System) :
    (∀ ns t, s.run? c (.input .cancel :: ns) = some t →
      SeesOnly (Event.IsTrailing (s.jobs.map (·.tag))) s t ∧
        (t.phase ≠ .unstarted →
          (∃ n ≤ 2, t.run? c (List.replicate n .consumer) = some (t.runConsumer c)) ∧
            (t.runConsumer c).phase = .stopped ∧
            SeesOnly (Event.IsTrailing []) t (t.runConsumer c)) ∧
        (t.phase = .stopped → t.phase.state = .disconnected ∧ t.jobs = [] ∧
          ∀ ks u, t.run? c ks = some u → u.phase = .stopped ∧ u.log = t.log)) ∧
      ∀ span acts,
        IsOver s (.cancel :: acts.map Prod.fst)
            (acts.foldl (fun s a => s.act c a.1 a.2) (s.act c .cancel span)) ∧
          ∀ report ∈ reports c s ((.cancel, span) :: acts), report.IsQuiet := by
  constructor
  · intro ns t hns
    have hfading := fading_of_run? hns
    refine ⟨hfading.seesOnly, runConsumer_of_isCancelled hfading.isCancelled, ?_⟩
    intro hp
    refine ⟨by rw [hp]; rfl, jobs_of_stopped hp, ?_⟩
    intro ks u hks
    exact log_eq_of_stopped hks hp
  · intro span acts
    have hover : IsOver s [.cancel] (s.act c .cancel span) := isOver_act rfl span
    refine ⟨hover.acts acts, ?_⟩
    rw [reports]
    exact List.forall_mem_cons.mpr ⟨hover.isQuiet, isQuiet_of_mem_reports hover.isCancelled⟩

/-! ### A consumer at work that is cancelled -/

/-- A job waits for its page, and another delivery is ready. -/
def busyMoves : List Move :=
  [.input .start, .consumer, .consumer, .consumer,
    .input (.deliver (Job.encode ⟨"a", "http://[::1]"⟩)), .consumer, .job 1,
    .input (.deliver (Job.encode ⟨"b", "http://[::1]"⟩))]

theorem isSome_run?_busyMoves : (System.run? gatedSetup {} busyMoves).isSome = true := by
  decide +kernel

/-- The system while a job waits for its page. -/
def busySystem : System := (System.run? _ _ _).get isSome_run?_busyMoves

/-- When it is cancelled, the consumer takes nothing and stops, though the page is released. -/
theorem cancellation_is_final_of_busy :
    busySystem.phase ≠ .unstarted ∧ busySystem.inbound ≠ [] ∧
      ∃ t, busySystem.run? gatedSetup [.input .cancel, .input (.release "http://[::1]")] =
          some t ∧
        (t.runConsumer gatedSetup).phase = .stopped ∧
        SeesOnly (Event.IsTrailing []) t (t.runConsumer gatedSetup) ∧
        ∀ report ∈ reports gatedSetup busySystem
          [(.cancel, 0), (.release "http://[::1]", 0), (.nothing, 5000)], report.IsQuiet := by
  have hu : busySystem.phase ≠ .unstarted := by decide +kernel
  have hi : busySystem.inbound ≠ [] := by decide +kernel
  obtain ⟨hruns, hacts⟩ := cancellation_is_final (c := gatedSetup) busySystem
  have hrun : busySystem.run? gatedSetup
      [.input .cancel, .input (.release "http://[::1]")] =
        some ((busySystem.input .cancel).input (.release "http://[::1]")) := rfl
  obtain ⟨-, hstop, -⟩ := hruns _ _ hrun
  obtain ⟨-, hp, hsees⟩ := hstop hu
  exact ⟨hu, hi, _, hrun, hp, hsees,
    (hacts 0 [(.release "http://[::1]", 0), (.nothing, 5000)]).2⟩

end LinkPreview.Queue
