import LinkPreview.Proofs.Queue.Sequence
import LinkPreview.Proofs.Queue.Settlements
import LinkPreview.Queue.Schedule

/-!
# Complete runs

As long as no session ends, a system is never stuck but for want of a page that is to be
released, or of a connection that is held. Every move of the consumer or of a job lowers the
potential, so whatever has happened, a run can go on until all deliveries are done with. What
it comes to then does not depend on how many jobs may run at once, nor on how they took turns.
-/

namespace LinkPreview.Queue

open LinkPreview.Queue.System

/-- Whether a move is one of the system itself, lets time pass, or releases what is held. -/
def Move.isHelp : Move → Bool
  | .consumer | .job _ | .wait _ | .input (.release _) | .input .releaseConnect => true
  | .input _ => false

theorem Move.isQuiet_of_isHelp {m : Move} (h : m.isHelp = true) : m.isQuiet = true := by
  cases m with
  | input i => cases i <;> first | rfl | cases h
  | _ => rfl

theorem Move.payload?_of_isHelp {m : Move} (h : m.isHelp = true) : m.payload? = none := by
  cases m with
  | input i => cases i <;> first | rfl | cases h
  | _ => rfl

variable {c : Setup} {s t : System} {b : Bool}

/-! ## What help leaves as it is -/

theorem Advance.agreesWith {before : List Running} {r : Running} {stage : Stage}
    {es : List Event} {released : List String} (h : Advance c s before r stage es released)
    (hb : s.publishFails = !b) : ∀ e ∈ es, e.agreesWith b = true := by
  cases h with
  | publish hr hf =>
      rw [hf] at hb
      simpa [Event.agreesWith] using hb.symm
  | fail hr hf =>
      rw [hf] at hb
      simpa [Event.agreesWith] using hb.symm
  | _ => simp [Event.agreesWith]

theorem Transition.agreesWith {m : Move} (hm : Transition c s m t) (hb : s.publishFails = !b)
    (h : ∀ e ∈ events s.log, e.agreesWith b = true) :
    ∀ e ∈ events t.log, e.agreesWith b = true := by
  cases hm with
  | input i =>
      rw [(input_items i).2.1]
      exact h
  | begin | stop | retry | connect =>
      intro e he
      rcases mem_events_enter.mp he with he | ⟨-, rfl⟩
      · exact h e he
      · rfl
  | attempt | take =>
      intro e he
      rw [log_note, events_cons, List.mem_append, List.mem_singleton] at he
      rcases he with he | rfl
      · exact h e he
      · rfl
  | fail | finish =>
      intro e he
      rcases mem_events_enter.mp he with he | ⟨-, rfl⟩
      · rw [log_note, events_cons, List.mem_append, List.mem_singleton] at he
        rcases he with he | rfl
        · exact h e he
        · rfl
      · rfl
  | leave | wait => exact h
  | work hp ha hw =>
      intro e he
      rw [log_worked, events_append_log, List.mem_append, List.mem_reverse] at he
      rcases he with he | he
      · exact h e he
      · exact hw.agreesWith hb e he

/-- What holds of a system that was started, and in which publishing goes one way. -/
structure Steady (b : Bool) (s : System) : Prop where
  undisturbed : Undisturbed s
  started : s.phase ≠ .unstarted
  publishFails : s.publishFails = !b
  agrees : ∀ e ∈ events s.log, e.agreesWith b = true

theorem Steady.step (h : Steady b s) {m : Move} (hm : Transition c s m t)
    (hh : m.isHelp = true) : Steady b t := by
  have hu := h.undisturbed.step hm (Move.isQuiet_of_isHelp hh)
  have ha := hm.agreesWith h.publishFails h.agrees
  refine ⟨hu, ?_, ?_, ha⟩
  · cases hm with
    | input i =>
        cases i <;> first | exact h.started | cases hh
    | begin | stop | retry | connect => simp
    | fail | finish => simp [disconnect]
    | attempt | leave | take | work => simp [worked]
    | wait => exact h.started
  · rw [← h.publishFails]
    cases hm with
    | input i =>
        cases i <;> first | rfl | cases hh
    | begin | stop | retry | connect => simp
    | fail | finish => simp [disconnect]
    | attempt | leave | take | work | wait => rfl

theorem Steady.of_leads (h : Steady b s) (hl : Leads c Move.isHelp s t) : Steady b t :=
  hl.invariant h fun _ _ _ ht hm hk => ht.step hm hk

/-! ## The next move -/

/-- A job that is not over can move when no job before it waits for the same page, unless its
page is held back. -/
theorem stageStep?_eq_none {r : Running} (ho : r.stage.isOver = false)
    (h : stageStep? c s [] r = none) : ∃ job, r.stage = .fetching job ∧
      (c.pages job.url).isGated = true ∧ job.url ∉ s.released := by
  unfold stageStep? at h
  split at h <;> rename_i hr
  · split at h
    · cases h
    · split at h <;> cases h
  · split at h <;> rename_i hg
    · cases h
    · split at h <;> rename_i hm
      · cases h
      · exact ⟨_, hr, by simpa using hg, by simpa using hm⟩
  · cases h
  · split at h <;> cases h
  · cases h
  · cases h
  · rw [hr] at ho
    cases ho
  · rw [hr] at ho
    cases ho

theorem jobStep?_head {r : Running} {rs : List Running} (hp : s.phase = .consuming (r :: rs))
    {u : Stage × System} (h : stageStep? c s [] r = some u) :
    (s.jobStep? c r.tag).isSome = true := by
  simp [System.jobStep?, hp, jobsStep?, h]

theorem consumerStep?_eq_none_of_consuming {jobs : List Running} (hp : s.phase = .consuming jobs)
    (hc : s.isCancelled = false) (h : s.consumerStep? c = none) :
    (∀ r ∈ jobs, r.stage.isOver = false) ∧ (s.inbound = [] ∨ c.limit ≤ jobs.length) := by
  unfold System.consumerStep? at h
  simp only [hp, hc, Bool.false_eq_true, if_false] at h
  split at h <;> rename_i ho
  · cases h
  · refine ⟨by simpa using ho, ?_⟩
    split at h <;> rename_i hl
    · left
      unfold System.take? at h
      split at h <;> rename_i hi
      · exact hi
      · split at h <;> cases h
    · right
      omega

/-- In a session, nothing can be waited for but a page that is held back. -/
theorem exists_fetching_of_isIdle {jobs : List Running} (hp : s.phase = .consuming jobs)
    (hc : s.isCancelled = false) (hn : s.isComplete = false) (hi : s.isIdle c = true) :
    ∃ r rest job, jobs = r :: rest ∧ r.stage = .fetching job ∧
      (c.pages job.url).isGated = true ∧ job.url ∉ s.released := by
  have hjobs : s.jobs = jobs := jobs_of_consuming hp
  obtain ⟨hconsumer, hall⟩ := isIdle_iff.mp hi
  rw [hjobs] at hall
  obtain ⟨hover, hfull⟩ := consumerStep?_eq_none_of_consuming hp hc hconsumer
  cases jobs with
  | nil =>
      have hempty : s.inbound = [] := by
        refine hfull.resolve_right ?_
        simp only [Setup.limit, List.length_nil]
        omega
      simp [System.isComplete, hjobs, hempty] at hn
  | cons r rest =>
      have hnone : stageStep? c s [] r = none := by
        apply Option.eq_none_iff_forall_ne_some.mpr
        intro u hu
        have hsome := jobStep?_head hp hu
        rw [hall r List.mem_cons_self] at hsome
        cases hsome
      obtain ⟨job, hr, hg, hm⟩ := stageStep?_eq_none (hover r List.mem_cons_self) hnone
      exact ⟨r, rest, job, rfl, hr, hg, hm⟩

/-- A system that is not idle can make a move of its own. -/
theorem exists_leads_lt_of_not_isIdle (hi : s.isIdle c = false) :
    ∃ t, Leads c Move.isHelp s t ∧ t.potential < s.potential := by
  cases hc : s.consumerStep? c with
  | some t => exact ⟨t, .of_step? (m := .consumer) rfl hc, potential_consumerStep?_lt hc⟩
  | none =>
      obtain ⟨r, -, hr⟩ : ∃ r ∈ s.jobs, s.jobStep? c r.tag ≠ none := by
        simpa [System.isIdle, hc] using hi
      obtain ⟨t, ht⟩ := Option.ne_none_iff_exists'.mp hr
      exact ⟨t, .of_step? (m := .job r.tag) rfl ht, potential_jobStep?_lt ht⟩

theorem not_isIdle_of_consumerStep? (h : (s.consumerStep? c).isSome = true) :
    s.isIdle c = false := by
  obtain ⟨t, ht⟩ := Option.isSome_iff_exists.mp h
  simp [System.isIdle, ht]

/-- As long as not all is done, help makes another move possible. -/
theorem Steady.exists_not_isIdle (h : Steady b s) (hn : s.isComplete = false) :
    ∃ t, Leads c Move.isHelp s t ∧ t.potential = s.potential ∧ t.isIdle c = false := by
  have hcancel := h.undisturbed.isCancelled
  cases hi : s.isIdle c with
  | false => exact ⟨s, .refl s, rfl, hi⟩
  | true =>
      have hnone : s.consumerStep? c = none := (isIdle_iff.mp hi).1
      cases hp : s.phase with
      | unstarted => exact absurd hp h.started
      | stopped => exact absurd hp h.undisturbed.phase
      | starting => simp [System.consumerStep?, hp] at hnone
      | dialling => simp [System.consumerStep?, hp, hcancel] at hnone
      | connecting isHeld =>
          refine ⟨_, .of_step? (m := .input .releaseConnect) rfl rfl, rfl, ?_⟩
          apply not_isIdle_of_consumerStep?
          cases isHeld <;> simp [System.consumerStep?, System.input, hp, hcancel]
      | waiting due =>
          have hdue : s.time < due := by
            simp [System.consumerStep?, hp, hcancel] at hnone
            omega
          have hstep : s.step? c (.wait (due - s.time)) = some { s with time := due } := by
            have he : s.time + (due - s.time) = due := by omega
            simp [System.step?, hi, he, System.isDueBefore, hp]
          refine ⟨_, .of_step? rfl hstep, rfl, ?_⟩
          apply not_isIdle_of_consumerStep?
          simp [System.consumerStep?, hp, hcancel]
      | consuming jobs =>
          obtain ⟨r, rest, job, rfl, hr, -⟩ := exists_fetching_of_isIdle hp hcancel hn hi
          refine ⟨_, .of_step? (m := .input (.release job.url)) rfl rfl, rfl, ?_⟩
          -- Otherwise the same job would still wait for the page that was released.
          rw [← Bool.not_eq_true]
          intro hidle
          obtain ⟨r', rest', job', he, hr', -, hm⟩ :=
            exists_fetching_of_isIdle (s := s.input (.release job.url)) hp hcancel hn hidle
          cases he
          rw [hr] at hr'
          cases hr'
          exact hm (List.mem_append_right _ List.mem_cons_self)

/-- With help, a run goes on until all deliveries are done with. -/
theorem Steady.exists_isComplete (h : Steady b s) :
    ∃ t, Leads c Move.isHelp s t ∧ t.isComplete = true := by
  induction hk : s.potential using Nat.strongRecOn generalizing s with
  | ind k ih =>
      cases hn : s.isComplete with
      | true => exact ⟨s, .refl s, hn⟩
      | false =>
          obtain ⟨u, hu, hpot, hidle⟩ := h.exists_not_isIdle (c := c) hn
          obtain ⟨v, hv, hlt⟩ := exists_leads_lt_of_not_isIdle hidle
          have hsv := hu.trans hv
          obtain ⟨t, ht, hdone⟩ := ih v.potential (by omega) (h.of_leads hsv) rfl
          exact ⟨t, hsv.trans ht, hdone⟩

/-! ## Complete runs -/

/-- A run in which no session ends and publishing goes one way can be carried on to its end. -/
theorem exists_completes {ms : List Move} (h : System.run? c {} ms = some s)
    (hq : ∀ m ∈ ms, m.isQuiet = true)
    (hb : ∀ e ∈ events s.log, e.agreesWith b = true) :
    ∃ ns t, Completes c b (ms ++ ns) t ∧ payloads ns = [] := by
  -- Starting does nothing to a system that was started.
  let u := (s.input .start).input (.failPublish !b)
  have hrun : System.run? c s [.input .start, .input (.failPublish !b)] = some u := rfl
  have hstarted : (s.input .start).phase ≠ .unstarted := by
    rcases input_start s with ⟨-, he⟩ | ⟨hp, he⟩ <;> rw [he]
    · nofun
    · exact hp
  have hlog : u.log = s.log := (input_items .start).2.1
  have hsteady : Steady b u := by
    refine ⟨?_, hstarted, rfl, by rw [hlog]; exact hb⟩
    have hs := undisturbed_of_leads ⟨ms, hq, h⟩ undisturbed_initial
    exact undisturbed_of_leads ⟨_, by simp [Move.isQuiet], hrun⟩ hs
  obtain ⟨t, ⟨ns, hns, ht⟩, hdone⟩ := hsteady.exists_isComplete (c := c)
  refine ⟨[.input .start, .input (.failPublish !b)] ++ ns, t, ⟨?_, ?_, ?_, hdone⟩, ?_⟩
  · rw [run?_append, h, Option.bind_some, run?_append, hrun, Option.bind_some, ht]
  · have hns : ∀ m ∈ ns, m.isQuiet = true := fun m hm => Move.isQuiet_of_isHelp (hns m hm)
    refine List.forall_mem_append.mpr ⟨hq, List.forall_mem_append.mpr ⟨?_, hns⟩⟩
    simp [Move.isQuiet]
  · exact (hsteady.of_leads ⟨ns, hns, ht⟩).agrees
  · rw [payloads_append]
    exact List.filterMap_eq_nil_iff.mpr fun m hm => Move.payload?_of_isHelp (hns m hm)

variable {fetch : String → Except FetchError String}

/-- However many jobs may run at once and however they take turns, a complete run comes to what
processing its deliveries one after another comes to, and every run can be completed. -/
theorem concurrency_does_not_change_results (hf : c.IsAnsweredBy fetch)
    (hc : ∀ url, (c.pages url).content ≠ .crash) (b : Bool) :
    (∀ ms s, Completes c b ms s →
        (tallyOf s.log).Perm (processAll fetch c.stamp c.resultQueue b 1 (payloads ms))) ∧
      (∀ n ms s ms' s', Completes c b ms s → Completes { c with maxInFlight := n } b ms' s' →
        payloads ms' = payloads ms → (tallyOf s'.log).Perm (tallyOf s.log)) ∧
      ∀ ms s, System.run? c {} ms = some s → (∀ m ∈ ms, m.isQuiet = true) →
        (∀ e ∈ events s.log, e.agreesWith b = true) →
        ∃ ns t, Completes c b (ms ++ ns) t ∧ payloads ns = [] := by
  refine ⟨fun ms s h => h.perm_processAll hf hc, ?_, fun ms s => exists_completes⟩
  intro n ms s ms' s' h h' he
  have ht := h'.perm_processAll (c := { c with maxInFlight := n }) hf hc
  rw [he] at ht
  exact ht.trans (h.perm_processAll hf hc).symm

/-- The run of a single job comes to what processing it comes to. -/
theorem concurrency_does_not_change_results_of_served :
    (Setup.uniform (.served "")).IsAnsweredBy (fun _ => .ok "") ∧
      (∀ url, ((Setup.uniform (.served "")).pages url).content ≠ .crash) ∧
      Completes (.uniform (.served "")) true (loneMoves 5) servedSystem ∧
      (tallyOf servedSystem.log).Perm
        (processAll (fun _ => .ok "") (Setup.uniform (.served "")).stamp "preview_results" true 1
          [Job.encode ⟨"a", "http://[::1]"⟩]) := by
  have hf : (Setup.uniform (.served "")).IsAnsweredBy (fun _ => .ok "") := by
    intro url answer ha
    cases ha
    rfl
  have hc : ∀ url, ((Setup.uniform (.served "")).pages url).content ≠ .crash := by
    intro url
    nofun
  have hdone : Completes (.uniform (.served "")) true (loneMoves 5) servedSystem := by
    refine ⟨run?_served, ?_, ?_, ?_⟩ <;> decide +kernel
  exact ⟨hf, hc, hdone, (concurrency_does_not_change_results hf hc true).1 _ _ hdone⟩

end LinkPreview.Queue
