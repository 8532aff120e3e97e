import Mathlib.Data.List.Nodup
import Mathlib.Data.List.Perm.Subperm
import LinkPreview.Proofs.Queue.Completion
import LinkPreview.Proofs.Queue.Order

/-!
# The pool of jobs

The jobs of a session are a pool with a limit. A delivery that is taken fills a place, and only
a job that has ended gives one free, one at a time, however it has ended. The consumer comes to
rest only when the pool is full of jobs that have not ended, or nothing is left to take. So the
pool neither overflows nor starves.
-/

namespace LinkPreview.Queue

open LinkPreview.Queue.System

variable {c : Setup} {s t : System}

/-- The jobs of a pool that have not ended. -/
def unfinished (jobs : List Running) : List Running :=
  jobs.filter (!·.stage.isOver)

/-- How many jobs of a pool have ended and still hold their places. -/
def overCount (jobs : List Running) : Nat :=
  jobs.countP (·.stage.isOver)

/-- A delivery as the broker sends it. -/
def inboundOf (delivery : List UInt8 × Nat) : Inbound :=
  .delivery delivery.2 delivery.1

/-- The job that a delivery begins. -/
def beginning (delivery : List UInt8 × Nat) : Running :=
  { tag := delivery.2, payload := delivery.1 }

theorem unfinished_eq_self {jobs : List Running} :
    unfinished jobs = jobs ↔ ∀ r ∈ jobs, r.stage.isOver = false := by
  simp [unfinished, List.filter_eq_self]

theorem limit_pos (c : Setup) : 0 < c.limit := by
  rw [Setup.limit]
  omega

/-! ## How many jobs run -/

/-- What a move does to the pool while a session is on: it keeps the places, or gives one free
whose job has ended, or fills one. -/
inductive Placing (c : Setup) (jobs : List Running) : Move → List Running → Prop where
  | keep {m : Move} {jobs' : List Running} (hm : m ≠ .consumer)
      (h : jobs'.map (·.tag) = jobs.map (·.tag)) : Placing c jobs m jobs'
  | free {as bs : List Running} {r : Running} (h : jobs = as ++ r :: bs)
      (hr : r.stage.isOver = true) : Placing c jobs .consumer (as ++ bs)
  | fill (delivery : List UInt8 × Nat) (hl : jobs.length < c.limit) :
      Placing c jobs .consumer (jobs ++ [beginning delivery])

theorem Placing.length_le {jobs jobs' : List Running} {m : Move} (h : Placing c jobs m jobs')
    (hl : jobs.length ≤ c.limit) : jobs'.length ≤ c.limit := by
  cases h with
  | keep _ he =>
      have hlen := congrArg List.length he
      rw [List.length_map, List.length_map] at hlen
      rwa [hlen]
  | free he hr =>
      rw [he, List.length_append, List.length_cons] at hl
      rw [List.length_append]
      omega
  | fill delivery hl =>
      rw [List.length_append, List.length_singleton]
      exact hl

theorem Transition.placing {m : Move} (h : Transition c s m t)
    (hp : t.phase.state = .consuming) :
    Placing c s.jobs m t.jobs ∨ s.phase.state ≠ .consuming ∧ t.jobs = [] := by
  cases h with
  | input i =>
      rw [(input_session i).2.2]
      exact Or.inl (.keep (by simp) rfl)
  | begin | stop | retry => simp [Phase.state] at hp
  | attempt => simp [Phase.state] at hp
  | connect hc => exact Or.inr ⟨by simp [hc, Phase.state], by simp [System.jobs]⟩
  | fail | finish => simp [disconnect, Phase.state] at hp
  | leave hc _ _ hr => exact Or.inl (.free (jobs_of_consuming hc) hr)
  | @take jobs tag payload rest hc _ _ hl =>
      rw [jobs_of_consuming hc]
      exact Or.inl (.fill (payload, tag) hl)
  | work hc =>
      rw [jobs_of_consuming hc]
      exact Or.inl (.keep (by simp) (by simp [System.jobs, worked]))
  | wait => exact Or.inl (.keep (by simp) rfl)

theorem jobs_eq_nil_of_state (hp : s.phase.state ≠ .consuming) : s.jobs = [] := by
  unfold System.jobs
  split <;> rename_i hj
  · rw [hj] at hp
    exact absurd rfl hp
  · rfl

/-- The pool never holds more jobs than it may. -/
theorem jobs_length_le {ms : List Move} (h : System.run? c {} ms = some s) :
    s.jobs.length ≤ c.limit := by
  refine run?_induction (P := fun _ s => s.jobs.length ≤ c.limit) (Nat.zero_le _) ?_ h
  intro ms m t u _ ih hm
  by_cases hp : u.phase.state = .consuming
  · rcases hm.placing hp with hplacing | ⟨-, hnil⟩
    · exact hplacing.length_le ih
    · rw [hnil]
      exact Nat.zero_le _
  · rw [jobs_eq_nil_of_state hp]
    exact Nat.zero_le _

/-! ## Moves of the consumer in a row -/

theorem consumerStep?_of_over {as bs : List Running} {r : Running}
    (hp : s.phase = .consuming (as ++ r :: bs)) (hc : s.isCancelled = false)
    (ha : ∀ a ∈ as, a.stage.isOver = false) (hr : r.stage.isOver = true) :
    s.consumerStep? c = some { s with phase := .consuming (as ++ bs) } := by
  have hany : (as ++ r :: bs).any (·.stage.isOver) = true :=
    List.any_eq_true.mpr ⟨r, by simp, hr⟩
  have herase : (as ++ r :: bs).eraseP (·.stage.isOver) = as ++ bs := by
    rw [List.eraseP_append_right _ (by simpa using ha)]
    simp [hr]
  simp [System.consumerStep?, hp, hc, hany, herase]

/-- All places of jobs that have ended are given free, before anything else is done. -/
theorem run?_leave {jobs : List Running} (hp : s.phase = .consuming jobs)
    (hc : s.isCancelled = false) :
    s.run? c (List.replicate (overCount jobs) .consumer) =
      some { s with phase := .consuming (unfinished jobs) } := by
  induction hk : overCount jobs generalizing s jobs with
  | zero =>
      have hnone : unfinished jobs = jobs := by
        rw [unfinished_eq_self]
        simpa [overCount, List.countP_eq_zero] using hk
      rw [hnone, ← hp]
      rfl
  | succ k ih =>
      have hany : jobs.any (·.stage.isOver) = true := by
        rw [List.any_eq_true, ← List.countP_pos_iff, ← overCount, hk]
        exact Nat.succ_pos k
      obtain ⟨as, r, bs, rfl, ha, hr, -⟩ := eq_append_of_any_isOver hany
      have hcount : overCount (as ++ bs) = k := by
        simp only [overCount, List.countP_append, List.countP_cons, hr, if_true] at hk ⊢
        omega
      have hrest : unfinished (as ++ r :: bs) = unfinished (as ++ bs) := by
        simp [unfinished, hr]
      have hstep : s.step? c .consumer = some { s with phase := .consuming (as ++ bs) } :=
        consumerStep?_of_over hp hc ha hr
      have hrun := ih (s := { s with phase := .consuming (as ++ bs) }) rfl hc hcount
      rw [hrest, List.replicate_succ]
      simpa [System.run?, hstep] using hrun

theorem consumerStep?_of_delivery {jobs : List Running} {delivery : List UInt8 × Nat}
    {rest : List Inbound} (hp : s.phase = .consuming jobs) (hc : s.isCancelled = false)
    (hj : ∀ r ∈ jobs, r.stage.isOver = false) (hl : jobs.length < c.limit)
    (hi : s.inbound = inboundOf delivery :: rest) :
    s.consumerStep? c =
      some { { s with inbound := rest }.note (.taken s.session (inboundOf delivery)) with
        phase := .consuming (jobs ++ [beginning delivery]) } := by
  have hany : jobs.any (·.stage.isOver) = false := by simpa using hj
  simp [System.consumerStep?, System.take?, hp, hc, hany, hl, hi, inboundOf, beginning]

/-- As many deliveries are taken in a row as there are free places. -/
theorem exists_run?_take {jobs : List Running} {ds : List (List UInt8 × Nat)}
    {rest : List Inbound} (hp : s.phase = .consuming jobs) (hc : s.isCancelled = false)
    (hj : ∀ r ∈ jobs, r.stage.isOver = false) (hl : jobs.length + ds.length ≤ c.limit)
    (hi : s.inbound = ds.map inboundOf ++ rest) :
    ∃ t, s.run? c (List.replicate ds.length .consumer) = some t ∧
      t.phase = .consuming (jobs ++ ds.map beginning) ∧ t.inbound = rest ∧
      events t.log = events s.log ++ ds.map fun d => .taken s.session (inboundOf d) := by
  induction ds generalizing s jobs with
  | nil => exact ⟨s, rfl, by simpa using hp, by simpa using hi, by simp⟩
  | cons d ds ih =>
      rw [List.length_cons] at hl
      rw [List.map_cons, List.cons_append] at hi
      have hi : s.inbound = inboundOf d :: (ds.map inboundOf ++ rest) := hi
      have hstep := consumerStep?_of_delivery (c := c) hp hc hj (by omega) hi
      have hnew : ∀ r ∈ jobs ++ [beginning d], r.stage.isOver = false := by
        intro r hr
        rcases List.mem_append.mp hr with hr | hr
        · exact hj r hr
        · rw [List.mem_singleton.mp hr]
          rfl
      have hroom : (jobs ++ [beginning d]).length + ds.length ≤ c.limit := by
        rw [List.length_append, List.length_singleton]
        omega
      obtain ⟨t, hrun, hphase, hinbound, hlog⟩ := ih (s := { { s with
        inbound := ds.map inboundOf ++ rest }.note (.taken s.session (inboundOf d)) with
        phase := .consuming (jobs ++ [beginning d]) }) rfl hc hnew hroom rfl
      refine ⟨t, ?_, by simpa using hphase, hinbound, ?_⟩
      · rw [List.length_cons, List.replicate_succ]
        have hstep : s.step? c .consumer = some _ := hstep
        simpa [System.run?, hstep] using hrun
      · rw [hlog]
        simp

/-! ## The consumer at rest -/

/-- In a session, the consumer is at rest exactly if no job of the pool has ended, and nothing is
left to take or no place is free. -/
theorem consumerStep?_eq_none_iff {jobs : List Running} (hp : s.phase = .consuming jobs)
    (hc : s.isCancelled = false) :
    s.consumerStep? c = none ↔
      unfinished jobs = jobs ∧ (s.inbound = [] ∨ c.limit ≤ jobs.length) := by
  constructor
  · intro h
    obtain ⟨ho, hfull⟩ := consumerStep?_eq_none_of_consuming hp hc h
    exact ⟨unfinished_eq_self.mpr ho, hfull⟩
  · rintro ⟨ho, hfull⟩
    have hany : jobs.any (·.stage.isOver) = false := by
      simpa using unfinished_eq_self.mp ho
    rcases hfull with hi | hl
    · simp [System.consumerStep?, System.take?, hp, hc, hany, hi]
    · simp [System.consumerStep?, hp, hc, hany, Nat.not_lt.mpr hl]

/-! ## Places -/

/-- The delivery that an event takes in a session. -/
def Event.takenIn? (session : Nat) : Event → Option Nat
  | .taken n (.delivery tag _) => if n = session then some tag else none
  | _ => none

/-- The deliveries that are taken in a session. -/
def takenTags (session : Nat) (es : List Event) : List Nat :=
  es.filterMap (Event.takenIn? session)

theorem Event.takenIn?_eq_some {session tag : Nat} {e : Event} :
    e.takenIn? session = some tag ↔ ∃ payload, e = .taken session (.delivery tag payload) := by
  constructor
  · intro h
    unfold takenIn? at h
    split at h
    · rw [Option.ite_none_right_eq_some] at h
      obtain ⟨rfl, he⟩ := h
      cases he
      exact ⟨_, rfl⟩
    · cases h
  · rintro ⟨payload, rfl⟩
    simp [takenIn?]

theorem mem_takenTags {session tag : Nat} {es : List Event} :
    tag ∈ takenTags session es ↔ ∃ payload, .taken session (.delivery tag payload) ∈ es := by
  simp only [takenTags, List.mem_filterMap, Event.takenIn?_eq_some]
  constructor
  · rintro ⟨e, he, payload, rfl⟩
    exact ⟨payload, he⟩
  · rintro ⟨payload, he⟩
    exact ⟨_, he, payload, rfl⟩

variable {fetch : String → Except FetchError String}

/-- No delivery is taken twice. -/
theorem Chronicle.takenTags_nodup (h : Chronicle c fetch s) (session : Nat) :
    (takenTags session (events s.log)).Nodup := by
  rw [List.nodup_iff_count_le_one]
  intro tag
  have hle : (history s.log tag).countP Event.isTaking ≤ 1 := by
    rcases h.eq_nil_or_story tag with hnil | ⟨n, payload, stage, -, hstory⟩
    · simp [hnil]
    · exact hstory.countP_isTaking_le
  refine Nat.le_trans ?_ hle
  rw [takenTags, List.count_filterMap, history, List.countP_filter]
  apply List.countP_mono_left
  intro e _ he
  obtain ⟨payload, rfl⟩ := Event.takenIn?_eq_some.mp (beq_iff_eq.mp he)
  simp [Event.isTaking, Event.delivery?]

/-- What a job is about was taken over the present session. -/
theorem Chronicle.tag_mem_takenTags (h : Chronicle c fetch s) {r : Running} (hr : r ∈ s.jobs) :
    r.tag ∈ takenTags s.session (events s.log) :=
  mem_takenTags.mpr ⟨_, (mem_history.mp (h.running r hr).taken_mem).1⟩

/-- A delivery that was taken over the present session, and that no job is about any more, was
settled once, or its page crashed. -/
theorem Chronicle.left_of_taken (h : Chronicle c fetch s) {jobs : List Running}
    (hp : s.phase = .consuming jobs) {tag : Nat} {payload : List UInt8}
    (hm : .taken s.session (.delivery tag payload) ∈ events s.log)
    (hfree : tag ∉ jobs.map (·.tag)) :
    c.CrashesOn payload ∨ (history s.log tag).countP Event.isSettlement = 1 := by
  obtain ⟨stage, hstory, -, hlast⟩ := h.story_of_taken hp hm
  have ho : stage.isOver = true := by
    refine hlast.resolve_right ?_
    rintro ⟨r, hr, rfl⟩
    exact hfree (List.mem_map_of_mem hr)
  rcases hstory.filter_isSettlement_of_isOver ho with ⟨hcrash, -⟩ | ⟨-, how, isOk, he⟩
  · exact Or.inl hcrash
  · right
    rw [List.countP_eq_length_filter, he]
    rfl

/-- While a session lasts, each delivery that was taken over it holds one place, or has given one
free: then it was settled once, or its page crashed. -/
theorem exists_left_of_run? {ms : List Move} (h : System.run? c {} ms = some s)
    {jobs : List Running} (hp : s.phase = .consuming jobs) :
    ∃ left : List Nat,
      (takenTags s.session (events s.log)).Perm (left ++ jobs.map (·.tag)) ∧
      ∀ tag ∈ left, ∃ payload, .taken s.session (.delivery tag payload) ∈ events s.log ∧
        (c.CrashesOn payload ∨ (history s.log tag).countP Event.isSettlement = 1) := by
  obtain ⟨fetch, hf⟩ := c.exists_isAnsweredBy
  have hchron := chronicle_of_run? hf h
  have hjobs : s.jobs = jobs := jobs_of_consuming hp
  have hnodup := hchron.takenTags_nodup s.session
  have hsub : (jobs.map (·.tag)).Subperm (takenTags s.session (events s.log)) := by
    rw [← hjobs]
    apply hchron.nodup.subperm
    intro tag hm
    obtain ⟨r, hr, rfl⟩ := List.mem_map.mp hm
    exact hchron.tag_mem_takenTags hr
  refine ⟨(takenTags s.session (events s.log)).diff (jobs.map (·.tag)), ?_, ?_⟩
  · have hperm := List.subperm_append_diff_self_of_count_le (List.subperm_ext_iff.mp hsub)
    exact hperm.symm.trans List.perm_append_comm
  · intro tag hm
    obtain ⟨hm, hfree⟩ := hnodup.mem_sdiff_iff.mp hm
    obtain ⟨payload, htaken⟩ := mem_takenTags.mp hm
    exact ⟨payload, htaken, hchron.left_of_taken hp htaken hfree⟩

/-- The pool never holds more jobs than it may, and every place is accounted for: a move of a job
keeps its place, even its last, and the consumer gives the place of each job that has ended free,
one at a time and before all else. When the consumer is at rest, the pool is full of jobs that
have not ended, or nothing is left to take; and it can always wait for a job or for an item. -/
theorem pool_is_bounded_and_never_starves {ms : List Move}
    (h : System.run? c {} ms = some s) :
    s.jobs.length ≤ c.limit ∧
      ∀ jobs, s.phase = .consuming jobs →
        (∀ m t, s.step? c m = some t → t.phase.state = .consuming → Placing c jobs m t.jobs) ∧
        (∃ left : List Nat,
          (takenTags s.session (events s.log)).Perm (left ++ jobs.map (·.tag)) ∧
          ∀ tag ∈ left, ∃ payload, .taken s.session (.delivery tag payload) ∈ events s.log ∧
            (c.CrashesOn payload ∨ (history s.log tag).countP Event.isSettlement = 1)) ∧
        (s.isCancelled = false →
          s.run? c (List.replicate (overCount jobs) .consumer) =
            some { s with phase := .consuming (unfinished jobs) } ∧
          (s.step? c .consumer = none ↔
            unfinished jobs = jobs ∧ (s.inbound = [] ∨ jobs.length = c.limit)) ∧
          (s.step? c .consumer = none → (unfinished jobs).length < c.limit → s.inbound = []) ∧
          (jobs ≠ [] ∨ jobs.length < c.limit)) := by
  have hle := jobs_length_le h
  refine ⟨hle, ?_⟩
  intro jobs hp
  rw [jobs_of_consuming hp] at hle
  refine ⟨?_, exists_left_of_run? h hp, ?_⟩
  · intro m t hm ht
    rcases (transition_of_step? hm).placing ht with hplacing | ⟨hnot, -⟩
    · rwa [jobs_of_consuming hp] at hplacing
    · exact absurd (state_of_consuming hp) hnot
  · intro hc
    have hrest : s.step? c .consumer = none ↔
        unfinished jobs = jobs ∧ (s.inbound = [] ∨ jobs.length = c.limit) := by
      have heq : c.limit ≤ jobs.length ↔ jobs.length = c.limit := by omega
      rw [← heq]
      exact consumerStep?_eq_none_iff hp hc
    refine ⟨run?_leave hp hc, hrest, ?_, ?_⟩
    · intro hnone hfew
      obtain ⟨ho, hfull⟩ := hrest.mp hnone
      rw [ho] at hfew
      exact hfull.resolve_right (Nat.ne_of_lt hfew)
    · cases jobs with
      | nil => exact Or.inr (limit_pos c)
      | cons r rs => exact Or.inl (List.cons_ne_nil r rs)

/-! ### A run with one place -/

/-- A system with one place, though none was asked for. -/
def narrowSetup : Setup :=
  { Setup.uniform .crash with maxInFlight := 0 }

/-- Two jobs are sent, and the first one crashes. -/
def narrowMoves : List Move :=
  [.input .start, .consumer, .consumer, .consumer,
    .input (.deliver (Job.encode ⟨"a", "http://[::1]"⟩)), .input (.deliver []), .consumer,
    .job 1, .job 1]

theorem isSome_run?_narrowMoves : (System.run? narrowSetup {} narrowMoves).isSome = true := by
  decide +kernel

/-- The system when the first of two jobs has crashed. -/
def narrowSystem : System := (System.run? _ _ _).get isSome_run?_narrowMoves

theorem run?_narrow : System.run? narrowSetup {} narrowMoves = some narrowSystem :=
  (Option.some_get _).symm

/-- The only place is given free by a job that has crashed, and the consumer does not rest. -/
theorem pool_is_bounded_and_never_starves_of_crash :
    System.run? narrowSetup {} narrowMoves = some narrowSystem ∧
      narrowSystem.jobs.length ≤ 1 ∧ overCount narrowSystem.jobs = 1 ∧
      narrowSystem.run? narrowSetup [.consumer] =
        some { narrowSystem with phase := .consuming [] } ∧
      narrowSystem.step? narrowSetup .consumer ≠ none := by
  have hp : narrowSystem.phase = .consuming narrowSystem.jobs := by decide +kernel
  have hc : narrowSystem.isCancelled = false := by decide +kernel
  have ho : overCount narrowSystem.jobs = 1 := by decide +kernel
  have hu : unfinished narrowSystem.jobs = [] := by decide +kernel
  have hj : narrowSystem.jobs ≠ [] := by decide +kernel
  obtain ⟨hle, hall⟩ := pool_is_bounded_and_never_starves run?_narrow
  obtain ⟨-, -, hlive⟩ := hall _ hp
  obtain ⟨hrun, hrest, -, -⟩ := hlive hc
  rw [ho, hu] at hrun
  refine ⟨run?_narrow, hle, ho, hrun, ?_⟩
  intro hnone
  have hsame := (hrest.mp hnone).1
  rw [hu] at hsame
  exact hj hsame.symm

end LinkPreview.Queue
