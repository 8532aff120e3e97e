import Mathlib.Data.List.Nodup
import LinkPreview.Proofs.Queue.Intake

/-!
# Chronicles

What holds of the histories of all deliveries at once, in every state that a run can come to:
each job that runs is at the stage that the history of its delivery tells, in the present
session; and a delivery that no job is about was not taken yet, or its job has ended, either
by itself or with an earlier session. `Chronicle` is this invariant, and `chronicle_of_run?`
says that it holds of every run.

## Implementation notes

A delivery is new when it is taken, since no two deliveries have the same number. So its
history is empty before, and a job never carries on the story of another one.
-/

namespace LinkPreview.Queue

open LinkPreview.Queue.System

variable {c : Setup} {fetch : String → Except FetchError String} {s t : System}

/-! ## Events of one job -/

theorem Advance.delivery?_eq {before : List Running} {r : Running} {stage : Stage}
    {es : List Event} {released : List String} (h : Advance c s before r stage es released) :
    ∀ e ∈ es, e.delivery? = some r.tag := by
  cases h <;> simp [Event.delivery?]

theorem Advance.history_eq {before : List Running} {r : Running} {stage : Stage}
    {es : List Event} {released : List String} (h : Advance c s before r stage es released) :
    history (es.map (⟨s.time, ·⟩) ++ s.log) r.tag = history s.log r.tag ++ es.reverse := by
  rw [history, events_append_log, List.filter_append, ← history]
  congr 1
  apply List.filter_eq_self.mpr
  intro e he
  simp [h.delivery?_eq e (List.mem_reverse.mp he)]

theorem Advance.history_of_ne {before : List Running} {r : Running} {stage : Stage}
    {es : List Event} {released : List String} (h : Advance c s before r stage es released)
    {tag : Nat} (ht : tag ≠ r.tag) :
    history (es.map (⟨s.time, ·⟩) ++ s.log) tag = history s.log tag := by
  have hnil : es.reverse.filter (·.delivery? == some tag) = [] := by
    apply List.filter_eq_nil_iff.mpr
    intro e he
    simp [h.delivery?_eq e (List.mem_reverse.mp he), ht.symm]
  rw [history, events_append_log, List.filter_append, hnil, List.append_nil, ← history]

/-- What was taken is in the history of its delivery. -/
theorem mem_takenItems {log : List Entry} {item : Inbound} :
    item ∈ takenItems log ↔ ∃ session, .taken session item ∈ events log := by
  simp only [takenItems, List.mem_filterMap]
  constructor
  · rintro ⟨e, he, hi⟩
    cases e <;> simp only [Event.item?, Option.some.injEq, reduceCtorEq] at hi
    subst hi
    exact ⟨_, he⟩
  · rintro ⟨session, he⟩
    exact ⟨_, he, rfl⟩

theorem mem_history {log : List Entry} {tag : Nat} {e : Event} :
    e ∈ history log tag ↔ e ∈ events log ∧ e.delivery? = some tag := by
  simp [history]

/-! ## The invariant -/

/-- What is known of a delivery that no job is about. -/
inductive Past (c : Setup) (fetch : String → Except FetchError String) (s : System)
    (tag : Nat) : Prop where
  | untaken (h : history s.log tag = [])
  | told {session : Nat} {payload : List UInt8} {stage : Stage} (hn : session ≤ s.session)
      (h : Story c fetch session tag payload stage (history s.log tag))
      (ho : s.phase.state = .consuming → session = s.session → stage.isOver = true)

/-- What is known of all deliveries. -/
structure Chronicle (c : Setup) (fetch : String → Except FetchError String) (s : System) :
    Prop where
  nodup : (s.jobs.map (·.tag)).Nodup
  running : ∀ r ∈ s.jobs, Story c fetch s.session r.tag r.payload r.stage (history s.log r.tag)
  past : ∀ tag ∉ s.jobs.map (·.tag), Past c fetch s tag

/-- A delivery that something was seen of has a story. -/
theorem Chronicle.exists_story (h : Chronicle c fetch s) {tag : Nat}
    (hne : history s.log tag ≠ []) :
    ∃ session payload stage, session ≤ s.session ∧
      Story c fetch session tag payload stage (history s.log tag) := by
  by_cases hm : tag ∈ s.jobs.map (·.tag)
  · obtain ⟨r, hr, rfl⟩ := List.mem_map.mp hm
    exact ⟨_, _, _, Nat.le_refl _, h.running r hr⟩
  · cases h.past tag hm with
    | untaken h => exact absurd h hne
    | told hn h => exact ⟨_, _, _, hn, h⟩

theorem Chronicle.eq_nil_or_story (h : Chronicle c fetch s) (tag : Nat) :
    history s.log tag = [] ∨ ∃ session payload stage, session ≤ s.session ∧
      Story c fetch session tag payload stage (history s.log tag) := by
  by_cases hne : history s.log tag = []
  · exact Or.inl hne
  · exact Or.inr (h.exists_story hne)

/-- A delivery that something was seen of was taken. -/
theorem Chronicle.exists_mem_takenItems (h : Chronicle c fetch s) {tag : Nat}
    (hne : history s.log tag ≠ []) : ∃ payload, .delivery tag payload ∈ takenItems s.log := by
  obtain ⟨session, payload, stage, -, hs⟩ := h.exists_story hne
  exact ⟨payload, mem_takenItems.mpr ⟨session, (mem_history.mp hs.taken_mem).1⟩⟩

/-- While a session lasts, what is known of a delivery that was taken over it: its story has
come to the stage of the job that is about it, and to an end if there is none. -/
theorem Chronicle.story_of_taken (h : Chronicle c fetch s) {jobs : List Running}
    (hp : s.phase = .consuming jobs) {tag : Nat} {payload : List UInt8}
    (hm : .taken s.session (.delivery tag payload) ∈ events s.log) :
    ∃ stage, Story c fetch s.session tag payload stage (history s.log tag) ∧
      (∀ r ∈ jobs, r.tag = tag → r.payload = payload ∧ r.stage = stage) ∧
      (stage.isOver = true ∨ ∃ r ∈ jobs, r.tag = tag) := by
  have hjobs : s.jobs = jobs := jobs_of_consuming hp
  have hh : .taken s.session (.delivery tag payload) ∈ history s.log tag :=
    mem_history.mpr ⟨hm, rfl⟩
  by_cases hr : ∃ r ∈ jobs, r.tag = tag
  · obtain ⟨r, hr, rfl⟩ := hr
    have hstory := h.running r (by rw [hjobs]; exact hr)
    obtain ⟨-, rfl⟩ := hstory.eq_of_taken_mem hh
    refine ⟨r.stage, hstory, ?_, Or.inr ⟨r, hr, rfl⟩⟩
    intro q hq he
    have hnodup := h.nodup
    rw [hjobs] at hnodup
    rw [List.inj_on_of_nodup_map hnodup hq hr he]
    exact ⟨rfl, rfl⟩
  · have hr : ∀ r ∈ jobs, r.tag ≠ tag := fun r hr' he => hr ⟨r, hr', he⟩
    cases h.past tag (by simpa [hjobs] using hr) with
    | untaken h => simp [h] at hh
    | told hn hstory ho =>
        obtain ⟨rfl, rfl⟩ := hstory.eq_of_taken_mem hh
        refine ⟨_, hstory, fun r hm he => absurd he (hr r hm), Or.inl ?_⟩
        exact ho (state_of_consuming hp) rfl

/-! ## Every move keeps it -/

theorem Past.congr {tag : Nat} (h : Past c fetch s tag)
    (hl : history t.log tag = history s.log tag) (hs : t.session = s.session)
    (hp : t.phase.state = .consuming → s.phase.state = .consuming) : Past c fetch t tag := by
  cases h with
  | untaken h => exact .untaken (by rw [hl, h])
  | told hn h ho =>
      rw [← hl] at h
      exact .told (hs ▸ hn) h fun hc he => ho (hp hc) (he.trans hs)

/-- A move that no delivery and no job notices. -/
theorem Chronicle.congr (h : Chronicle c fetch s) (hl : t.log = s.log)
    (hj : t.jobs = s.jobs) (hs : t.session = s.session)
    (hp : t.phase.state = s.phase.state) : Chronicle c fetch t := by
  constructor
  · rw [hj]
    exact h.nodup
  · rw [hj, hs, hl]
    exact h.running
  · intro tag hm
    rw [hj] at hm
    exact (h.past tag hm).congr (by rw [hl]) hs (by rw [hp]; exact id)

/-- A move after which no job runs, outside of a session or in a new one. -/
theorem Chronicle.away (h : Chronicle c fetch s)
    (hl : ∀ tag, history t.log tag = history s.log tag) (hj : t.jobs = [])
    (hs : s.session ≤ t.session) (hp : t.phase.state = .consuming → s.session < t.session) :
    Chronicle c fetch t := by
  constructor
  · simp [hj]
  · simp [hj]
  · intro tag _
    rcases h.eq_nil_or_story tag with hnil | ⟨session, payload, stage, hn, hstory⟩
    · exact .untaken (by rw [hl, hnil])
    · refine .told (Nat.le_trans hn hs) (by rw [hl]; exact hstory) ?_
      intro hc he
      have := hp hc
      omega

/-- A job that is over is joined. -/
theorem Chronicle.leave (h : Chronicle c fetch s) {as bs : List Running} {r : Running}
    (hp : s.phase = .consuming (as ++ r :: bs)) (hr : r.stage.isOver = true) :
    Chronicle c fetch { s with phase := .consuming (as ++ bs) } := by
  have hjobs : s.jobs = as ++ r :: bs := jobs_of_consuming hp
  have hsub : (as ++ bs).Sublist (as ++ r :: bs) :=
    List.Sublist.append_left (List.sublist_cons_self r bs) as
  have hstate := state_of_consuming hp
  constructor
  · have hnodup := h.nodup
    rw [hjobs] at hnodup
    exact hnodup.sublist (hsub.map _)
  · intro q hq
    exact h.running q (by rw [hjobs]; exact hsub.subset hq)
  · intro tag hm
    by_cases htag : tag = r.tag
    · subst htag
      exact .told (Nat.le_refl _) (h.running r (by simp [hjobs])) fun _ _ => hr
    · have hm' : tag ∉ s.jobs.map (·.tag) := by
        simp only [System.jobs, List.map_append, List.mem_append] at hm
        simp [hjobs, htag, not_or.mp hm]
      exact (h.past tag hm').congr rfl rfl fun _ => hstate

/-- A new delivery is taken. -/
theorem Chronicle.take (h : Chronicle c fetch s) {jobs : List Running} {tag : Nat}
    {payload : List UInt8} {rest : List Inbound} (hp : s.phase = .consuming jobs)
    (hnew : history s.log tag = []) (hfree : tag ∉ jobs.map (·.tag)) :
    Chronicle c fetch
      { { s with inbound := rest }.note (.taken s.session (.delivery tag payload)) with
        phase := .consuming (jobs ++ [{ tag := tag, payload := payload }]) } := by
  have hjobs : s.jobs = jobs := jobs_of_consuming hp
  have hother : ∀ other, other ≠ tag →
      history (⟨s.time, .taken s.session (.delivery tag payload)⟩ :: s.log) other =
        history s.log other := by
    intro other hne
    simp [history_cons, Event.delivery?, hne.symm]
  have hstate := state_of_consuming hp
  constructor
  · have hnodup := h.nodup
    rw [hjobs] at hnodup
    simp only [System.jobs, List.map_append, List.map_cons, List.map_nil]
    exact List.nodup_append.mpr ⟨hnodup, List.nodup_singleton _, by simpa using hfree⟩
  · intro r hr
    rcases List.mem_append.mp hr with hr | hr
    · have hne : r.tag ≠ tag := fun he => hfree (he ▸ List.mem_map_of_mem hr)
      have hstory := h.running r (by rw [hjobs]; exact hr)
      rw [← hother _ hne] at hstory
      exact hstory
    · cases List.mem_singleton.mp hr
      have he : history (⟨s.time, .taken s.session (.delivery tag payload)⟩ :: s.log) tag =
          [.taken s.session (.delivery tag payload)] := by
        simp [history_cons, hnew, Event.delivery?]
      simp only [System.log_note, he]
      exact .begun
  · intro other hm
    simp only [System.jobs, List.map_append, List.map_cons, List.map_nil, List.mem_append,
      List.mem_singleton, not_or] at hm
    exact (h.past other (by rw [hjobs]; exact hm.1)).congr (hother _ hm.2) rfl fun _ => hstate

/-- A job moves on. -/
theorem Chronicle.work (hf : c.IsAnsweredBy fetch) (h : Chronicle c fetch s)
    {as bs : List Running} {r : Running} {stage : Stage} {es : List Event}
    {released : List String} (hp : s.phase = .consuming (as ++ r :: bs))
    (hw : Advance c s as r stage es released) :
    Chronicle c fetch (s.worked (as ++ { r with stage := stage } :: bs) es released) := by
  have hjobs : s.jobs = as ++ r :: bs := jobs_of_consuming hp
  have htags : (s.worked (as ++ { r with stage := stage } :: bs) es released).jobs.map (·.tag) =
      s.jobs.map (·.tag) := by
    simp [System.jobs, System.worked, hp]
  have hstate := state_of_consuming hp
  have hnodup : ((as ++ r :: bs).map (·.tag)).Nodup := hjobs ▸ h.nodup
  have hne : ∀ q ∈ as ++ bs, q.tag ≠ r.tag := by
    intro q hq he
    simp only [List.map_append, List.map_cons, List.nodup_middle, List.nodup_cons] at hnodup
    exact hnodup.1 (by rw [← he, ← List.map_append]; exact List.mem_map_of_mem hq)
  constructor
  · rw [htags]
    exact h.nodup
  · intro q hq
    rw [log_worked]
    have hq : q ∈ as ++ bs ∨ q = { r with stage := stage } := by
      simp only [System.jobs, System.worked, List.mem_append, List.mem_cons] at hq
      rcases hq with hq | hq | hq
      · exact Or.inl (List.mem_append.mpr (Or.inl hq))
      · exact Or.inr hq
      · exact Or.inl (List.mem_append.mpr (Or.inr hq))
    rcases hq with hq | rfl
    · rw [hw.history_of_ne (hne q hq)]
      refine h.running q ?_
      rw [hjobs]
      exact (List.Sublist.append_left (List.sublist_cons_self r bs) as).subset hq
    · rw [hw.history_eq]
      exact (h.running r (by simp [hjobs])).advance hf hw
  · intro tag hm
    rw [htags] at hm
    have htag : tag ≠ r.tag := by
      rintro rfl
      exact hm (List.mem_map_of_mem (by simp [hjobs]))
    exact (h.past tag hm).congr (hw.history_of_ne htag) rfl fun _ => hstate

/-- What a broker sends has numbers of its own, each used once. -/
def IsNumberedOnce (s : System) : Prop :=
  ((deliveries (takenItems s.log ++ s.inbound)).map Prod.snd).Nodup

theorem isNumberedOnce_of_run? {ms : List Move} (h : System.run? c {} ms = some s) :
    IsNumberedOnce s := by
  rw [IsNumberedOnce, deliveries_of_run? h, List.zipIdx_map_snd]
  exact List.nodup_range'

/-- Nothing was seen of a delivery that is yet to be taken. -/
theorem Chronicle.history_of_inbound (h : Chronicle c fetch s) (hn : IsNumberedOnce s)
    {tag : Nat} {payload : List UInt8} (hi : .delivery tag payload ∈ s.inbound) :
    history s.log tag = [] := by
  apply Decidable.byContradiction
  intro hne
  obtain ⟨p, hm⟩ := h.exists_mem_takenItems hne
  rw [IsNumberedOnce, deliveries_append, List.map_append, List.nodup_append] at hn
  have ht : tag ∈ (deliveries (takenItems s.log)).map Prod.snd :=
    List.mem_map.mpr ⟨(p, tag), mem_deliveries.mpr hm, rfl⟩
  have hb : tag ∈ (deliveries s.inbound).map Prod.snd :=
    List.mem_map.mpr ⟨(payload, tag), mem_deliveries.mpr hi, rfl⟩
  exact hn.2.2 tag ht tag hb rfl

/-- Every move keeps what is known of all deliveries. -/
theorem Chronicle.step (hf : c.IsAnsweredBy fetch) (h : Chronicle c fetch s)
    (hn : IsNumberedOnce s) {m : Move} (hm : Transition c s m t) : Chronicle c fetch t := by
  cases hm with
  | input i =>
      have hl := (input_items (s := s) i).2.1
      cases i with
      | start =>
          rcases input_start s with ⟨-, he⟩ | ⟨-, he⟩ <;> rw [he]
          · exact h.away (fun _ => rfl) rfl (Nat.le_refl _) (by simp [Phase.state])
          · exact h
      | _ => exact h.congr hl rfl rfl rfl
  | begin | stop | retry =>
      apply h.away
      · intro tag
        rw [history_enter]
      · simp [System.jobs]
      · exact Nat.le_of_eq (session_enter _).symm
      · simp [Phase.state]
  | attempt =>
      apply h.away
      · intro tag
        simp [history_cons, Event.delivery?]
      · rfl
      · exact Nat.le_refl _
      · simp [Phase.state]
  | connect =>
      apply h.away
      · intro tag
        rw [history_enter]
      · simp [System.jobs]
      · simp
      · simp
  | fail =>
      apply h.away
      · intro tag
        simp [disconnect, history_cons, Event.delivery?]
      · simp [System.jobs, disconnect]
      · simp [disconnect]
      · simp [disconnect, Phase.state]
  | leave hp _ _ hr => exact h.leave hp hr
  | take hp _ _ _ hi =>
      have hnew := h.history_of_inbound hn (hi ▸ List.mem_cons_self)
      refine h.take hp hnew ?_
      intro ht
      obtain ⟨r, hr, rfl⟩ := List.mem_map.mp ht
      obtain ⟨rest, he⟩ := (h.running r (by rw [jobs_of_consuming hp]; exact hr)).exists_eq_cons
      rw [hnew] at he
      cases he
  | finish hp _ _ _ _ he =>
      apply h.away
      · intro tag
        rcases he with rfl | rfl <;> simp [disconnect, history_cons, Event.delivery?]
      · simp [System.jobs, disconnect]
      · simp [disconnect]
      · simp [disconnect, Phase.state]
  | work hp _ hw => exact h.work hf hp hw
  | wait => exact h.congr rfl rfl rfl rfl

/-- What is known of all deliveries holds of every run. -/
theorem chronicle_of_run? (hf : c.IsAnsweredBy fetch) {ms : List Move}
    (h : System.run? c {} ms = some t) : Chronicle c fetch t := by
  refine run?_induction (P := fun _ t => Chronicle c fetch t) ?_ ?_ h
  · exact ⟨by simp [System.jobs], by simp [System.jobs], fun tag _ => .untaken rfl⟩
  · intro ms m t u hrun ih hm
    exact ih.step hf (isNumberedOnce_of_run? hrun) hm

end LinkPreview.Queue
