import LinkPreview.Proofs.Queue.Completion
import LinkPreview.Proofs.Queue.Settlements

/-!
# What jobs fetch and publish

A job fetches a page with its first move, and only if its delivery is a job whose address may be
previewed. So what was fetched for a delivery is known from its payload and from whether its job
has moved at all. The result that is published for it is that of a visit to the same address, and
there is a run that publishes it unless fetching the page crashes.

## Implementation notes

A job that has moved has a story beyond its beginning (`Begun`). Only moves of a job add to the
history of its delivery, after it was taken, so the stories of the other deliveries stay.
-/

namespace LinkPreview.Queue

open LinkPreview.Queue.System

variable {c : Setup} {fetch : String → Except FetchError String} {s t : System}

/-! ## Histories and moves -/

/-- What a move does to the history of a delivery. -/
inductive Extends (s t : System) (m : Move) (tag : Nat) : Prop where
  | same (h : history t.log tag = history s.log tag)
  | taken {payload : List UInt8} {rest : List Inbound}
      (hi : s.inbound = .delivery tag payload :: rest)
      (h : history t.log tag =
        history s.log tag ++ [.taken s.session (.delivery tag payload)])
  | worked (hm : m = .job tag)

theorem Transition.extends {m : Move} (h : Transition c s m t) (tag : Nat) :
    Extends s t m tag := by
  cases h with
  | input i => exact .same (by rw [(input_items i).2.1])
  | begin | stop | retry | connect => exact .same (history_enter _ _)
  | attempt => exact .same (by simp [history_cons, Event.delivery?])
  | fail =>
      refine .same ((history_enter _ _).trans ?_)
      simp [history_cons, Event.delivery?]
  | leave | wait => exact .same rfl
  | @take jobs other payload rest hp hc hj hl hi =>
      by_cases he : other = tag
      · subst he
        refine .taken hi ?_
        simp [history_cons, Event.delivery?]
      · refine .same ?_
        simp [history_cons, Event.delivery?, he]
  | finish _ _ _ _ _ he =>
      refine .same ((history_enter _ _).trans ?_)
      rcases he with rfl | rfl <;> simp [history_cons, Event.delivery?]
  | @work as bs r stage es released hp ha hw =>
      by_cases he : tag = r.tag
      · exact .worked (by rw [he])
      · exact .same (hw.history_of_ne he)

theorem arrival_ne_begun (job : Job) (content : Page.Content) : arrival job content ≠ .begun := by
  cases content <;> nofun

/-- A job that moves leaves its beginning behind. -/
theorem Advance.stage_ne_begun {before : List Running} {r : Running} {stage : Stage}
    {es : List Event} {released : List String} (h : Advance c s before r stage es released) :
    stage ≠ .begun := by
  cases h with
  | arrive | release => exact arrival_ne_begun _ _
  | reject | fetch | refuse | extract | publish | fail | ack | requeue => nofun

/-- What was seen of a delivery, by whether its job has moved. -/
structure Begun (c : Setup) (fetch : String → Except FetchError String) (ms : List Move)
    (s : System) (tag : Nat) : Prop where
  moved : .job tag ∈ ms → ∃ session payload stage,
    Story c fetch session tag payload stage (history s.log tag) ∧ stage ≠ .begun
  unmoved : .job tag ∉ ms → (history s.log tag).filterMap Event.fetched? = []

theorem begun_of_job (hf : c.IsAnsweredBy fetch) (h : Chronicle c fetch s) {tag : Nat}
    (hm : Transition c s (.job tag) t) (ms : List Move) :
    Begun c fetch (ms ++ [.job tag]) t tag := by
  cases hm with
  | @work as bs r stage es released hp ha hw =>
      have hr : r ∈ s.jobs := by
        rw [jobs_of_consuming hp]
        simp
      have hstory := (h.running r hr).advance hf hw
      rw [← hw.history_eq] at hstory
      refine ⟨fun _ => ⟨_, _, stage, hstory, hw.stage_ne_begun⟩, ?_⟩
      intro hn
      exact absurd (List.mem_append_right ms List.mem_cons_self) hn

theorem Begun.step (hf : c.IsAnsweredBy fetch) (h : Chronicle c fetch s) (hn : IsNumberedOnce s)
    {ms : List Move} {tag : Nat} (hb : Begun c fetch ms s tag) {m : Move}
    (hm : Transition c s m t) : Begun c fetch (ms ++ [m]) t tag := by
  by_cases hjob : m = .job tag
  · subst hjob
    exact begun_of_job hf h hm ms
  · have hmem : .job tag ∈ ms ++ [m] ↔ .job tag ∈ ms := by
      simp [Ne.symm hjob]
    constructor
    · intro hmoved
      obtain ⟨session, payload, stage, hstory, hstage⟩ := hb.moved (hmem.mp hmoved)
      cases hm.extends tag with
      | same he => exact ⟨session, payload, stage, by rw [he]; exact hstory, hstage⟩
      | taken hi =>
          -- The number of a delivery that is yet to be taken is that of no other one.
          obtain ⟨rest, he⟩ := hstory.exists_eq_cons
          rw [h.history_of_inbound hn (hi ▸ List.mem_cons_self)] at he
          cases he
      | worked he => exact absurd he hjob
    · intro hunmoved
      have hnil := hb.unmoved fun hin => hunmoved (hmem.mpr hin)
      cases hm.extends tag with
      | same he => rw [he, hnil]
      | taken _ he =>
          rw [he, List.filterMap_append, hnil]
          rfl
      | worked he => exact absurd he hjob

theorem begun_of_run? (hf : c.IsAnsweredBy fetch) {ms : List Move}
    (h : System.run? c {} ms = some s) (tag : Nat) : Begun c fetch ms s tag := by
  refine run?_induction (P := fun ms s => Begun c fetch ms s tag) ?_ ?_ h
  · exact ⟨nofun, fun _ => rfl⟩
  · intro ms m t u hrun ih hm
    exact ih.step hf (chronicle_of_run? hf hrun) (isNumberedOnce_of_run? hrun) hm

/-! ## What is fetched -/

/-- The page that a delivery makes a job fetch. -/
def pageOf? (payload : List UInt8) : Option String :=
  (Job.decode? payload).bind fun job =>
    if Url.isPreviewable job.url then some job.url else none

theorem pageOf?_eq_some {payload : List UInt8} {url : String} :
    pageOf? payload = some url ↔
      ∃ id, Job.decode? payload = some ⟨id, url⟩ ∧ Url.isPreviewable url = true := by
  simp only [pageOf?, Option.bind_eq_some_iff, Option.ite_none_right_eq_some, Option.some.injEq]
  constructor
  · rintro ⟨⟨id, url⟩, hd, hu, rfl⟩
    exact ⟨id, hd, hu⟩
  · rintro ⟨id, hd, hu⟩
    exact ⟨⟨id, url⟩, hd, hu, rfl⟩

theorem visit_fetched_of_decode? {payload : List UInt8} {job : Job}
    (hd : Job.decode? payload = some job) :
    (visit fetch job.url).fetched = (pageOf? payload).toList := by
  rw [pageOf?, hd, Option.bind_some, visit]
  split <;> rfl

/-- What is fetched in the story of a delivery. -/
theorem Story.filterMap_fetched? {session tag : Nat} {payload : List UInt8} {stage : Stage}
    {es : List Event} (h : Story c fetch session tag payload stage es) (hs : stage ≠ .begun) :
    es.filterMap Event.fetched? = (pageOf? payload).toList := by
  cases h with
  | begun => exact absurd rfl hs
  | fetching hd | extracting hd | ready hd | crashed hd =>
      rw [filterMap_fetched?_opening, visit_fetched_of_decode? hd]
  | published hd | refused hd | acked _ hd | requeued _ hd =>
      rw [List.filterMap_append, filterMap_fetched?_opening, visit_fetched_of_decode? hd]
      exact List.append_nil _
  | rejected _ hd =>
      rw [pageOf?, hd]
      rfl

/-- What is fetched for a delivery that was taken: the page that it makes a job fetch, once, when
the job has moved, and nothing before. -/
theorem fetched_of_taken {ms : List Move} (h : System.run? c {} ms = some s) {session tag : Nat}
    {payload : List UInt8} (hm : .taken session (.delivery tag payload) ∈ events s.log) :
    (history s.log tag).filterMap Event.fetched? =
      if .job tag ∈ ms then (pageOf? payload).toList else [] := by
  obtain ⟨fetch, hf⟩ := c.exists_isAnsweredBy
  have hbegun := begun_of_run? hf h tag
  split
  · rename_i hmoved
    obtain ⟨n, p, stage, hstory, hstage⟩ := hbegun.moved hmoved
    obtain ⟨-, rfl⟩ := hstory.eq_of_taken_mem (mem_history.mpr ⟨hm, rfl⟩)
    exact hstory.filterMap_fetched? hstage
  · rename_i hunmoved
    exact hbegun.unmoved hunmoved

/-- A page that was fetched is that of a delivery that was taken. -/
theorem exists_taken_of_fetched {ms : List Move} (h : System.run? c {} ms = some s)
    {session tag : Nat} {url : String} (hm : .fetched session tag url ∈ events s.log) :
    ∃ n payload, .taken n (.delivery tag payload) ∈ events s.log ∧
      (payload, tag) ∈ (payloads ms).zipIdx 1 ∧ pageOf? payload = some url := by
  obtain ⟨fetch, hf⟩ := c.exists_isAnsweredBy
  have hhistory : .fetched session tag url ∈ history s.log tag := mem_history.mpr ⟨hm, rfl⟩
  obtain ⟨n, payload, stage, -, hstory⟩ :=
    (chronicle_of_run? hf h).exists_story (List.ne_nil_of_mem hhistory)
  have htaken : .taken n (.delivery tag payload) ∈ events s.log :=
    (mem_history.mp hstory.taken_mem).1
  refine ⟨n, payload, htaken, mem_payloads_of_taken h htaken, ?_⟩
  have hfetched : url ∈ (history s.log tag).filterMap Event.fetched? :=
    List.mem_filterMap.mpr ⟨_, hhistory, rfl⟩
  rw [fetched_of_taken h htaken] at hfetched
  split at hfetched
  · simpa using hfetched
  · cases hfetched

/-! ## What is published -/

/-- A result that was published is that of a job that was sent, and fetching its page does not
crash. -/
theorem exists_job_of_published (hf : c.IsAnsweredBy fetch) {ms : List Move}
    (h : System.run? c {} ms = some s) {session tag : Nat} {queue : String} {body : List UInt8}
    (hm : .published session tag queue body ∈ events s.log) :
    ∃ payload job, (payload, tag) ∈ (payloads ms).zipIdx 1 ∧
      Job.decode? payload = some job ∧ ¬ c.CrashesAt job.url ∧ queue = c.resultQueue ∧
      body = JobResult.encode ⟨job.id, (visit fetch job.url).outcome.metadata, c.stamp⟩ ∧
      (history s.log tag).filterMap Event.fetched? = (visit fetch job.url).fetched := by
  have hhistory : .published session tag queue body ∈ history s.log tag :=
    mem_history.mpr ⟨hm, rfl⟩
  obtain ⟨n, payload, stage, -, hstory⟩ :=
    (chronicle_of_run? hf h).exists_story (List.ne_nil_of_mem hhistory)
  have hsent := mem_payloads_of_taken h (mem_history.mp hstory.taken_mem).1
  have hresult : ∃ job, Job.decode? payload = some job ∧ ¬ c.CrashesAt job.url ∧
      stage ≠ .begun ∧ .published session tag queue body = publication c fetch n tag job := by
    generalize history s.log tag = es at hstory hhistory
    cases hstory with
    | begun | rejected => simp at hhistory
    | fetching | extracting | ready | crashed => simp [opening] at hhistory
    | refused | requeued => simp [opening] at hhistory
    | @published job hd hc | @acked job isOk hd hc =>
        refine ⟨job, hd, hc, Stage.noConfusion, ?_⟩
        simpa [opening, publication] using hhistory
  obtain ⟨job, hd, hc, hstage, hpublication⟩ := hresult
  obtain ⟨-, -, hqueue, hbody⟩ := Event.published.inj hpublication
  refine ⟨payload, job, hsent, hd, hc, hqueue, hbody, ?_⟩
  rw [hstory.filterMap_fetched? hstage, visit_fetched_of_decode? hd]

/-- Unless fetching its page crashes, there is a run that publishes the result of a job. -/
theorem exists_published (hf : c.IsAnsweredBy fetch) {payload : List UInt8} {job : Job}
    (hd : Job.decode? payload = some job) (hc : ¬ c.CrashesAt job.url) :
    ∃ ms s, System.run? c {} ms = some s ∧ payloads ms = [payload] ∧
      publication c fetch s.session 1 job ∈ events s.log := by
  have hsend : System.run? c {} [.input (.deliver payload)] =
      some (System.input {} (.deliver payload)) := rfl
  obtain ⟨ns, s, hdone, hns⟩ := exists_completes (b := true) hsend (by simp [Move.isQuiet])
    (by simp [System.input, events])
  have hpayloads : payloads ([.input (.deliver payload)] ++ ns) = [payload] := by
    rw [payloads_append, hns]
    rfl
  have hu := undisturbed_of_leads ⟨_, hdone.isQuiet, hdone.run⟩ undisturbed_initial
  have hsent : (payload, 1) ∈ (payloads ([.input (.deliver payload)] ++ ns)).zipIdx 1 := by
    rw [hpayloads]
    exact List.mem_singleton_self _
  obtain ⟨stage, hstory, hover⟩ := exists_story_of_isComplete hf hdone.run hu hdone.isComplete hsent
  refine ⟨_, s, hdone.run, hpayloads, ?_⟩
  have hagrees : ∀ e ∈ history s.log 1, e.agreesWith true = true :=
    fun e hm => hdone.agrees e (mem_history.mp hm).1
  have hmem : publication c fetch s.session 1 job ∈ history s.log 1 := by
    generalize history s.log 1 = es at hstory hagrees
    cases hstory with
    | begun | fetching | extracting | ready | published | refused => cases hover
    | rejected _ hnone =>
        rw [hd] at hnone
        cases hnone
    | acked _ hsome =>
        rw [hd] at hsome
        cases hsome
        simp
    | requeued =>
        have hrefused := hagrees (.refused s.session 1) (by simp)
        cases hrefused
    | crashed hsome hcrash =>
        rw [hd] at hsome
        cases hsome
        exact absurd hcrash hc
  exact (mem_history.mp hmem).1

end LinkPreview.Queue
