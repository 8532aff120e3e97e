import Mathlib.Data.List.Perm.Subperm
import LinkPreview.Proofs.Decoding
import LinkPreview.Proofs.Queue.Outcomes

/-!
# Results that come back as jobs

A result and a preview hold metadata, so either is read as metadata; but neither has the names that
another kind of message requires. So a result that comes back over the job queue, as it does if the
two queues are one, is no job: it is dropped with the first move that is made for it (`IsDropped`).
Nothing is published for it, and the results of a run are no more than the jobs that were sent.
-/

namespace LinkPreview

open Json

/-! ## Kinds of messages -/

namespace Json

variable {members : List (String × Json)} {names : List String} {values : List (Option Json)}

theorem member?_of_notMem {name : String} (h : name ∉ members.map Prod.fst) :
    member? members name = some none := by
  have hnil : members.filter (·.1 == name) = [] := by
    rw [List.filter_eq_nil_iff]
    intro m hm he
    exact h (List.mem_map.mpr ⟨m, hm, beq_iff_eq.mp he⟩)
  rw [member?, hnil]

/-- Under a name that an object lacks, nothing is found. -/
theorem forall₂_of_values? (h : (ofMembers members).values? names = some values) :
    List.Forall₂ (fun name value => name ∉ members.map Prod.fst → value = none) names values := by
  simp only [ofMembers, values?, namedMembers?_written, Option.bind_eq_bind, Option.bind_some,
    mapM_eq_some_iff] at h
  refine h.imp fun name value hvalue hname => ?_
  rw [member?_of_notMem hname, Option.some.injEq] at hvalue
  exact hvalue.symm

end Json

theorem Job.ofJson?_of_notMem {members : List (String × Json)}
    (h : "originalUrl" ∉ members.map Prod.fst) : ofJson? (ofMembers members) = none := by
  rw [Option.eq_none_iff_forall_ne_some]
  intro job hjob
  simp only [ofJson?, Option.bind_eq_bind, Option.bind_eq_some_iff] at hjob
  obtain ⟨values, hvalues, hjob⟩ := hjob
  split at hjob
  · cases forall₂_of_values? hvalues with
    | cons _ htail =>
        cases htail with
        | cons hurl _ =>
            rw [hurl h] at hjob
            simp [required?] at hjob
  · cases hjob

namespace Metadata

variable {idName timeName : String} {id : String} {m : Metadata} {time : Moment}

/-- A frame is not read under another name than its own. -/
theorem readFramed?_of_notMem {other otherTime : String}
    (h : other ∉ idName :: (names ++ [timeName])) :
    readFramed? other otherTime (framed idName timeName id m time) = none := by
  rw [Option.eq_none_iff_forall_ne_some]
  intro r hr
  simp only [readFramed?, Option.bind_eq_bind, Option.bind_eq_some_iff] at hr
  obtain ⟨values, hvalues, hr⟩ := hr
  split at hr
  · cases forall₂_of_values? hvalues with
    | cons hid _ =>
        rw [hid h] at hr
        simp [required?] at hr
  · cases hr

theorem decode?_framed (hn : (idName :: (names ++ [timeName])).Nodup) :
    decode? (framed idName timeName id m time).write = some m := by
  rw [decode?, read?_framed, Option.bind_eq_bind, Option.bind_some, ofJson?,
    values?_names_framed hn]
  exact ofValues?_ofOptionalText m

theorem decode?_job_framed (h : "originalUrl" ∉ idName :: (names ++ [timeName])) :
    Job.decode? (framed idName timeName id m time).write = none := by
  rw [Job.decode?, read?_framed, Option.bind_eq_bind, Option.bind_some]
  exact Job.ofJson?_of_notMem h

end Metadata

theorem JobResult.decode?_metadata (r : JobResult) :
    Metadata.decode? r.encode = some r.metadata :=
  Metadata.decode?_framed (by decide)

theorem JobResult.decode?_job (r : JobResult) : Job.decode? r.encode = none :=
  Metadata.decode?_job_framed (by decide)

theorem JobResult.decode?_preview (r : JobResult) : Preview.decode? r.encode = none := by
  have hread : Json.read? r.encode = some r.toJson := Metadata.read?_framed _ _ _ _ _
  rw [Preview.decode?, hread, Option.bind_eq_bind, Option.bind_some, Preview.ofJson?_eq]
  exact congrArg _ (Metadata.readFramed?_of_notMem (by decide))

theorem Preview.decode?_metadata (p : Preview) : Metadata.decode? p.encode = some p.metadata :=
  Metadata.decode?_framed (by decide)

theorem Preview.decode?_job (p : Preview) : Job.decode? p.encode = none :=
  Metadata.decode?_job_framed (by decide)

theorem Preview.decode?_result (p : Preview) : JobResult.decode? p.encode = none := by
  have hread : Json.read? p.encode = some p.toJson := Metadata.read?_framed _ _ _ _ _
  rw [JobResult.decode?, hread, Option.bind_eq_bind, Option.bind_some, JobResult.ofJson?_eq]
  exact congrArg _ (Metadata.readFramed?_of_notMem (by decide))

namespace Queue

open LinkPreview.Queue.System

variable {c : Setup} {ms : List Move} {s : System}

/-! ## Deliveries that are no jobs -/

/-- What comes of a delivery that was taken and is no job: it is dropped with the first move that is
made for it, and such a move is made while the session lasts. Nothing else is seen of it. -/
structure IsDropped (c : Setup) (ms : List Move) (s : System) (session tag : Nat)
    (payload : List UInt8) : Prop where
  seen : history s.log tag = [.taken session (.delivery tag payload)] ∨
    ∃ isOk, history s.log tag =
      [.taken session (.delivery tag payload), .settled session tag .reject isOk]
  moved : .job tag ∈ ms → ∃ isOk, .settled session tag .reject isOk ∈ events s.log
  idle : s.isIdle c = true → s.phase.state = .consuming → session = s.session →
    ∃ isOk, .settled session tag .reject isOk ∈ events s.log

/-- The story of a delivery that is no job has two stages. -/
theorem Story.eq_of_not_job {fetch : String → Except FetchError String} {session tag : Nat}
    {payload : List UInt8} {stage : Stage} {es : List Event}
    (h : Story c fetch session tag payload stage es) (hd : Job.decode? payload = none) :
    (stage = .begun ∧ es = [.taken session (.delivery tag payload)]) ∨
      (stage = .finished ∧ ∃ isOk, es =
        [.taken session (.delivery tag payload), .settled session tag .reject isOk]) := by
  cases h with
  | begun => exact .inl ⟨rfl, rfl⟩
  | rejected isOk => exact .inr ⟨rfl, isOk, rfl⟩
  | fetching hsome | extracting hsome | ready hsome | published hsome | refused hsome
  | acked _ hsome | requeued _ hsome | crashed hsome =>
      rw [hd] at hsome
      cases hsome

theorem isSome_stageStep?_of_begun {before : List Running} {r : Running}
    (hr : r.stage = .begun) : (stageStep? c s before r).isSome = true := by
  simp only [stageStep?, hr]
  split
  · rfl
  · split <;> rfl

/-- A job that has not moved yet can always move. -/
theorem isSome_jobsStep?_of_begun {before rs : List Running} {r : Running} (hr : r ∈ rs)
    (hn : (rs.map (·.tag)).Nodup) (hb : r.stage = .begun) :
    (jobsStep? c s r.tag before rs).isSome = true := by
  induction rs generalizing before with
  | nil => cases hr
  | cons q rs ih =>
      rw [List.map_cons, List.nodup_cons] at hn
      rcases List.mem_cons.mp hr with rfl | hr
      · rw [jobsStep?, if_pos rfl, Option.isSome_map]
        exact isSome_stageStep?_of_begun hb
      · have hne : q.tag ≠ r.tag := fun he => hn.1 (he ▸ List.mem_map_of_mem hr)
        rw [jobsStep?, if_neg hne, Option.isSome_map]
        exact ih hr hn.2

theorem isDropped_of_not_job (h : System.run? c {} ms = some s) {session tag : Nat}
    {payload : List UInt8} (hd : Job.decode? payload = none)
    (hm : .taken session (.delivery tag payload) ∈ events s.log) :
    IsDropped c ms s session tag payload := by
  obtain ⟨fetch, hf⟩ := c.exists_isAnsweredBy
  have hchronicle := chronicle_of_run? hf h
  have hhistory : .taken session (.delivery tag payload) ∈ history s.log tag :=
    mem_history.mpr ⟨hm, rfl⟩
  have hsettled {isOk : Bool} (he : history s.log tag =
      [.taken session (.delivery tag payload), .settled session tag .reject isOk]) :
      .settled session tag .reject isOk ∈ events s.log :=
    (mem_history.mp (he ▸ List.mem_cons_of_mem _ List.mem_cons_self)).1
  constructor
  · obtain ⟨n, p, stage, -, hstory⟩ :=
      hchronicle.exists_story (List.ne_nil_of_mem hhistory)
    obtain ⟨rfl, rfl⟩ := hstory.eq_of_taken_mem hhistory
    exact (hstory.eq_of_not_job hd).imp And.right And.right
  · intro hmoved
    obtain ⟨n, p, stage, hstory, hstage⟩ := (begun_of_run? hf h tag).moved hmoved
    obtain ⟨rfl, rfl⟩ := hstory.eq_of_taken_mem hhistory
    obtain ⟨-, isOk, he⟩ := (hstory.eq_of_not_job hd).resolve_left fun hb => hstage hb.1
    exact ⟨isOk, hsettled he⟩
  · rintro hidle hstate rfl
    obtain ⟨jobs, hp⟩ : ∃ jobs, s.phase = .consuming jobs := by
      cases hphase : s.phase <;> simp_all [Phase.state]
    obtain ⟨stage, hstory, hrunning, hover⟩ := hchronicle.story_of_taken hp hm
    rcases hstory.eq_of_not_job hd with ⟨rfl, -⟩ | ⟨-, isOk, he⟩
    -- the job cannot have stayed at its beginning, for then it could move
    · obtain ⟨r, hr, rfl⟩ := hover.resolve_left Bool.false_ne_true
      have hjobs : s.jobs = jobs := jobs_of_consuming hp
      have hnone := (isIdle_iff.mp hidle).2 r (hjobs ▸ hr)
      have hnodup : (jobs.map (·.tag)).Nodup := hjobs ▸ hchronicle.nodup
      have hsome : (jobsStep? c s r.tag [] jobs).isSome = true :=
        isSome_jobsStep?_of_begun hr hnodup (hrunning r hr rfl).2
      rw [jobStep?, hp] at hnone
      rw [Option.map_eq_none_iff.mp hnone] at hsome
      cases hsome
    · exact ⟨isOk, hsettled he⟩

/-! ## Results and jobs -/

/-- The delivery that a result is published for. -/
def Event.answered? : Event → Option Nat
  | .published _ tag _ _ => some tag
  | _ => none

theorem countP_isPublication_eq (es : List Event) :
    es.countP Event.isPublication = (es.filterMap Event.answered?).length := by
  rw [List.length_filterMap_eq_countP]
  refine List.countP_congr fun e _ => ?_
  cases e <;> simp [Event.isPublication, Event.answered?]

theorem answered?_eq_some_iff {e : Event} {tag : Nat} :
    e.answered? = some tag ↔ e.isPublication = true ∧ e.delivery? = some tag := by
  cases e <;> simp [Event.answered?, Event.isPublication, Event.delivery?]

/-- No delivery has two results. -/
theorem nodup_answered (h : System.run? c {} ms = some s) :
    ((events s.log).filterMap Event.answered?).Nodup := by
  obtain ⟨fetch, hf⟩ := c.exists_isAnsweredBy
  rw [List.nodup_iff_count_le_one]
  intro tag
  have hcount : ((events s.log).filterMap Event.answered?).count tag =
      (history s.log tag).countP Event.isPublication := by
    rw [List.count_filterMap, history, List.countP_filter]
    refine List.countP_congr fun e _ => ?_
    simp [answered?_eq_some_iff]
  rw [hcount]
  rcases (chronicle_of_run? hf h).eq_nil_or_story tag with he | ⟨_, _, _, -, hstory⟩
  · rw [he]
    exact Nat.zero_le 1
  · exact hstory.countP_isPublication_le

/-- The results of a run are no more than the deliveries of a kind that all its jobs are of. -/
theorem countP_isPublication_le (h : System.run? c {} ms = some s) {kind : List UInt8 → Bool}
    (hk : ∀ payload ∈ payloads ms, ∀ job, Job.decode? payload = some job → kind payload = true) :
    (events s.log).countP Event.isPublication ≤ (payloads ms).countP kind := by
  obtain ⟨fetch, hf⟩ := c.exists_isAnsweredBy
  have hsub : (events s.log).filterMap Event.answered? ⊆
      (((payloads ms).zipIdx 1).filter (kind ·.1)).map Prod.snd := by
    intro tag htag
    obtain ⟨e, he, hanswered⟩ := List.mem_filterMap.mp htag
    match e, hanswered with
    | .published n t queue body, hanswered =>
        cases hanswered
        obtain ⟨payload, job, hsent, hjob, -⟩ := exists_job_of_published hf h he
        have hmem : payload ∈ payloads ms := (List.mem_zipIdx hsent).2.2 ▸ List.getElem_mem _
        refine List.mem_map.mpr ⟨(payload, tag), List.mem_filter.mpr ⟨hsent, ?_⟩, rfl⟩
        exact hk payload hmem job hjob
  calc
    (events s.log).countP Event.isPublication
      = ((events s.log).filterMap Event.answered?).length := countP_isPublication_eq _
    _ ≤ ((((payloads ms).zipIdx 1).filter (kind ·.1)).map Prod.snd).length :=
        (List.subperm_of_subset (nodup_answered h) hsub).length_le
    _ = (((payloads ms).zipIdx 1).map Prod.fst).countP kind := by
        rw [List.length_map, ← List.countP_eq_length_filter, List.countP_map]
        rfl
    _ = (payloads ms).countP kind := by rw [List.zipIdx_map_fst]

/-- What a run does with results that come back: each is dropped, so there are no more results than
jobs were sent; and if nothing is sent but one job and what was published, no more than this job was
sent. -/
structure DropsResults (c : Setup) (ms : List Move) (s : System) : Prop where
  dropped : ∀ session tag (r : JobResult),
    .taken session (.delivery tag r.encode) ∈ events s.log →
    IsDropped c ms s session tag r.encode
  results_le : (events s.log).countP Event.isPublication ≤
    (payloads ms).countP fun payload => (Job.decode? payload).isSome
  results_of_one : ∀ sent, (∀ payload ∈ payloads ms, payload = sent ∨
      ∃ session tag queue, .published session tag queue payload ∈ events s.log) →
    (events s.log).countP Event.isPublication ≤ (payloads ms).count sent

/-- A result is read as metadata, exactly, but never as a job or a preview, and a preview never as a
job or a result. So in every run, also when what is published is sent back, results are dropped
unread and bring about no others. -/
theorem results_bring_about_no_results :
    (∀ r : JobResult, Metadata.decode? r.encode = some r.metadata ∧ Job.decode? r.encode = none ∧
      Preview.decode? r.encode = none) ∧
    (∀ p : Preview, Metadata.decode? p.encode = some p.metadata ∧ Job.decode? p.encode = none ∧
      JobResult.decode? p.encode = none) ∧
    ∀ c ms s, System.run? c {} ms = some s → DropsResults c ms s := by
  refine ⟨fun r => ⟨r.decode?_metadata, r.decode?_job, r.decode?_preview⟩,
    fun p => ⟨p.decode?_metadata, p.decode?_job, p.decode?_result⟩, fun c ms s h => ?_⟩
  obtain ⟨fetch, hf⟩ := c.exists_isAnsweredBy
  constructor
  · intro session tag r hm
    exact isDropped_of_not_job h r.decode?_job hm
  · refine countP_isPublication_le h fun payload _ job hjob => ?_
    rw [hjob]
    rfl
  · intro sent hsent
    refine countP_isPublication_le h fun payload hp job hjob => beq_iff_eq.mpr ?_
    refine (hsent payload hp).resolve_right ?_
    rintro ⟨session, tag, queue, hpublished⟩
    obtain ⟨_, _, -, -, -, -, hbody, -⟩ := exists_job_of_published hf h hpublished
    rw [hbody, JobResult.decode?_job] at hjob
    cases hjob

/-- The result of the only job of a run. -/
def loneResult : List UInt8 :=
  JobResult.encode ⟨"a", (visit (fun _ => .ok "") "http://[::1]").outcome.metadata,
    (Setup.uniform (.served "")).stamp⟩

/-- The delivery of a job, and of its result behind it. -/
def loopedMoves : List Move :=
  loneMoves 5 ++ [.consumer, .input (.deliver loneResult), .consumer, .job 2]

theorem isSome_run?_loopedMoves :
    (System.run? (.uniform (.served "")) {} loopedMoves).isSome = true := by
  decide +kernel

/-- The system when the result of its only job has come back. -/
def loopedSystem : System := (System.run? _ _ _).get isSome_run?_loopedMoves

/-- The result that comes back is dropped, and there is no other one. -/
theorem results_bring_about_no_results_of_looped :
    System.run? (.uniform (.served "")) {} loopedMoves = some loopedSystem ∧
      payloads loopedMoves = [Job.encode ⟨"a", "http://[::1]"⟩, loneResult] ∧
      .published 1 1 "preview_results" loneResult ∈ events loopedSystem.log ∧
      (∃ isOk, .settled 1 2 .reject isOk ∈ events loopedSystem.log) ∧
      (events loopedSystem.log).countP Event.isPublication ≤ 1 := by
  have hrun : System.run? (.uniform (.served "")) {} loopedMoves = some loopedSystem :=
    (Option.some_get _).symm
  have hpayloads : payloads loopedMoves = [Job.encode ⟨"a", "http://[::1]"⟩, loneResult] := rfl
  have hpublished : .published 1 1 "preview_results" loneResult ∈ events loopedSystem.log := by
    decide +kernel
  have htaken : .taken 1 (.delivery 2 loneResult) ∈ events loopedSystem.log := by
    decide +kernel
  have hdrops := results_bring_about_no_results.2.2 _ _ _ hrun
  have hdropped := (hdrops.dropped 1 2 _ htaken).moved (by simp [loopedMoves])
  have hone : (payloads loopedMoves).count (Job.encode ⟨"a", "http://[::1]"⟩) = 1 := by
    decide +kernel
  refine ⟨hrun, hpayloads, hpublished, hdropped, hone ▸ hdrops.results_of_one _ ?_⟩
  intro payload hm
  rw [hpayloads, List.mem_cons, List.mem_singleton] at hm
  rcases hm with he | he
  · exact .inl he
  · rw [he]
    exact .inr ⟨1, 1, "preview_results", hpublished⟩

end Queue

end LinkPreview
