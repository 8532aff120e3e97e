import LinkPreview.Proofs.Http.Preview
import LinkPreview.Proofs.Queue.Outcomes

/-!
# The two entrances

A preview is asked for by a visitor or by a job on the queue. Both ways lead to the same visit of
the page: they fetch the same pages, none that may not be previewed, and tell the same metadata,
though the one way refuses an address and the other answers that there is nothing to show.
-/

namespace LinkPreview

open LinkPreview.Http LinkPreview.Queue LinkPreview.Queue.System

variable {c : Setup} {fetch : String → Except FetchError String}

/-! ## One visit -/

/-- What tells the metadata of a preview that shows nothing. -/
def emptyValues : List (Option Json) :=
  Metadata.names.map fun _ => some .null

/-- An answer to a visitor and a published result that agree: both tell the same metadata and the
page was fetched for each of them once, or the visitor is refused, the result shows nothing, and
no page was fetched for either. -/
inductive Agreement (url : String) (r : Reply) (body : List UInt8) (fetched : List String) :
    Prop where
  | shown {answer result : Json} {values : List (Option Json)}
      (hu : Url.isPreviewable url = true) (hs : r.answer.status = 200)
      (ha : Json.read? r.answer.body = some answer) (hr : Json.read? body = some result)
      (hv : answer.values? Metadata.names = some values)
      (hw : result.values? Metadata.names = some values)
      (hf : r.fetched = [url]) (hg : fetched = [url]) : Agreement url r body fetched
  | refused {result : Json} (hu : Url.isPreviewable url = false) (hs : r.answer.status = 400)
      (hr : Json.read? body = some result)
      (hw : result.values? Metadata.names = some emptyValues)
      (hf : r.fetched = []) (hg : fetched = []) : Agreement url r body fetched

/-- What a visitor and a job come to that ask for the same page. -/
theorem agreement_of_visit (fetch : String → Except FetchError String) (now stamp : Moment)
    (id url : String) :
    Agreement url (previewReply ⟨fetch, now⟩ url)
      (JobResult.encode ⟨id, (visit fetch url).outcome.metadata, stamp⟩)
      (visit fetch url).fetched := by
  have hnames : ("urlId" :: (Metadata.names ++ ["fetchedAt"])).Nodup := by decide
  have hvalues := Metadata.values?_names_framed hnames id (visit fetch url).outcome.metadata stamp
  have hread :=
    Metadata.read?_framed "urlId" "fetchedAt" id (visit fetch url).outcome.metadata stamp
  cases hu : Url.isPreviewable url with
  | false =>
      have hvisit : visit fetch url = ⟨.degraded .invalidUrl, []⟩ := by simp [visit, hu]
      rw [hvisit] at hread hvalues ⊢
      rw [previewReply_of_not_isPreviewable _ hu]
      exact .refused hu rfl hread hvalues rfl rfl
  | true =>
      have hfetched : (visit fetch url).fetched = [url] := by simp [visit, hu]
      rw [previewReply_of_isPreviewable _ hu]
      exact .shown hu rfl (Metadata.read?_framed "url" "fetched_at" url _ now) hread
        (Metadata.values?_names_framed (by decide) url _ now) hvalues rfl hfetched

/-! ## A visitor and a job -/

/-- A delivery has one payload. -/
theorem eq_of_mem_zipIdx {α : Type} {xs : List α} {x y : α} {n k : Nat}
    (hx : (x, n) ∈ xs.zipIdx k) (hy : (y, n) ∈ xs.zipIdx k) : x = y := by
  obtain ⟨_, hx⟩ := List.mk_mem_zipIdx_iff_le_and_getElem?_sub.mp hx
  obtain ⟨_, hy⟩ := List.mk_mem_zipIdx_iff_le_and_getElem?_sub.mp hy
  exact Option.some.inj (hx.symm.trans hy)

/-- A visitor who asks for the preview of an address and a job that does agree, whatever the
address is and however its page behaves. Every address can be given in a query, and the request can
be made unless its target is too long. Every job with this address has its result published in some
run, unless fetching the page crashes, and then no result is ever published. Whenever one is, it
agrees with the answer to every query that gives the same address. -/
theorem visitor_and_job_agree (hf : c.IsAnsweredBy fetch) (now : Moment) (id url : String) :
    pageAddress (Form.read (Form.write [("url", url)])) = .ok url ∧
      (reply? ⟨fetch, now⟩ "GET" ("/preview?" ++ Form.write [("url", url)]) =
        if Target.maxBytes <
            (Text.Utf8.encode ("/preview?" ++ Form.write [("url", url)]).toList).length then none
        else some (reply ⟨fetch, now⟩ "GET" ⟨"/preview", some (Form.write [("url", url)])⟩)) ∧
      (¬ c.CrashesAt url → ∃ ms s session body, System.run? c {} ms = some s ∧
        payloads ms = [Job.encode ⟨id, url⟩] ∧
        .published session 1 c.resultQueue body ∈ events s.log) ∧
      ∀ query, pageAddress (Form.read query) = .ok url →
        ∀ ms s, System.run? c {} ms = some s →
          ∀ payload session tag queue body, (payload, tag) ∈ (payloads ms).zipIdx 1 →
            Job.decode? payload = some ⟨id, url⟩ →
            .published session tag queue body ∈ events s.log →
            ¬ c.CrashesAt url ∧
              Agreement url (reply ⟨fetch, now⟩ "GET" ⟨"/preview", some query⟩) body
                ((history s.log tag).filterMap Event.fetched?) := by
  refine ⟨?_, reply?_preview _ _, ?_, ?_⟩
  · rw [Form.read_write]
    rfl
  · intro hc
    obtain ⟨ms, s, hrun, hpayloads, hpublished⟩ :=
      exists_published hf (Job.decode?_encode ⟨id, url⟩) hc
    exact ⟨ms, s, s.session, _, hrun, hpayloads, hpublished⟩
  · intro query hquery ms s hrun payload session tag queue body hsent hd hpublished
    obtain ⟨other, job, hother, hjob, hc, -, rfl, hfetched⟩ :=
      exists_job_of_published hf hrun hpublished
    obtain rfl := eq_of_mem_zipIdx hsent hother
    rw [hd] at hjob
    cases hjob
    rw [reply_preview_of_pageAddress _ hquery, hfetched]
    exact ⟨hc, agreement_of_visit fetch now c.stamp id url⟩

/-- The answer to a visitor and the result of a job that ask for the same page. -/
theorem visitor_and_job_agree_of_served :
    (Setup.uniform (.served "")).IsAnsweredBy (fun _ => .ok "") ∧
      pageAddress (Form.read "url=http://[::1]") = .ok "http://[::1]" ∧
      ∃ body, .published 1 1 "preview_results" body ∈ events servedSystem.log ∧
        Agreement "http://[::1]"
          (reply ⟨fun _ => .ok "", (Setup.uniform (.served "")).stamp⟩ "GET"
            ⟨"/preview", some "url=http://[::1]"⟩)
          body ((history servedSystem.log 1).filterMap Event.fetched?) := by
  have hf : (Setup.uniform (.served "")).IsAnsweredBy (fun _ => .ok "") := by
    intro url answer ha
    cases ha
    rfl
  have hquery : pageAddress (Form.read "url=http://[::1]") = .ok "http://[::1]" := by
    decide +kernel
  obtain ⟨-, -, -, hagree⟩ :=
    visitor_and_job_agree hf (Setup.uniform (.served "")).stamp "a" "http://[::1]"
  have hpublished : .published 1 1 "preview_results"
      (JobResult.encode ⟨"a", (visit (fun _ => .ok "") "http://[::1]").outcome.metadata,
        (Setup.uniform (.served "")).stamp⟩) ∈ events servedSystem.log := by
    decide +kernel
  have hsent : (Job.encode ⟨"a", "http://[::1]"⟩, 1) ∈ (payloads (loneMoves 5)).zipIdx 1 := by
    decide +kernel
  exact ⟨hf, hquery, _, hpublished,
    (hagree _ hquery _ _ run?_served _ _ _ _ _ hsent (Job.decode?_encode _) hpublished).2⟩

/-! ## What is fetched -/

theorem exists_asking_of_fetched {s : Http.Surroundings} {method text url : String}
    (hm : url ∈ (serve s method text).2) : Url.isPreviewable url = true ∧
      ∃ query, AsksForPreview method text query ∧ pageAddress (Form.read query) = .ok url := by
  rcases serve_cases s method text with ⟨query, hasks, hadmission⟩ | ⟨-, hnil⟩
  · generalize (serve s method text).1.status = status at hadmission
    generalize (serve s method text).2 = fetched at hm hadmission
    cases hadmission with
    | fetched ha hu =>
        cases List.mem_singleton.mp hm
        exact ⟨hu, query, hasks, ha⟩
    | refused => cases hm
  · rw [hnil] at hm
    cases hm

theorem exists_fetched_of_status {s : Http.Surroundings} {method text query : String}
    (hasks : AsksForPreview method text query) (hs : (serve s method text).1.status = 200) :
    ∃ url, (serve s method text).2 = [url] := by
  rcases serve_cases s method text with ⟨other, -, hadmission⟩ | ⟨hnone, -⟩
  · rw [hs] at hadmission
    generalize (serve s method text).2 = fetched at hadmission
    cases hadmission with
    | fetched => exact ⟨_, rfl⟩
    | refused h => exact absurd h (by decide)
  · exact absurd hasks (hnone query)

theorem fetched_eq_nil {s : Http.Surroundings} {method text : String}
    (h : 400 ≤ (serve s method text).1.status ∨ ∀ query, ¬ AsksForPreview method text query) :
    (serve s method text).2 = [] := by
  rcases serve_cases s method text with ⟨query, hasks, hadmission⟩ | ⟨-, hnil⟩
  · have hs := h.resolve_right fun hnone => hnone query hasks
    generalize (serve s method text).1.status = status at hs hadmission
    generalize (serve s method text).2 = fetched at hadmission
    cases hadmission with
    | fetched => exact absurd hs (by decide)
    | refused => rfl
  · exact hnil

/-- Only pages that may be previewed are fetched, and only those that were asked for. For a list of
requests, each with what surrounds it, these are the addresses that queries for a preview give. For
each request for a preview that is answered well one page is fetched, and none for a request that is
refused or asks for something else. In every run of the queue they are the addresses of jobs that
were sent: the page of a job is fetched once when the job has moved, if its address may be
previewed, and none is fetched before that, for another address, or for what is no job. -/
theorem only_previewable_pages_are_fetched :
    (∀ requests : List (Http.Surroundings × String × String),
      (∀ url ∈ requests.flatMap fun q => (serve q.1 q.2.1 q.2.2).2,
        Url.isPreviewable url = true ∧ ∃ q ∈ requests, ∃ query,
          AsksForPreview q.2.1 q.2.2 query ∧ pageAddress (Form.read query) = .ok url) ∧
      ∀ s method text, (s, method, text) ∈ requests →
        (∀ query, AsksForPreview method text query → (serve s method text).1.status = 200 →
          ∃ url, (serve s method text).2 = [url]) ∧
        (400 ≤ (serve s method text).1.status ∨ (∀ query, ¬ AsksForPreview method text query) →
          (serve s method text).2 = [])) ∧
      ∀ (c : Setup) ms s, System.run? c {} ms = some s →
        (∀ session tag url, .fetched session tag url ∈ events s.log →
          Url.isPreviewable url = true ∧ ∃ payload id,
            (payload, tag) ∈ (payloads ms).zipIdx 1 ∧ Job.decode? payload = some ⟨id, url⟩) ∧
        ∀ session tag payload, .taken session (.delivery tag payload) ∈ events s.log →
          (∀ job, Job.decode? payload = some job → Url.isPreviewable job.url = true →
            .job tag ∈ ms → (history s.log tag).filterMap Event.fetched? = [job.url]) ∧
          (Job.decode? payload = none ∨
            (∃ job, Job.decode? payload = some job ∧ Url.isPreviewable job.url = false) ∨
            .job tag ∉ ms → (history s.log tag).filterMap Event.fetched? = []) := by
  constructor
  · intro requests
    constructor
    · intro url hm
      obtain ⟨q, hq, hm⟩ := List.mem_flatMap.mp hm
      obtain ⟨hu, query, hasks, ha⟩ := exists_asking_of_fetched hm
      exact ⟨hu, q, hq, query, hasks, ha⟩
    · intro s method text _
      exact ⟨fun query hasks hs => exists_fetched_of_status hasks hs, fetched_eq_nil⟩
  · intro c ms s hrun
    constructor
    · intro session tag url hm
      obtain ⟨n, payload, -, hsent, hpage⟩ := exists_taken_of_fetched hrun hm
      obtain ⟨id, hd, hu⟩ := pageOf?_eq_some.mp hpage
      exact ⟨hu, payload, id, hsent, hd⟩
    · intro session tag payload htaken
      rw [fetched_of_taken hrun htaken]
      constructor
      · intro job hd hu hmoved
        rw [if_pos hmoved, pageOf?_eq_some.mpr ⟨job.id, hd, hu⟩, Option.toList_some]
      · rintro (hd | ⟨job, hd, hu⟩ | hunmoved)
        · simp [pageOf?, hd]
        · simp [pageOf?, hd, hu]
        · rw [if_neg hunmoved]

/-- Surroundings in which every page is empty. -/
def blankSurroundings : Http.Surroundings where
  fetch := fun _ => .ok ""
  now := (Setup.uniform (.served "")).stamp

/-- A request and a job, each of which makes its page be fetched. -/
theorem only_previewable_pages_are_fetched_of_served :
    AsksForPreview "GET" "/preview?url=http://[::1]" "url=http://[::1]" ∧
      (serve blankSurroundings "GET" "/preview?url=http://[::1]").1.status = 200 ∧
      (∃ url, (serve blankSurroundings "GET" "/preview?url=http://[::1]").2 = [url]) ∧
      System.run? (.uniform (.served "")) {} (loneMoves 5) = some servedSystem ∧
      .taken 1 (.delivery 1 (Job.encode ⟨"a", "http://[::1]"⟩)) ∈ events servedSystem.log ∧
      (history servedSystem.log 1).filterMap Event.fetched? = ["http://[::1]"] := by
  have hasks : AsksForPreview "GET" "/preview?url=http://[::1]" "url=http://[::1]" := by
    refine ⟨Or.inl rfl, ⟨"/preview", some "url=http://[::1]"⟩, ?_, rfl, rfl⟩
    decide +kernel
  have hs : (serve blankSurroundings "GET" "/preview?url=http://[::1]").1.status = 200 := by
    decide +kernel
  have htaken : .taken 1 (.delivery 1 (Job.encode ⟨"a", "http://[::1]"⟩)) ∈
      events servedSystem.log := by
    decide +kernel
  have hu : Url.isPreviewable "http://[::1]" = true := by decide +kernel
  have hmoved : Move.job 1 ∈ loneMoves 5 := by decide
  obtain ⟨hrequests, hruns⟩ := only_previewable_pages_are_fetched
  have hrequest := (hrequests [(blankSurroundings, "GET", "/preview?url=http://[::1]")]).2
    blankSurroundings "GET" "/preview?url=http://[::1]" List.mem_cons_self
  have hfetched := hrequest.1 "url=http://[::1]" hasks hs
  have hjob := ((hruns (.uniform (.served "")) (loneMoves 5) servedSystem run?_served).2 1 1
    (Job.encode ⟨"a", "http://[::1]"⟩) htaken).1 ⟨"a", "http://[::1]"⟩
    (Job.decode?_encode _) hu hmoved
  exact ⟨hasks, hs, hfetched, run?_served, htaken, hjob⟩

/-- A request for something else than a preview is answered well without any page being fetched,
even if it gives an address. -/
theorem good_answer_without_fetch :
    (serve blankSurroundings "GET" "/health?url=http%3A%2F%2Fexample.com").1.status = 200 ∧
      (serve blankSurroundings "GET" "/health?url=http%3A%2F%2Fexample.com").2 = [] := by
  decide +kernel

end LinkPreview
