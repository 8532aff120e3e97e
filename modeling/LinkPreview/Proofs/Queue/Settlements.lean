import LinkPreview.Proofs.Message
import LinkPreview.Proofs.Queue.Chronicle

/-!
# Settlements

What a run may do to a delivery, and what it must have done. No settlement comes without its
reason: a delivery is acknowledged only after its result is out, given back only if its result
could not be published, and dropped only if it is no job. No delivery is settled twice, and
none has two results. While a session lasts, a delivery that was taken over it is settled when
its job ends, unless fetching its page crashes: then the job is gone and its delivery is never
settled.

All of this is read off the stories of the deliveries, by cases.
-/

namespace LinkPreview.Queue

open LinkPreview.Queue.System

/-! ## Kinds of events -/

namespace Event

/-- Whether an event is that a delivery is taken. -/
def isTaking : Event → Bool
  | .taken _ (.delivery _ _) => true
  | _ => false

/-- Whether an event is that a result is published. -/
def isPublication : Event → Bool
  | .published .. => true
  | _ => false

/-- Whether an event is that a delivery is settled, or that this fails. -/
def isSettlement : Event → Bool
  | .settled .. => true
  | _ => false

end Event

/-! ## What stories say of them -/

section

variable {c : Setup} {fetch : String → Except FetchError String} {session tag : Nat}
  {payload : List UInt8} {stage : Stage} {es : List Event}

/-- Nothing in the opening of a story is of a kind that only later events have. -/
theorem filter_opening {p : Event → Bool} (job : Job)
    (ht : p (.taken session (.delivery tag payload)) = false)
    (hf : ∀ url, p (.fetched session tag url) = false) :
    (opening fetch session tag payload job).filter p = [] := by
  apply List.filter_eq_nil_iff.mpr
  intro e he
  rw [opening, List.mem_cons, List.mem_map] at he
  rcases he with rfl | ⟨url, -, rfl⟩
  · simp [ht]
  · simp [hf]

theorem filter_isPublication_opening (job : Job) :
    (opening fetch session tag payload job).filter Event.isPublication = [] :=
  filter_opening job rfl fun _ => rfl

theorem filter_isSettlement_opening (job : Job) :
    (opening fetch session tag payload job).filter Event.isSettlement = [] :=
  filter_opening job rfl fun _ => rfl

theorem filter_isTaking_opening (job : Job) :
    (opening fetch session tag payload job).filter Event.isTaking =
      [.taken session (.delivery tag payload)] := by
  have hf : (Event.isTaking ∘ fun url => .fetched session tag url) = fun _ => false := rfl
  rw [opening, List.filter_cons_of_pos rfl, List.filter_map, hf, List.filter_false]
  rfl

theorem taken_mem_opening (job : Job) :
    .taken session (.delivery tag payload) ∈ opening fetch session tag payload job :=
  List.mem_cons_self

/-- A delivery is taken once. -/
theorem Story.countP_isTaking_le (h : Story c fetch session tag payload stage es) :
    es.countP Event.isTaking ≤ 1 := by
  rw [List.countP_eq_length_filter]
  cases h with
  | begun | rejected => exact Nat.le_refl 1
  | fetching | extracting | ready | crashed => rw [filter_isTaking_opening]; exact Nat.le_refl 1
  | published | refused | acked | requeued =>
      rw [List.filter_append, filter_isTaking_opening]
      exact Nat.le_refl 1

/-- A delivery has one result at most. -/
theorem Story.countP_isPublication_le (h : Story c fetch session tag payload stage es) :
    es.countP Event.isPublication ≤ 1 := by
  rw [List.countP_eq_length_filter]
  cases h with
  | begun | rejected => exact Nat.zero_le 1
  | fetching | extracting | ready | crashed =>
      rw [filter_isPublication_opening]
      exact Nat.zero_le 1
  | published | acked =>
      rw [List.filter_append, filter_isPublication_opening]
      exact Nat.le_refl 1
  | refused | requeued =>
      rw [List.filter_append, filter_isPublication_opening]
      exact Nat.zero_le 1

/-- A delivery is not settled before its job ends. -/
theorem Story.filter_isSettlement_of_not_isOver
    (h : Story c fetch session tag payload stage es) (ho : stage.isOver = false) :
    es.filter Event.isSettlement = [] := by
  cases h with
  | begun => rfl
  | fetching | extracting | ready => exact filter_isSettlement_opening _
  | published | refused =>
      rw [List.filter_append, filter_isSettlement_opening]
      rfl
  | rejected | acked | requeued | crashed => cases ho

/-- A delivery is settled once when its job ends, unless that crashes. -/
theorem Story.filter_isSettlement_of_isOver
    (h : Story c fetch session tag payload stage es) (ho : stage.isOver = true) :
    (c.CrashesOn payload ∧ es.filter Event.isSettlement = []) ∨
      (¬ c.CrashesOn payload ∧ ∃ how isOk,
        es.filter Event.isSettlement = [.settled session tag how isOk]) := by
  cases h with
  | begun | fetching | extracting | ready | published | refused => cases ho
  | crashed hd hc => exact Or.inl ⟨⟨_, hd, hc⟩, filter_isSettlement_opening _⟩
  | rejected isOk hd =>
      refine Or.inr ⟨?_, .reject, isOk, rfl⟩
      rintro ⟨job, hj, -⟩
      rw [hd] at hj
      cases hj
  | acked isOk hd hc =>
      refine Or.inr ⟨not_crashesOn hd hc, .ack, isOk, ?_⟩
      rw [List.filter_append, filter_isSettlement_opening]
      rfl
  | requeued isOk hd hc =>
      refine Or.inr ⟨not_crashesOn hd hc, .requeue, isOk, ?_⟩
      rw [List.filter_append, filter_isSettlement_opening]
      rfl

theorem Story.countP_isSettlement_le (h : Story c fetch session tag payload stage es) :
    es.countP Event.isSettlement ≤ 1 := by
  rw [List.countP_eq_length_filter]
  cases ho : stage.isOver with
  | false =>
      rw [h.filter_isSettlement_of_not_isOver ho]
      exact Nat.zero_le 1
  | true =>
      rcases h.filter_isSettlement_of_isOver ho with ⟨-, he⟩ | ⟨-, how, isOk, he⟩ <;> rw [he]
      · exact Nat.zero_le 1
      · exact Nat.le_refl 1

/-- A result that could not be published is not published later, nor is its job
acknowledged. -/
theorem Story.given_back_of_refused (h : Story c fetch session tag payload stage es) {n : Nat}
    (hm : .refused n tag ∈ es) : ∀ e ∈ es, e.isPublication = false ∧
      ∀ m isOk, e ≠ .settled m tag .ack isOk := by
  cases h with
  | begun | rejected | fetching | extracting | ready | crashed | published | acked =>
      simp [opening, publication] at hm
  | refused | requeued => simp [opening, or_imp, forall_and, Event.isPublication]

/-- A list that ends where a kind of element first occurs. -/
theorem eq_of_append_singleton_eq {α : Type} {init before after : List α} {x y : α}
    (hy : y ∉ init) (h : init ++ [x] = before ++ y :: after) :
    before = init ∧ y = x ∧ after = [] := by
  rcases List.eq_nil_or_concat after with rfl | ⟨rest, z, rfl⟩
  · obtain ⟨hb, hx⟩ := List.append_inj' h rfl
    exact ⟨hb.symm, (List.cons.inj hx).1.symm, rfl⟩
  · rw [List.concat_eq_append, ← List.cons_append, ← List.append_assoc] at h
    obtain ⟨hb, -⟩ := List.append_inj' h rfl
    exact absurd (by simp [hb]) hy

/-! ## Reasons of settlements -/

/-- The reason for a settlement, by what was seen before it and the whole history of the
delivery. -/
inductive Justified (c : Setup) (fetch : String → Except FetchError String) (session tag : Nat)
    (payload : List UInt8) (before whole : List Event) : Settlement → Prop where
  | reject (hd : Job.decode? payload = none) :
      Justified c fetch session tag payload before whole .reject
  | ack {job : Job} {body : List UInt8} (hd : Job.decode? payload = some job)
      (hb : .published session tag c.resultQueue body ∈ before)
      (ho : whole.filter Event.isPublication = [.published session tag c.resultQueue body])
      (hr : JobResult.decode? body =
        some ⟨job.id, (visit fetch job.url).outcome.metadata, c.stamp⟩) :
      Justified c fetch session tag payload before whole .ack
  | requeue {job : Job} (hd : Job.decode? payload = some job)
      (hb : .refused session tag ∈ before)
      (hn : whole.filter Event.isPublication = []) :
      Justified c fetch session tag payload before whole .requeue

theorem Justified.mono {before before' whole : List Event} {how : Settlement}
    (h : Justified c fetch session tag payload before whole how) (hb : before ⊆ before') :
    Justified c fetch session tag payload before' whole how := by
  cases h with
  | reject hd => exact .reject hd
  | ack hd hm ho hr => exact .ack hd (hb hm) ho hr
  | requeue hd hm hn => exact .requeue hd (hb hm) hn

/-- A job that is not given back has a result. -/
theorem Justified.exists_result {before whole : List Event} {how : Settlement}
    (h : Justified c fetch session tag payload before whole how) {job : Job}
    (hd : Job.decode? payload = some job) (hne : how ≠ .requeue) :
    ∃ body, .published session tag c.resultQueue body ∈ before ∧
      JobResult.decode? body =
        some ⟨job.id, (visit fetch job.url).outcome.metadata, c.stamp⟩ := by
  cases h with
  | reject hn =>
      rw [hd] at hn
      cases hn
  | ack hj hm ho hr =>
      rw [hd] at hj
      cases hj
      exact ⟨_, hm, hr⟩
  | requeue => exact absurd rfl hne

/-- A story with a settlement ends with it, and has told its reason. -/
theorem Story.justified (h : Story c fetch session tag payload stage es)
    {before after : List Event} {n t : Nat} {how : Settlement} {isOk : Bool}
    (he : es = before ++ .settled n t how isOk :: after) :
    n = session ∧ t = tag ∧ after = [] ∧ .taken session (.delivery tag payload) ∈ before ∧
      Justified c fetch session tag payload before es how := by
  have hm : .settled n t how isOk ∈ es := by simp [he]
  cases h with
  | begun | fetching | extracting | ready | published | refused | crashed =>
      simp [opening, publication] at hm
  | rejected ok hd =>
      rw [← List.singleton_append] at he
      obtain ⟨rfl, hx, rfl⟩ := eq_of_append_singleton_eq (by simp) he
      cases hx
      exact ⟨rfl, rfl, rfl, by simp, .reject hd⟩
  | @acked job ok hd hc =>
      rw [List.append_cons] at he
      obtain ⟨rfl, hx, rfl⟩ := eq_of_append_singleton_eq (by simp [opening, publication]) he
      cases hx
      refine ⟨rfl, rfl, rfl, ?_, .ack hd (List.mem_append_right _ List.mem_cons_self) ?_
        (JobResult.decode?_encode _)⟩
      · exact List.mem_append_left _ (taken_mem_opening job)
      · rw [List.filter_append, filter_isPublication_opening]
        rfl
  | @requeued job ok hd hc =>
      rw [List.append_cons] at he
      obtain ⟨rfl, hx, rfl⟩ := eq_of_append_singleton_eq (by simp [opening]) he
      cases hx
      refine ⟨rfl, rfl, rfl, ?_, .requeue hd (List.mem_append_right _ List.mem_cons_self) ?_⟩
      · exact List.mem_append_left _ (taken_mem_opening job)
      · rw [List.filter_append, filter_isPublication_opening]
        rfl

end

/-! ## What holds of every run -/

section

variable {c : Setup} {fetch : String → Except FetchError String} {ms : List Move} {s : System}

/-- The delivery with a number is the payload that was sent at this place. -/
theorem mem_payloads_of_taken (h : System.run? c {} ms = some s) {session tag : Nat}
    {payload : List UInt8} (hm : .taken session (.delivery tag payload) ∈ events s.log) :
    (payload, tag) ∈ (payloads ms).zipIdx 1 := by
  rw [← deliveries_of_run? h, mem_deliveries, List.mem_append]
  exact Or.inl (mem_takenItems.mpr ⟨session, hm⟩)

theorem history_of_settled {log : List Entry} {before after : List Event} {session tag : Nat}
    {how : Settlement} {isOk : Bool}
    (he : events log = before ++ .settled session tag how isOk :: after) :
    history log tag = before.filter (·.delivery? == some tag) ++
      .settled session tag how isOk :: after.filter (·.delivery? == some tag) := by
  rw [history, he, List.filter_append, List.filter_cons_of_pos (by simp [Event.delivery?])]

/-! ### A run with one delivery -/

/-- A system whose pages are all alike. -/
def Setup.uniform (content : Page.Content) : Setup where
  pages := fun _ => { content := content }
  retry := 2000
  maxInFlight := 4
  resultQueue := "preview_results"
  stamp := ⟨⟨1970, 1, 1, by decide⟩, 0, 0, 0, by decide, by decide, by decide⟩

/-- The delivery of a job, which is taken and then makes so many moves. -/
def loneMoves (count : Nat) : List Move :=
  [.input .start, .consumer, .consumer, .consumer,
    .input (.deliver (Job.encode ⟨"a", "http://[::1]"⟩)), .consumer] ++
    List.replicate count (.job 1)

theorem isSome_run?_loneMoves_served :
    (System.run? (.uniform (.served "")) {} (loneMoves 5)).isSome = true := by
  decide +kernel

theorem isSome_run?_loneMoves_crash :
    (System.run? (.uniform .crash) {} (loneMoves 2)).isSome = true := by
  decide +kernel

/-- The system when the only job has ended well. -/
def servedSystem : System := (System.run? _ _ _).get isSome_run?_loneMoves_served

/-- The system when the only job has crashed. -/
def crashedSystem : System := (System.run? _ _ _).get isSome_run?_loneMoves_crash

theorem run?_served : System.run? (.uniform (.served "")) {} (loneMoves 5) = some servedSystem :=
  (Option.some_get _).symm

theorem run?_crashed : System.run? (.uniform .crash) {} (loneMoves 2) = some crashedSystem :=
  (Option.some_get _).symm

/-! ### The results -/

/-- Every settlement is justified by what was seen of the same delivery in the same session
before, and no job is lost to the broker without a result. -/
theorem settlement_is_justified (hf : c.IsAnsweredBy fetch) (h : System.run? c {} ms = some s)
    {before after : List Event} {session tag : Nat} {how : Settlement} {isOk : Bool}
    (he : events s.log = before ++ .settled session tag how isOk :: after) :
    ∃ payload, (payload, tag) ∈ (payloads ms).zipIdx 1 ∧
      .taken session (.delivery tag payload) ∈ before ∧
      Justified c fetch session tag payload before (history s.log tag) how ∧
      ∀ job, Job.decode? payload = some job → how ≠ .requeue → ∃ body,
        .published session tag c.resultQueue body ∈ before ∧
        JobResult.decode? body =
          some ⟨job.id, (visit fetch job.url).outcome.metadata, c.stamp⟩ := by
  have hsplit := history_of_settled he
  have hne : history s.log tag ≠ [] := by simp [hsplit]
  obtain ⟨n, payload, stage, -, hstory⟩ := (chronicle_of_run? hf h).exists_story hne
  obtain ⟨rfl, -, -, ht, hj⟩ := hstory.justified hsplit
  have hsub : before.filter (·.delivery? == some tag) ⊆ before := List.filter_subset_self _
  have ht : .taken session (.delivery tag payload) ∈ before := hsub ht
  have hj : Justified c fetch session tag payload before (history s.log tag) how :=
    hj.mono hsub
  have hm : .taken session (.delivery tag payload) ∈ events s.log := by
    rw [he]
    exact List.mem_append_left _ ht
  exact ⟨payload, mem_payloads_of_taken h hm, ht, hj, fun _ => hj.exists_result⟩

/-- The acknowledgement of the only job of a run is justified. -/
theorem settlement_is_justified_of_served :
    (Setup.uniform (.served "")).IsAnsweredBy (fun _ => .ok "") ∧
      System.run? (.uniform (.served "")) {} (loneMoves 5) = some servedSystem ∧
      ∃ before payload, events servedSystem.log = before ++ [.settled 1 1 .ack true] ∧
        (payload, 1) ∈ (payloads (loneMoves 5)).zipIdx 1 ∧
        Justified (.uniform (.served "")) (fun _ => .ok "") 1 1 payload before
          (history servedSystem.log 1) .ack := by
  have hf : (Setup.uniform (.served "")).IsAnsweredBy (fun _ => .ok "") := by
    intro url answer ha
    cases ha
    rfl
  have he : events servedSystem.log =
      (events servedSystem.log).dropLast ++ [.settled 1 1 .ack true] := by
    decide +kernel
  obtain ⟨payload, hm, -, hj, -⟩ := settlement_is_justified hf run?_served he
  exact ⟨hf, run?_served, _, payload, he, hm, hj⟩

/-- Nothing happens twice to a delivery: it is taken once, has one result and one settlement
at most, whether the call succeeds or not, and its settlement is the last that is seen of it.
When its result could not be published, it is neither published after all nor acknowledged. -/
theorem delivery_is_settled_once (h : System.run? c {} ms = some s) (tag : Nat) :
    (history s.log tag).countP Event.isTaking ≤ 1 ∧
      (history s.log tag).countP Event.isPublication ≤ 1 ∧
      (history s.log tag).countP Event.isSettlement ≤ 1 ∧
      (∀ before after session how isOk,
        events s.log = before ++ .settled session tag how isOk :: after →
          ∀ e ∈ after, e.delivery? ≠ some tag) ∧
      ∀ session, .refused session tag ∈ events s.log → ∀ e ∈ history s.log tag,
        e.isPublication = false ∧ ∀ n isOk, e ≠ .settled n tag .ack isOk := by
  obtain ⟨fetch, hf⟩ := c.exists_isAnsweredBy
  rcases (chronicle_of_run? hf h).eq_nil_or_story tag with hnil | ⟨n, payload, stage, -, hstory⟩
  · simp only [hnil, List.countP_nil, Nat.zero_le, List.not_mem_nil, false_implies, implies_true,
      and_true, true_and]
    intro before after session how isOk he
    simp [history_of_settled he] at hnil
  · refine ⟨hstory.countP_isTaking_le, hstory.countP_isPublication_le,
      hstory.countP_isSettlement_le, ?_, ?_⟩
    · intro before after session how isOk he e hm ht
      obtain ⟨-, -, hlast, -⟩ := hstory.justified (history_of_settled he)
      simpa [ht] using List.filter_eq_nil_iff.mp hlast e hm
    · intro session hr
      exact hstory.given_back_of_refused (mem_history.mpr ⟨hr, rfl⟩)

/-- The only job of a run is settled once. -/
theorem delivery_is_settled_once_of_served :
    System.run? (.uniform (.served "")) {} (loneMoves 5) = some servedSystem ∧
      (history servedSystem.log 1).countP Event.isPublication ≤ 1 ∧
      (history servedSystem.log 1).countP Event.isSettlement ≤ 1 := by
  obtain ⟨-, hp, hs, -⟩ := delivery_is_settled_once run?_served 1
  exact ⟨run?_served, hp, hs⟩

/-- While a session lasts, a delivery that was taken over it is in the care of a job that runs,
and is not settled; or its job has ended and it is settled exactly once; or its job has ended
since fetching its page crashed, and it is not settled. -/
theorem settled_once_unless_crashed (h : System.run? c {} ms = some s) {jobs : List Running}
    (hp : s.phase = .consuming jobs) {tag : Nat} {payload : List UInt8}
    (hm : .taken s.session (.delivery tag payload) ∈ events s.log) :
    ((∃ r ∈ jobs, r.tag = tag ∧ r.payload = payload ∧ r.stage.isOver = false) ∧
        (history s.log tag).filter Event.isSettlement = []) ∨
      ((∀ r ∈ jobs, r.tag = tag → r.stage.isOver = true) ∧
        ((c.CrashesOn payload ∧ (history s.log tag).filter Event.isSettlement = []) ∨
          (¬ c.CrashesOn payload ∧ ∃ how isOk,
            (history s.log tag).filter Event.isSettlement =
              [.settled s.session tag how isOk]))) := by
  obtain ⟨fetch, hf⟩ := c.exists_isAnsweredBy
  obtain ⟨stage, hstory, hjobs, hlast⟩ := (chronicle_of_run? hf h).story_of_taken hp hm
  cases ho : stage.isOver with
  | false =>
      left
      obtain ⟨r, hr, ht⟩ := hlast.resolve_left (by simp [ho])
      obtain ⟨hpay, hstage⟩ := hjobs r hr ht
      exact ⟨⟨r, hr, ht, hpay, by rw [hstage, ho]⟩, hstory.filter_isSettlement_of_not_isOver ho⟩
  | true =>
      right
      refine ⟨?_, hstory.filter_isSettlement_of_isOver ho⟩
      intro r hr ht
      rw [(hjobs r hr ht).2, ho]

/-- The delivery of a job that crashed is neither settled nor in the care of a job. -/
theorem settled_once_unless_crashed_of_crash :
    System.run? (.uniform .crash) {} (loneMoves 2) = some crashedSystem ∧
      ∃ jobs payload, crashedSystem.phase = .consuming jobs ∧
        .taken crashedSystem.session (.delivery 1 payload) ∈ events crashedSystem.log ∧
        (∀ r ∈ jobs, r.tag = 1 → r.stage.isOver = true) ∧
        (Setup.uniform .crash).CrashesOn payload ∧
        (history crashedSystem.log 1).filter Event.isSettlement = [] := by
  have hp : crashedSystem.phase = .consuming crashedSystem.jobs := by decide +kernel
  have hm : .taken crashedSystem.session (.delivery 1 (Job.encode ⟨"a", "http://[::1]"⟩)) ∈
      events crashedSystem.log := by
    decide +kernel
  have hn : (history crashedSystem.log 1).filter Event.isSettlement = [] := by decide +kernel
  have ho : ∀ r ∈ crashedSystem.jobs, r.stage.isOver = true := by decide +kernel
  rcases settled_once_unless_crashed run?_crashed hp hm with
    ⟨⟨r, hr, -, -, hf⟩, -⟩ | ⟨hj, ⟨hc, -⟩ | ⟨-, how, isOk, he⟩⟩
  · rw [ho r hr] at hf
    cases hf
  · exact ⟨run?_crashed, _, _, hp, hm, hj, hc, hn⟩
  · rw [hn] at he
    cases he

/-- Not every delivery of a session that lasts is settled or in the care of a job. -/
theorem exists_stranded_delivery :
    ¬ ∀ (c : Setup) (ms : List Move) (s : System) (jobs : List Running) (tag : Nat)
      (payload : List UInt8), System.run? c {} ms = some s → s.phase = .consuming jobs →
      (∀ n t how, .settled n t how false ∉ events s.log) →
      .taken s.session (.delivery tag payload) ∈ events s.log →
      (∃ r ∈ jobs, r.tag = tag ∧ r.stage.isOver = false) ∨
        ∃ how, (history s.log tag).filter Event.isSettlement =
          [.settled s.session tag how true] := by
  intro h
  have hp : crashedSystem.phase = .consuming crashedSystem.jobs := by decide +kernel
  have hm : .taken crashedSystem.session (.delivery 1 (Job.encode ⟨"a", "http://[::1]"⟩)) ∈
      events crashedSystem.log := by
    decide +kernel
  have hn : (history crashedSystem.log 1).filter Event.isSettlement = [] := by decide +kernel
  have ho : ∀ r ∈ crashedSystem.jobs, r.stage.isOver = true := by decide +kernel
  have hall : (events crashedSystem.log).all
      (fun | .settled _ _ _ isOk => isOk | _ => true) = true := by
    decide +kernel
  have hok : ∀ n t how, .settled n t how false ∉ events crashedSystem.log := by
    intro n t how he
    have := List.all_eq_true.mp hall _ he
    cases this
  rcases h _ _ _ _ 1 _ run?_crashed hp hok hm with ⟨r, hr, -, hf⟩ | ⟨how, he⟩
  · rw [ho r hr] at hf
    cases hf
  · rw [hn] at he
    cases he

end

end LinkPreview.Queue
