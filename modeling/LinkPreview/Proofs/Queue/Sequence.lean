import Mathlib.Data.List.Basic
import LinkPreview.Proofs.Queue.Chronicle
import LinkPreview.Queue.Alone
import LinkPreview.Queue.Report

/-!
# Deliveries one after another

How many jobs run at once, which of them moves first and when pages are released does not
change what a run comes to, as long as no session ends and publishing does not fail for some
results only: when all deliveries are done with, what was seen is the same as if each had been
processed on its own, one after another.

The histories of the deliveries say this of each of them. The log is what was seen of all of
them together, in some order: it is sorted by delivery, and each part of it is known.
-/

namespace LinkPreview.Queue

open LinkPreview.Queue.System

/-! ## Processing in order -/

/-- The results that are published for a delivery, with their queue. -/
def Processed.publications (p : Processed) (queue : String) (isPublished : Bool) :
    List (String × List UInt8) :=
  if isPublished then p.result.toList.map fun r => (queue, r.encode) else []

/-- How a delivery is settled. -/
def Processed.settlement (p : Processed) (isPublished : Bool) : Settlement :=
  match p.result with
  | none => .reject
  | some _ => settlementAfter isPublished

/-- What is seen of deliveries. -/
structure Tally where
  fetched : List String := []
  published : List (String × List UInt8) := []
  settled : List (Nat × Settlement) := []

/-- What was seen, by the log. -/
def tallyOf (log : List Entry) : Tally :=
  ⟨Report.fetchedIn log, Report.publishedIn log, Report.settledIn log⟩

/-- The same is seen, but for the order. -/
structure Tally.Perm (t u : Tally) : Prop where
  fetched : t.fetched.Perm u.fetched
  published : t.published.Perm u.published
  settled : t.settled.Perm u.settled

theorem Tally.Perm.symm {t u : Tally} (h : t.Perm u) : u.Perm t :=
  ⟨h.fetched.symm, h.published.symm, h.settled.symm⟩

theorem Tally.Perm.trans {t u v : Tally} (h : t.Perm u) (g : u.Perm v) : t.Perm v :=
  ⟨h.fetched.trans g.fetched, h.published.trans g.published, h.settled.trans g.settled⟩

/-- What is seen when deliveries are processed one after another, numbered from a number on. -/
def processAll (fetch : String → Except FetchError String) (now : Moment) (queue : String)
    (isPublished : Bool) : Nat → List (List UInt8) → Tally
  | _, [] => {}
  | tag, payload :: rest =>
    let p := process fetch now payload
    let t := processAll fetch now queue isPublished (tag + 1) rest
    { fetched := p.fetched ++ t.fetched
      published := p.publications queue isPublished ++ t.published
      settled := (tag, p.settlement isPublished) :: t.settled }

section

variable (fetch : String → Except FetchError String) (now : Moment) (queue : String)
  (isPublished : Bool)

theorem processAll_fetched (tag : Nat) (ps : List (List UInt8)) :
    (processAll fetch now queue isPublished tag ps).fetched =
      (ps.zipIdx tag).flatMap fun p => (process fetch now p.1).fetched := by
  induction ps generalizing tag with
  | nil => rfl
  | cons payload rest ih => simp [processAll, ih]

theorem processAll_published (tag : Nat) (ps : List (List UInt8)) :
    (processAll fetch now queue isPublished tag ps).published =
      (ps.zipIdx tag).flatMap fun p =>
        (process fetch now p.1).publications queue isPublished := by
  induction ps generalizing tag with
  | nil => rfl
  | cons payload rest ih => simp [processAll, ih]

theorem processAll_settled (tag : Nat) (ps : List (List UInt8)) :
    (processAll fetch now queue isPublished tag ps).settled =
      (ps.zipIdx tag).flatMap fun p =>
        [(p.2, (process fetch now p.1).settlement isPublished)] := by
  induction ps generalizing tag with
  | nil => rfl
  | cons payload rest ih => simp [processAll, ih]

end

/-! ## Parts of the log -/

namespace Event

/-- The page that an event asks for. -/
def fetched? : Event → Option String
  | .fetched _ _ url => some url
  | _ => none

/-- The result that an event publishes, with its queue. -/
def published? : Event → Option (String × List UInt8)
  | .published _ _ queue body => some (queue, body)
  | _ => none

/-- The delivery that an event settles, and how. -/
def settled? : Event → Option (Nat × Settlement)
  | .settled _ tag how _ => some (tag, how)
  | _ => none

/-- Whether an event may be seen when all results can be published, or when none can. -/
def agreesWith (isPublished : Bool) : Event → Bool
  | .published .. => isPublished
  | .refused .. => !isPublished
  | _ => true

end Event

theorem perm_filterMap_events {β : Type} (f : Event → Option β) (log : List Entry) :
    (log.filterMap fun entry => f entry.event).Perm ((events log).filterMap f) := by
  rw [events, ← List.map_reverse, List.filterMap_map]
  exact (List.reverse_perm log).symm.filterMap _

theorem fetchedIn_perm (log : List Entry) :
    (Report.fetchedIn log).Perm ((events log).filterMap Event.fetched?) :=
  perm_filterMap_events Event.fetched? log

theorem publishedIn_perm (log : List Entry) :
    (Report.publishedIn log).Perm ((events log).filterMap Event.published?) :=
  perm_filterMap_events Event.published? log

theorem settledIn_perm (log : List Entry) :
    (Report.settledIn log).Perm ((events log).filterMap Event.settled?) :=
  perm_filterMap_events Event.settled? log

/-- What is kept of a list is what is kept of its parts, one for each key. -/
theorem filterMap_perm_flatMap {α β κ : Type} [DecidableEq κ] (key : α → Option κ)
    (f : α → Option β) {keys : List κ} (hn : keys.Nodup) (l : List α)
    (hk : ∀ a ∈ l, f a ≠ none → ∃ k ∈ keys, key a = some k) :
    (l.filterMap f).Perm (keys.flatMap fun k => (l.filter (key · == some k)).filterMap f) := by
  induction keys generalizing l with
  | nil =>
      have hnil : l.filterMap f = [] := by
        apply List.filterMap_eq_nil_iff.mpr
        intro a ha
        apply Decidable.byContradiction
        intro hne
        obtain ⟨k, hk, -⟩ := hk a ha hne
        cases hk
      rw [hnil]
      exact List.Perm.refl _
  | cons k keys ih =>
      obtain ⟨hnot, hn⟩ := List.nodup_cons.mp hn
      have hsplit : (l.filterMap f).Perm
          ((l.filter (key · == some k)).filterMap f ++
            (l.filter fun a => !(key a == some k)).filterMap f) := by
        rw [← List.filterMap_append]
        exact (List.filter_append_perm _ l).symm.filterMap f
      have hrest : ∀ a ∈ (l.filter fun a => !(key a == some k)), f a ≠ none →
          ∃ j ∈ keys, key a = some j := by
        intro a ha hne
        obtain ⟨hm, hk'⟩ := List.mem_filter.mp ha
        obtain ⟨j, hj, he⟩ := hk a hm hne
        rcases List.mem_cons.mp hj with rfl | hj
        · simp [he] at hk'
        · exact ⟨j, hj, he⟩
      have hparts : ∀ j ∈ keys,
          (l.filter fun a => !(key a == some k)).filter (key · == some j) =
            l.filter (key · == some j) := by
        intro j hj
        rw [List.filter_filter]
        apply List.filter_congr
        intro a _
        have hne : j ≠ k := fun he => hnot (he ▸ hj)
        cases he : (key a == some j) with
        | false => rfl
        | true => simp [beq_iff_eq.mp he, hne]
      rw [List.flatMap_cons]
      refine hsplit.trans (List.Perm.append_left _ ((ih hn _ hrest).trans ?_))
      rw [List.flatMap_congr fun j hj => by rw [hparts j hj]]

/-! ## Deliveries that are done with -/

section

variable {c : Setup} {fetch : String → Except FetchError String} {session tag : Nat}
  {payload : List UInt8} {es : List Event} {b : Bool}

theorem process_of_decode? {job : Job} (now : Moment) (hd : Job.decode? payload = some job) :
    process fetch now payload = ⟨(visit fetch job.url).fetched,
      some ⟨job.id, (visit fetch job.url).outcome.metadata, now⟩⟩ := by
  simp [process, hd]

theorem filterMap_opening {β : Type} {f : Event → Option β} (job : Job)
    (ht : f (.taken session (.delivery tag payload)) = none)
    (hf : ∀ url, f (.fetched session tag url) = none) :
    (opening fetch session tag payload job).filterMap f = [] := by
  simp [opening, ht, List.filterMap_map, hf]

theorem filterMap_fetched?_opening (job : Job) :
    (opening fetch session tag payload job).filterMap Event.fetched? =
      (visit fetch job.url).fetched := by
  have ht : Event.fetched? (.taken session (.delivery tag payload)) = none := rfl
  have hf : (Event.fetched? ∘ fun url => .fetched session tag url) = some := rfl
  rw [opening, List.filterMap_cons_none ht, List.filterMap_map, hf, List.filterMap_some]

/-- A story that has ended tells what processing the delivery on its own does. -/
theorem Story.eq_process (h : Story c fetch session tag payload .finished es)
    (hb : ∀ e ∈ es, e.agreesWith b = true) :
    es.filterMap Event.fetched? = (process fetch c.stamp payload).fetched ∧
      es.filterMap Event.published? =
        (process fetch c.stamp payload).publications c.resultQueue b ∧
      es.filterMap Event.settled? = [(tag, (process fetch c.stamp payload).settlement b)] := by
  cases h with
  | rejected isOk hd =>
      have hp : process fetch c.stamp payload = {} := by simp [process, hd]
      rw [hp]
      refine ⟨rfl, ?_, rfl⟩
      cases b <;> rfl
  | @acked job isOk hd hc =>
      have hpub : b = true :=
        hb (publication c fetch session tag job) (by simp)
      subst hpub
      rw [process_of_decode? _ hd, List.filterMap_append, List.filterMap_append,
        List.filterMap_append, filterMap_fetched?_opening, filterMap_opening job rfl fun _ => rfl,
        filterMap_opening job rfl fun _ => rfl]
      exact ⟨List.append_nil _, rfl, rfl⟩
  | @requeued job isOk hd hc =>
      have hpub : b = false := by
        have := hb (.refused session tag) (by simp)
        simpa [Event.agreesWith] using this
      subst hpub
      rw [process_of_decode? _ hd, List.filterMap_append, List.filterMap_append,
        List.filterMap_append, filterMap_fetched?_opening, filterMap_opening job rfl fun _ => rfl,
        filterMap_opening job rfl fun _ => rfl]
      exact ⟨List.append_nil _, rfl, rfl⟩

theorem Story.eq_finished {stage : Stage} (h : Story c fetch session tag payload stage es)
    (ho : stage.isOver = true) (hc : ∀ url, (c.pages url).content ≠ .crash) :
    stage = .finished := by
  cases h with
  | begun | fetching | extracting | ready | published | refused => cases ho
  | rejected | acked | requeued => rfl
  | crashed hd hcrash => exact absurd hcrash.2 (hc _)

end

/-! ## Runs in which no session ends -/

/-- Whether a move ends no session, nor the consumer. -/
def Move.isQuiet : Move → Bool
  | .input .cancel | .input .drop | .input .close => false
  | _ => true

/-- What holds as long as no session ends: all that was taken was taken in the session that
lasts, and the broker has sent deliveries only. -/
structure Undisturbed (s : System) : Prop where
  isCancelled : s.isCancelled = false
  inbound : ∀ item ∈ s.inbound, item ≠ .lost ∧ item ≠ .closed
  phase : s.phase ≠ .stopped
  taken : ∀ n item, .taken n item ∈ events s.log →
    s.phase.state = .consuming ∧ n = s.session

variable {c : Setup} {s t : System}

/-- A move that takes nothing, and does not leave a session. -/
theorem Undisturbed.congr (h : Undisturbed s) (hc : t.isCancelled = s.isCancelled)
    (hi : ∀ item ∈ t.inbound, item ∈ s.inbound) (hp : t.phase ≠ .stopped)
    (ht : ∀ n item, .taken n item ∈ events t.log → .taken n item ∈ events s.log)
    (hs : s.phase.state = .consuming → t.phase.state = .consuming ∧ t.session = s.session) :
    Undisturbed t := by
  constructor
  · rw [hc, h.isCancelled]
  · exact fun item hm => h.inbound item (hi item hm)
  · exact hp
  · intro n item hm
    obtain ⟨hstate, rfl⟩ := h.taken n item (ht n item hm)
    obtain ⟨hstate, hsession⟩ := hs hstate
    exact ⟨hstate, hsession.symm⟩

/-- Every move keeps it that ends no session. -/
theorem Undisturbed.step (h : Undisturbed s) {m : Move} (hm : Transition c s m t)
    (hq : m.isQuiet = true) : Undisturbed t := by
  cases hm with
  | input i =>
      cases i with
      | cancel | drop | close => cases hq
      | start =>
          rcases input_start s with ⟨hp, he⟩ | ⟨-, he⟩ <;> rw [he]
          · exact h.congr rfl (fun _ => id) (by simp) (fun _ _ => id) (by simp [hp, Phase.state])
          · exact h
      | deliver payload =>
          refine ⟨h.isCancelled, ?_, h.phase, h.taken⟩
          intro item hm
          rcases List.mem_append.mp hm with hm | hm
          · exact h.inbound item hm
          · rw [List.mem_singleton.mp hm]
            exact ⟨by simp, by simp⟩
      | _ => exact h.congr rfl (fun _ => id) h.phase (fun _ _ => id) fun hs => ⟨hs, rfl⟩
  | begin hp =>
      exact h.congr (by simp) (by simp) (by simp) (by simp [mem_events_enter])
        (by simp [hp, Phase.state])
  | stop hc =>
      rw [h.isCancelled] at hc
      cases hc
  | attempt hp =>
      exact h.congr rfl (fun _ => id) (by simp) (by simp) (by simp [hp, Phase.state])
  | connect hp =>
      exact h.congr (by simp) (by simp) (by simp) (by simp [mem_events_enter])
        (by simp [hp, Phase.state])
  | fail hp =>
      exact h.congr (by simp [disconnect]) (by simp [disconnect]) (by simp [disconnect])
        (by simp [disconnect, mem_events_enter]) (by simp [hp, Phase.state])
  | leave => exact h.congr rfl (fun _ => id) (by simp) (fun _ _ => id) fun _ => ⟨rfl, rfl⟩
  | take hp hc hj hl hi =>
      refine ⟨h.isCancelled, ?_, by simp, ?_⟩
      · intro item hm
        exact h.inbound item (by rw [hi]; exact List.mem_cons_of_mem _ hm)
      · intro n item hm
        simp only [log_note, events_cons, List.mem_append, List.mem_singleton] at hm
        rcases hm with hm | hm
        · exact ⟨rfl, (h.taken n item hm).2⟩
        · cases hm
          exact ⟨rfl, rfl⟩
  | finish hp hc hj hl hi he =>
      obtain ⟨hlost, hclosed⟩ := h.inbound _ (by rw [hi]; exact List.mem_cons_self)
      rcases he with he | he
      · exact absurd he hlost
      · exact absurd he hclosed
  | retry hp =>
      exact h.congr (by simp) (by simp) (by simp) (by simp [mem_events_enter])
        (by simp [hp, Phase.state])
  | work hp ha hw =>
      refine h.congr rfl (fun _ => id) (by simp [worked]) ?_ fun _ => ⟨rfl, rfl⟩
      intro n item hm
      rw [log_worked, events_append_log, List.mem_append, List.mem_reverse] at hm
      refine hm.resolve_right fun hm => ?_
      have := hw.item?_eq _ hm
      cases this
  | wait => exact h.congr rfl (fun _ => id) h.phase (fun _ _ => id) fun hs => ⟨hs, rfl⟩

theorem undisturbed_initial : Undisturbed {} :=
  ⟨rfl, nofun, nofun, nofun⟩

/-- It holds of every run in which no session is ended. -/
theorem undisturbed_of_leads (h : Leads c Move.isQuiet s t) (hs : Undisturbed s) :
    Undisturbed t :=
  h.invariant hs fun _ _ _ ht hm hk => ht.step hm hk

/-- Whether all that was sent was taken and all jobs are over. -/
def System.isComplete (s : System) : Bool :=
  s.inbound.isEmpty && s.jobs.all (·.stage.isOver)

variable {fetch : String → Except FetchError String}

/-- In the end, the story of every delivery is over. -/
theorem exists_story_of_isComplete (hf : c.IsAnsweredBy fetch) {ms : List Move}
    (h : System.run? c {} ms = some s) (hu : Undisturbed s) (he : s.isComplete = true)
    {tag : Nat} {payload : List UInt8} (hm : (payload, tag) ∈ (payloads ms).zipIdx 1) :
    ∃ stage, Story c fetch s.session tag payload stage (history s.log tag) ∧
      stage.isOver = true := by
  obtain ⟨hi, hj⟩ : s.inbound = [] ∧ ∀ r ∈ s.jobs, r.stage.isOver = true := by
    simpa [System.isComplete] using he
  rw [← deliveries_of_run? h, mem_deliveries, hi, List.append_nil] at hm
  obtain ⟨n, htaken⟩ := mem_takenItems.mp hm
  obtain ⟨hstate, rfl⟩ := hu.taken n _ htaken
  obtain ⟨jobs, hp⟩ : ∃ jobs, s.phase = .consuming jobs := by
    cases hp : s.phase <;> rw [hp] at hstate <;> cases hstate
    exact ⟨_, rfl⟩
  have hjobs : s.jobs = jobs := jobs_of_consuming hp
  obtain ⟨stage, hstory, hstage, hlast⟩ := (chronicle_of_run? hf h).story_of_taken hp htaken
  refine ⟨stage, hstory, ?_⟩
  rcases hlast with ho | ⟨r, hr, ht⟩
  · exact ho
  · rw [← (hstage r hr ht).2]
    exact hj r (by rw [hjobs]; exact hr)

theorem story_of_isComplete (hf : c.IsAnsweredBy fetch)
    (hc : ∀ url, (c.pages url).content ≠ .crash) {ms : List Move}
    (h : System.run? c {} ms = some s) (hu : Undisturbed s) (he : s.isComplete = true)
    {tag : Nat} {payload : List UInt8} (hm : (payload, tag) ∈ (payloads ms).zipIdx 1) :
    Story c fetch s.session tag payload .finished (history s.log tag) := by
  obtain ⟨stage, hstory, ho⟩ := exists_story_of_isComplete hf h hu he hm
  rwa [hstory.eq_finished ho hc] at hstory

/-- What was seen is what was seen of each delivery. -/
theorem filterMap_events_perm (hf : c.IsAnsweredBy fetch) {ms : List Move}
    (h : System.run? c {} ms = some s) {β : Type} {f : Event → Option β}
    (hd : ∀ e, f e ≠ none → e.delivery? ≠ none)
    {g : List UInt8 × Nat → List β}
    (hg : ∀ p ∈ (payloads ms).zipIdx 1, (history s.log p.2).filterMap f = g p) :
    ((events s.log).filterMap f).Perm (((payloads ms).zipIdx 1).flatMap g) := by
  have hn : (((payloads ms).zipIdx 1).map Prod.snd).Nodup := by
    rw [List.zipIdx_map_snd]
    exact List.nodup_range'
  have hk : ∀ e ∈ events s.log, f e ≠ none →
      ∃ tag ∈ ((payloads ms).zipIdx 1).map Prod.snd, e.delivery? = some tag := by
    intro e hm hne
    obtain ⟨tag, ht⟩ := Option.ne_none_iff_exists'.mp (hd e hne)
    have hh : history s.log tag ≠ [] := List.ne_nil_of_mem (mem_history.mpr ⟨hm, ht⟩)
    obtain ⟨payload, hp⟩ := (chronicle_of_run? hf h).exists_mem_takenItems hh
    refine ⟨tag, List.mem_map.mpr ⟨(payload, tag), ?_, rfl⟩, ht⟩
    rw [← deliveries_of_run? h, mem_deliveries]
    exact List.mem_append_left _ hp
  refine (filterMap_perm_flatMap Event.delivery? f hn _ hk).trans ?_
  rw [List.flatMap_map]
  exact List.Perm.of_eq (List.flatMap_congr hg)

/-- A run that ends no session, in which publishing goes one way, and that has come to its
end. -/
structure Completes (c : Setup) (b : Bool) (ms : List Move) (s : System) : Prop where
  run : System.run? c {} ms = some s
  isQuiet : ∀ m ∈ ms, m.isQuiet = true
  agrees : ∀ e ∈ events s.log, e.agreesWith b = true
  isComplete : s.isComplete = true

/-- What a run comes to is what processing its deliveries one after another comes to, but for
the order. -/
theorem Completes.perm_processAll (hf : c.IsAnsweredBy fetch)
    (hc : ∀ url, (c.pages url).content ≠ .crash) {b : Bool} {ms : List Move}
    (h : Completes c b ms s) :
    (tallyOf s.log).Perm (processAll fetch c.stamp c.resultQueue b 1 (payloads ms)) := by
  have hu := undisturbed_of_leads ⟨ms, h.isQuiet, h.run⟩ undisturbed_initial
  have heq : ∀ p ∈ (payloads ms).zipIdx 1, _ := fun p hp =>
    (story_of_isComplete hf hc h.run hu h.isComplete hp).eq_process fun e hm =>
      h.agrees e (mem_history.mp hm).1
  constructor
  · rw [processAll_fetched]
    refine (fetchedIn_perm _).trans
      (filterMap_events_perm hf h.run ?_ fun p hp => (heq p hp).1)
    intro e
    cases e <;> simp [Event.fetched?, Event.delivery?]
  · rw [processAll_published]
    refine (publishedIn_perm _).trans
      (filterMap_events_perm hf h.run ?_ fun p hp => (heq p hp).2.1)
    intro e
    cases e <;> simp [Event.published?, Event.delivery?]
  · rw [processAll_settled]
    refine (settledIn_perm _).trans
      (filterMap_events_perm hf h.run ?_ fun p hp => (heq p hp).2.2)
    intro e
    cases e <;> simp [Event.settled?, Event.delivery?]

end LinkPreview.Queue
