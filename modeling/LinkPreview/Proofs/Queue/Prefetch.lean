import Mathlib.Data.List.DropRight
import Mathlib.Data.List.Infix
import LinkPreview.Proofs.Queue.Outcomes
import LinkPreview.Proofs.Queue.Pool
import LinkPreview.Proofs.Queue.Sessions
import LinkPreview.Proofs.Settings

/-!
# The prefetch limit and the pool

The broker is asked to leave a limited number of unsettled deliveries with the client, and the
consumer runs a limited number of jobs at once. Both limits come from the number of workers. The
first one has to be a number of sixteen bits, where zero would stand for no limit, so it is not
always the second one, but it never exceeds it and is never zero.

So a broker that keeps to its limit never sends more than the pool has places for: each delivery of
a session that is unsettled either waits to be taken or, as long as its job has a place, holds one.

## Implementation notes

A session is a stretch of what the broker sends in which no end is (`IsWithinSession`). What was
taken and what waits to be taken are one list, which only grows at its end, so what a broker that
keeps to its limit preserves is said of all stretches of this list (`Allowance.Keeps`).
-/

namespace LinkPreview

theorem short?_getD (n : Nat) : (short? n).getD shortMax = min n shortMax := by
  unfold short?
  split <;> rename_i h
  · exact (Nat.min_eq_left h).symm
  · exact (Nat.min_eq_right (Nat.le_of_not_le h)).symm

example : (short? 65536).getD shortMax = 65535 := by decide

namespace Queue

open LinkPreview.Queue.System

variable {c : Setup} {s t : System}

/-! ## A broker that keeps to a limit -/

/-- How many deliveries of a session a broker leaves unsettled, where zero is no limit, and which
calls to settle a delivery come to it although they fail. -/
structure Allowance where
  size : Nat
  arrives : Nat → Bool

/-- What was sent since a session ended last. -/
def sinceEnd (items : List Inbound) : List Inbound :=
  items.rtakeWhile (!·.isEnd)

/-- What waits to be taken over the session at hand. -/
def System.handed (s : System) : List Inbound :=
  s.inbound.takeWhile (!·.isEnd)

/-- The delivery that a job is about. -/
def Running.item (r : Running) : Inbound :=
  .delivery r.tag r.payload

namespace Allowance

variable (a : Allowance)

/-- Whether a delivery is settled at the broker. -/
def isSettled (log : List Entry) (tag : Nat) : Bool :=
  (events log).any fun
    | .settled _ other _ isOk => other == tag && (isOk || a.arrives tag)
    | _ => false

/-- Whether an item is a delivery that is not settled at the broker. -/
def isUnsettled (log : List Entry) : Inbound → Bool
  | .delivery tag _ => !a.isSettled log tag
  | .lost | .closed => false

/-- How many deliveries are unsettled that were sent since a session ended last. -/
def unsettled (s : System) : Nat :=
  (sinceEnd (takenItems s.log ++ s.inbound)).countP (a.isUnsettled s.log)

/-- The jobs whose deliveries are not settled at the broker. -/
def openJobs (s : System) : List Running :=
  s.jobs.filter fun r => a.isUnsettled s.log r.item

/-- Whether a broker that keeps to its limit may be part of a move. -/
def permits (s : System) : Move → Bool
  | .input (.deliver _) => a.size == 0 || a.unsettled s < a.size
  | _ => true

/-- What the system becomes by a move, with a broker that keeps to its limit. -/
def step? (c : Setup) (s : System) (m : Move) : Option System :=
  if a.permits s m then s.step? c m else none

/-- What the system becomes by moves, with a broker that keeps to its limit. -/
def run? (c : Setup) (s : System) (ms : List Move) : Option System :=
  ms.foldlM (a.step? c) s

end Allowance

variable {a : Allowance}

theorem Allowance.step?_eq_some_iff {m : Move} :
    a.step? c s m = some t ↔ a.permits s m = true ∧ s.step? c m = some t := by
  simp [Allowance.step?]

theorem Allowance.run?_concat {ms : List Move} {m : Move} :
    a.run? c s (ms ++ [m]) = (a.run? c s ms).bind (a.step? c · m) := by
  simp [Allowance.run?]

/-- What holds at first and is kept by every move that a broker permits holds of every run. -/
theorem Allowance.run?_induction {P : List Move → System → Prop} (hnil : P [] s)
    (hstep : ∀ ms m t u, P ms t → a.permits t m = true → t.step? c m = some u → P (ms ++ [m]) u)
    {ms : List Move} (h : a.run? c s ms = some t) : P ms t := by
  induction ms using List.reverseRecOn generalizing t with
  | nil =>
      cases h
      exact hnil
  | append_singleton ms m ih =>
      rw [Allowance.run?_concat] at h
      obtain ⟨u, hu, hm⟩ := Option.bind_eq_some_iff.mp h
      obtain ⟨hpermits, hmove⟩ := Allowance.step?_eq_some_iff.mp hm
      exact hstep ms m u t (ih hu) hpermits hmove

/-- A broker that keeps to a limit does nothing that another one could not do. -/
theorem run?_of_allowance {ms : List Move} (h : a.run? c s ms = some t) :
    s.run? c ms = some t := by
  refine Allowance.run?_induction (P := fun ms t => s.run? c ms = some t) rfl ?_ h
  intro ms m t u ih _ hm
  exact run?_trans ih (by simp [System.run?, hm])

/-! ## What is settled -/

/-- What is settled at the broker stays so. -/
theorem Allowance.isUnsettled_of_transition {m : Move} (h : Transition c s m t) {item : Inbound}
    (hitem : a.isUnsettled t.log item = true) : a.isUnsettled s.log item = true := by
  obtain ⟨later, hlater⟩ := h.exists_later
  cases item with
  | delivery tag payload =>
      rw [isUnsettled, Bool.not_eq_true'] at hitem ⊢
      rw [isSettled, hlater, List.any_append, Bool.or_eq_false_iff] at hitem
      exact hitem.1
  | lost | closed => exact hitem

/-- Nothing settles a delivery of which nothing was seen. -/
theorem Allowance.isSettled_of_history {log : List Entry} {tag : Nat}
    (h : history log tag = []) : a.isSettled log tag = false := by
  rw [isSettled, List.any_eq_false]
  intro e he hsettles
  cases e with
  | settled session other how isOk =>
      obtain ⟨rfl, -⟩ : other = tag ∧ (isOk = true ∨ a.arrives tag = true) := by
        simpa using hsettles
      have hmem : .settled session other how isOk ∈ history log other :=
        mem_history.mpr ⟨he, rfl⟩
      rw [h] at hmem
      cases hmem
  | _ => cases hsettles

/-- No delivery that waits to be taken is settled. -/
theorem Allowance.isUnsettled_of_inbound {ms : List Move} (h : System.run? c {} ms = some s)
    {item : Inbound} (hi : item ∈ s.inbound) (hend : item.isEnd = false) :
    a.isUnsettled s.log item = true := by
  cases item with
  | delivery tag payload =>
      obtain ⟨fetch, hf⟩ := c.exists_isAnsweredBy
      have hhistory :=
        (chronicle_of_run? hf h).history_of_inbound (isNumberedOnce_of_run? h) hi
      rw [isUnsettled, Allowance.isSettled_of_history hhistory]
      rfl
  | lost | closed => cases hend

/-! ## What the broker keeps to -/

/-- Whether no session ends within what the broker sends. -/
def IsWithinSession (items : List Inbound) : Prop :=
  ∀ item ∈ items, item.isEnd = false

/-- Whether no session has more unsettled deliveries than the broker may leave. -/
def Allowance.Keeps (a : Allowance) (s : System) : Prop :=
  ∀ stretch, stretch <:+: takenItems s.log ++ s.inbound → IsWithinSession stretch →
    stretch.countP (a.isUnsettled s.log) ≤ a.size

theorem sinceEnd_suffix (items : List Inbound) : sinceEnd items <:+ items :=
  List.rtakeWhile_suffix _ _

theorem isWithinSession_sinceEnd (items : List Inbound) : IsWithinSession (sinceEnd items) := by
  intro item hm
  simpa using List.mem_rtakeWhile_imp hm

theorem sinceEnd_concat (items : List Inbound) (tag : Nat) (payload : List UInt8) :
    sinceEnd (items ++ [.delivery tag payload]) = sinceEnd items ++ [.delivery tag payload] :=
  List.rtakeWhile_concat_pos _ _ _ rfl

/-- What was sent since a session ended last is the longest stretch within it at the end. -/
theorem IsWithinSession.suffix_sinceEnd {items stretch : List Inbound}
    (h : IsWithinSession stretch) (hs : stretch <:+ items) : stretch <:+ sinceEnd items := by
  obtain ⟨before, rfl⟩ := hs
  have hall : ∀ item ∈ stretch.reverse, (!item.isEnd) = true := by
    intro item hm
    simp [h item (List.mem_reverse.mp hm)]
  rw [sinceEnd, List.rtakeWhile, List.reverse_append, List.takeWhile_append_of_pos hall,
    List.reverse_append, List.reverse_reverse]
  exact List.suffix_append _ _

/-- A move makes the broker send nothing, or one item: the end of a session or a delivery. -/
theorem Move.items_eq (m : Move) (sent : Nat) :
    m.items sent = [] ∨ ∃ item, m.items sent = [item] ∧
      (item.isEnd = true ∨ ∃ payload, m = .input (.deliver payload)) := by
  cases m with
  | input i =>
      cases i with
      | deliver payload => exact Or.inr ⟨_, rfl, Or.inr ⟨payload, rfl⟩⟩
      | drop | close => exact Or.inr ⟨_, rfl, Or.inl rfl⟩
      | _ => exact Or.inl rfl
  | _ => exact Or.inl rfl

theorem Allowance.Keeps.step (ha : a.size ≠ 0) (h : a.Keeps s) {m : Move}
    (hp : a.permits s m = true) (hm : Transition c s m t) : a.Keeps t := by
  intro stretch hstretch hwithin
  refine Nat.le_trans (List.countP_mono_left fun _ _ => a.isUnsettled_of_transition hm) ?_
  rw [hm.items_eq] at hstretch
  rcases m.items_eq s.sent with hnil | ⟨item, hone, hitem⟩
  · rw [hnil, List.append_nil] at hstretch
    exact h stretch hstretch hwithin
  · rw [hone, List.infix_concat_iff, List.suffix_concat_iff] at hstretch
    rcases hstretch with (rfl | ⟨rest, rfl, hrest⟩) | hstretch
    · exact Nat.zero_le _
    · -- The new item is the last one of the session, so it is a delivery that was permitted.
      have hopen := hwithin item (by simp)
      rcases hitem with hend | ⟨payload, rfl⟩
      · rw [hend] at hopen
        cases hopen
      · have hroom : a.unsettled s < a.size := by
          simpa [permits, ha] using hp
        have hsuffix : rest <:+ sinceEnd (takenItems s.log ++ s.inbound) :=
          IsWithinSession.suffix_sinceEnd (fun i hi => hwithin i (by simp [hi])) hrest
        have hle : rest.countP (a.isUnsettled s.log) ≤ a.unsettled s :=
          hsuffix.sublist.countP_le
        have hlast : [item].countP (a.isUnsettled s.log) ≤ 1 := List.countP_le_length
        rw [List.countP_append]
        omega
    · exact h stretch hstretch hwithin

/-- A broker that keeps to its limit has kept to it whenever one looks. -/
theorem Allowance.keeps_of_run? (ha : a.size ≠ 0) {ms : List Move}
    (h : a.run? c {} ms = some s) : a.Keeps s := by
  refine Allowance.run?_induction (P := fun _ s => a.Keeps s) ?_ ?_ h
  · intro stretch hstretch _
    obtain rfl : stretch = [] := List.infix_nil.mp hstretch
    exact Nat.zero_le _
  · intro ms m t u ih hpermits hm
    exact ih.step ha hpermits (transition_of_step? hm)

/-- A broker that keeps to its limit counts no more unsettled deliveries of the session at hand. -/
theorem Allowance.Keeps.unsettled_le (h : a.Keeps s) : a.unsettled s ≤ a.size :=
  h _ (sinceEnd_suffix _).isInfix (isWithinSession_sinceEnd _)

/-! ## What the jobs are about -/

/-- Whether the jobs are about deliveries that were taken since a session ended last, in the order
in which they were taken. -/
def IsRecent (s : System) : Prop :=
  (s.jobs.map Running.item).Sublist (sinceEnd (takenItems s.log))

theorem isRecent_of_jobs (h : s.jobs = []) : IsRecent s := by
  rw [IsRecent, h]
  exact List.nil_sublist _

theorem IsRecent.congr (h : IsRecent s) (hl : takenItems t.log = takenItems s.log)
    (hj : (t.jobs.map Running.item).Sublist (s.jobs.map Running.item)) : IsRecent t := by
  rw [IsRecent, hl]
  exact hj.trans h

theorem IsRecent.step (h : IsRecent s) {m : Move} (hm : Transition c s m t) : IsRecent t := by
  cases hm with
  | input i =>
      obtain ⟨-, -, hj⟩ := input_session (s := s) i
      exact h.congr (by rw [(input_items i).2.1]) (by rw [hj])
  | begin | stop | retry | connect => exact isRecent_of_jobs (by simp [System.jobs])
  | attempt => exact isRecent_of_jobs rfl
  | fail | finish => exact isRecent_of_jobs (by simp [System.jobs, disconnect])
  | @leave as bs r hp =>
      refine h.congr rfl ?_
      rw [jobs_of_consuming hp]
      exact (List.Sublist.append_left (List.sublist_cons_self r bs) as).map _
  | @take jobs tag payload rest hp =>
      have htaken := h.append (List.Sublist.refl [Inbound.delivery tag payload])
      rw [jobs_of_consuming hp] at htaken
      simpa [IsRecent, System.jobs, Event.item?, sinceEnd_concat, Running.item] using htaken
  | work hp _ hw =>
      refine h.congr (by rw [log_worked, hw.takenItems_append]) ?_
      simp [System.jobs, worked, hp, Running.item]
  | wait => exact h.congr rfl (List.Sublist.refl _)

theorem isRecent_of_run? {ms : List Move} (h : System.run? c {} ms = some s) : IsRecent s :=
  run?_induction (P := fun _ s => IsRecent s) (isRecent_of_jobs rfl)
    (fun _ _ _ _ _ ih hm => ih.step hm) h

/-! ## What was sent and needs a place -/

theorem Allowance.countP_of_inbound {ms : List Move} (h : System.run? c {} ms = some s)
    {stretch : List Inbound} (hs : stretch ⊆ s.inbound) (hw : IsWithinSession stretch) :
    stretch.countP (a.isUnsettled s.log) = stretch.length :=
  List.countP_eq_length.mpr fun item hm => a.isUnsettled_of_inbound h (hs hm) (hw item hm)

/-- Of what waits to be taken, no session has more than the broker may leave unsettled. -/
theorem Allowance.length_le_of_inbound (hk : a.Keeps s) {ms : List Move}
    (h : System.run? c {} ms = some s) {stretch : List Inbound} (hs : stretch <:+: s.inbound)
    (hw : IsWithinSession stretch) : stretch.length ≤ a.size := by
  rw [← a.countP_of_inbound h hs.subset hw]
  exact hk stretch (hs.trans (List.suffix_append _ _).isInfix) hw

/-- What waits to be taken over the session at hand and the jobs whose deliveries are unsettled are
together no more than the broker may leave unsettled. -/
theorem Allowance.length_handed_add_openJobs_le (hk : a.Keeps s) {ms : List Move}
    (h : System.run? c {} ms = some s) :
    s.handed.length + (a.openJobs s).length ≤ a.size := by
  have hprefix : s.handed <+: s.inbound := List.takeWhile_prefix _
  have hwithin : IsWithinSession s.handed := by
    intro item hm
    simpa using List.mem_takeWhile_imp hm
  have hhanded := a.countP_of_inbound h hprefix.subset hwithin
  have hjobs : (a.openJobs s).length ≤
      (sinceEnd (takenItems s.log)).countP (a.isUnsettled s.log) := by
    calc (a.openJobs s).length
        = (s.jobs.map Running.item).countP (a.isUnsettled s.log) := by
          rw [List.countP_map, List.countP_eq_length_filter]
          rfl
      _ ≤ _ := (isRecent_of_run? h).countP_le
  -- Both are found in one stretch of what the broker has sent.
  have hinfix : sinceEnd (takenItems s.log) ++ s.handed <:+: takenItems s.log ++ s.inbound := by
    obtain ⟨before, hbefore⟩ := sinceEnd_suffix (takenItems s.log)
    obtain ⟨after, hafter⟩ := hprefix
    refine ⟨before, after, ?_⟩
    rw [← List.append_assoc, hbefore, List.append_assoc, hafter]
  have hle := hk _ hinfix (List.forall_mem_append.mpr ⟨isWithinSession_sinceEnd _, hwithin⟩)
  rw [List.countP_append] at hle
  omega

/-! ## The limits of one service -/

/-- The number of deliveries that the broker is asked to leave unsettled is that of the workers, up
to the largest number of sixteen bits. So it is never zero, which would be no limit, and never more
than the places of the pool. A broker that keeps to it never has the client hold more deliveries
than the pool has places for: those of a session that wait to be taken, with the jobs whose
deliveries are unsettled. Results go to the queue that is declared for them. -/
theorem prefetch_fits_the_pool {lookup : Settings.Lookup} {settings : Settings}
    (h : Settings.read lookup = .ok settings) :
    (Settings.Gives (Settings.WritesNumber wordMax) lookup .previewWorkers 8 settings.workers ∧
      settings.topology.prefetch = min settings.workers 65535) ∧
    settings.topology.prefetch ≠ 0 ∧
    settings.topology.prefetch ≤ max 1 settings.consumer.maxInFlight ∧
    settings.topology.resultQueue = settings.consumer.resultQueue ∧
    ∀ pages stamp arrives ms s,
      Allowance.run? ⟨settings.topology.prefetch, arrives⟩
        (.ofSettings settings.consumer pages stamp) {} ms = some s →
      Allowance.unsettled ⟨settings.topology.prefetch, arrives⟩ s ≤ settings.topology.prefetch ∧
      s.handed.length + (Allowance.openJobs ⟨settings.topology.prefetch, arrives⟩ s).length ≤
        max 1 settings.consumer.maxInFlight ∧
      (∀ stretch, stretch <:+: s.inbound → IsWithinSession stretch →
        stretch.length ≤ max 1 settings.consumer.maxInFlight) ∧
      ∀ session tag queue body, .published session tag queue body ∈ events s.log →
        queue = settings.topology.resultQueue := by
  have hsettles := Settings.read_eq_ok_iff.mp h
  have hprefetch : settings.topology.prefetch = min settings.workers shortMax :=
    short?_getD settings.workers
  have hpos : settings.topology.prefetch ≠ 0 := by
    have hworkers := hsettles.workers_ne_zero
    have hmax : shortMax ≠ 0 := by decide
    rw [hprefetch]
    omega
  have hle : settings.topology.prefetch ≤ max 1 settings.consumer.maxInFlight := by
    rw [hprefetch]
    exact Nat.le_trans (Nat.min_le_left _ _) (Nat.le_max_right _ _)
  refine ⟨⟨hsettles.workers, hprefetch⟩, hpos, hle, rfl, ?_⟩
  intro pages stamp arrives ms s hrun
  have hkeeps := Allowance.keeps_of_run? hpos hrun
  have hfree := run?_of_allowance hrun
  refine ⟨hkeeps.unsettled_le,
    Nat.le_trans (Allowance.length_handed_add_openJobs_le hkeeps hfree) hle, ?_, ?_⟩
  · intro stretch hstretch hwithin
    exact Nat.le_trans (Allowance.length_le_of_inbound hkeeps hfree hstretch hwithin) hle
  · intro session tag queue body hm
    obtain ⟨fetch, hf⟩ := Setup.exists_isAnsweredBy (.ofSettings settings.consumer pages stamp)
    obtain ⟨-, -, -, -, -, hqueue, -⟩ := exists_job_of_published hf hfree hm
    exact hqueue

/-! ### A service with one worker -/

/-- The variables of a service with one worker. -/
def loneLookup : Settings.Lookup := fun name => if name = "PREVIEW_WORKERS" then some "1" else none

/-- The settings of a service with one worker. -/
def loneSettings : Settings :=
  { Settings.defaults with workers := 1 }

theorem read_loneLookup : Settings.read loneLookup = .ok loneSettings := by
  rfl

/-- A delivery that is no job is taken. -/
def takenMoves : List Move :=
  [.input .start, .consumer, .consumer, .consumer, .input (.deliver []), .consumer]

/-- What does not change while the consumer of a service with one worker runs. -/
def loneSetup : Setup :=
  .ofSettings loneSettings.consumer (Setup.uniform .crash).pages (Setup.uniform .crash).stamp

/-- The broker that may leave one delivery unsettled, where calls that fail do not come to it. -/
def loneAllowance : Allowance :=
  ⟨loneSettings.topology.prefetch, fun _ => false⟩

theorem isSome_run?_refillMoves : (loneAllowance.run? loneSetup {}
    (takenMoves ++ [.job 1, .input (.deliver [])])).isSome = true := by
  decide +kernel

/-- The system when a delivery is sent behind one that was dropped. -/
def refilledSystem : System := (loneAllowance.run? _ _ _).get isSome_run?_refillMoves

/-- The broker sends nothing behind a delivery that is unsettled. Once this one is dropped, another
one may wait, while the job of the first one still holds its place. -/
theorem prefetch_fits_the_pool_of_one :
    Settings.read loneLookup = .ok loneSettings ∧
      loneSettings.topology.prefetch = 1 ∧
      loneAllowance.run? loneSetup {} (takenMoves ++ [.input (.deliver [])]) = none ∧
      loneAllowance.run? loneSetup {} (takenMoves ++ [.job 1, .input (.deliver [])]) =
        some refilledSystem ∧
      refilledSystem.jobs.length = 1 ∧ refilledSystem.handed.length = 1 ∧
      refilledSystem.handed.length + (loneAllowance.openJobs refilledSystem).length ≤ 1 := by
  have hrun : loneAllowance.run? loneSetup {} (takenMoves ++ [.job 1, .input (.deliver [])]) =
      some refilledSystem := (Option.some_get _).symm
  have hrefused :
      loneAllowance.run? loneSetup {} (takenMoves ++ [.input (.deliver [])]) = none := by
    decide +kernel
  have hjobs : refilledSystem.jobs.length = 1 := by decide +kernel
  have hhanded : refilledSystem.handed.length = 1 := by decide +kernel
  obtain ⟨⟨-, hprefetch⟩, -, -, -, hfits⟩ := prefetch_fits_the_pool read_loneLookup
  obtain ⟨-, hfit, -, -⟩ := hfits _ _ _ _ _ hrun
  exact ⟨read_loneLookup, hprefetch, hrefused, hrun, hjobs, hhanded, hfit⟩

end Queue

end LinkPreview
