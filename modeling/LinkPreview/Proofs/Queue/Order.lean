import Mathlib.Data.List.Chain
import LinkPreview.Proofs.Queue.Intake

/-!
# The order of events

The log alone tells what the consumer was about when something was seen: which state it
showed, and which session was on. `Fits` says what an event needs to have been seen before it,
and a log is `Orderly` if this holds of all its events. Every run leaves an orderly log, and
what the log tells agrees with the system (`account_of_run?`).

## Implementation notes

Sessions have no name in the events that begin and end them. They are counted by the
beginnings, so an event of the session with a number fits only where so many have begun.
-/

namespace LinkPreview.Queue

open LinkPreview.Queue.System

/-- The session in which an event happens. -/
def Event.session? : Event → Option Nat
  | .taken session _ | .fetched session _ _ | .published session _ _ _ | .refused session _
  | .settled session _ _ _ => some session
  | .state _ | .attempt | .failed => none

/-- The state that an event shows. -/
def Event.state? : Event → Option State
  | .state what => some what
  | _ => none

/-- Whether what was taken ends the session. -/
def Inbound.isEnd : Inbound → Bool
  | lost | closed => true
  | delivery _ _ => false

/-- The states that are shown one after another. -/
def shownStates (es : List Event) : List State :=
  es.filterMap Event.state?

/-- The state that is shown when so much has been seen. -/
def shown (es : List Event) : State :=
  (shownStates es).getLastD .disconnected

/-- How many sessions have begun when so much has been seen. -/
def sessionsBegun (es : List Event) : Nat :=
  es.count (.state .consuming)

/-- The changes of the shown state. -/
inductive State.Next : State → State → Prop where
  | dial : Next .disconnected .connecting
  | connect : Next .connecting .consuming
  | abandon : Next .connecting .disconnected
  | leave : Next .consuming .disconnected

/-- What an event needs to have been seen before it. -/
inductive Fits (es : List Event) : Event → Prop where
  | state {state : State} (h : (shown es).Next state) : Fits es (.state state)
  | attempt (h : shown es = .connecting) : Fits es .attempt
  | failed (h : shown es = .connecting) : Fits es .failed
  | work {e : Event} {session : Nat} (h : e.session? = some session)
      (hs : shown es = .consuming) (hn : sessionsBegun es = session)
      (ho : ∀ item, item.isEnd = true → .taken session item ∉ es) : Fits es e

/-- Every event fits what was seen before it. -/
inductive Orderly : List Event → Prop where
  | nil : Orderly []
  | snoc {es : List Event} {e : Event} (h : Orderly es) (he : Fits es e) : Orderly (es ++ [e])

/-! ## What is shown -/

section

variable {es fs : List Event} {e : Event}

@[simp]
theorem shownStates_append : shownStates (es ++ fs) = shownStates es ++ shownStates fs :=
  List.filterMap_append

@[simp]
theorem shown_concat_state (state : State) : shown (es ++ [.state state]) = state := by
  rw [shown, shownStates_append]
  exact List.getLastD_concat

theorem Event.state?_of_session? {session : Nat} (h : e.session? = some session) :
    e.state? = none := by
  cases e <;> first | rfl | cases h

theorem shownStates_eq_nil (h : e.state? = none) : shownStates [e] = [] := by
  simp [shownStates, h]

theorem shown_concat (h : e.state? = none) : shown (es ++ [e]) = shown es := by
  rw [shown, shownStates_append, shownStates_eq_nil h, List.append_nil, ← shown]

/-- A state that is shown now and was not shown before was seen to begin. -/
theorem state_mem_of_shown_ne (h : shown (es ++ fs) ≠ shown es) :
    .state (shown (es ++ fs)) ∈ fs := by
  rcases List.eq_nil_or_concat (shownStates fs) with hnil | ⟨states, state, hlast⟩
  · simp [shown, hnil] at h
  · have hshown : shown (es ++ fs) = state := by simp [shown, hlast]
    have hmem : state ∈ shownStates fs := by simp [hlast]
    obtain ⟨x, hx, hstate⟩ := List.mem_filterMap.mp hmem
    cases x <;> simp only [Event.state?, Option.some.injEq, reduceCtorEq] at hstate
    rw [hshown, ← hstate]
    exact hx

theorem sessionsBegun_append :
    sessionsBegun (es ++ fs) = sessionsBegun es + sessionsBegun fs :=
  List.count_append

theorem sessionsBegun_concat (h : e ≠ .state .consuming) :
    sessionsBegun (es ++ [e]) = sessionsBegun es := by
  rw [sessionsBegun_append, sessionsBegun, sessionsBegun, List.count_singleton,
    if_neg (by simpa using h), Nat.add_zero]

end

/-! ## Orderly logs -/

theorem Fits.of_session? {es : List Event} {e : Event} (h : Fits es e) {session : Nat}
    (hs : e.session? = some session) :
    shown es = .consuming ∧ sessionsBegun es = session ∧
      ∀ item, item.isEnd = true → .taken session item ∉ es := by
  cases h with
  | state | attempt | failed => cases hs
  | work h hshown hn ho =>
      rw [hs] at h
      cases h
      exact ⟨hshown, hn, ho⟩

namespace Orderly

variable {es before after : List Event} {e : Event}

theorem fits (h : Orderly es) (he : es = before ++ e :: after) : Fits before e := by
  induction h generalizing after with
  | nil => simp at he
  | @snoc es x h hx ih =>
      rcases List.eq_nil_or_concat after with rfl | ⟨rest, z, rfl⟩
      · obtain ⟨rfl, hlast⟩ := List.append_inj' he rfl
        cases hlast
        exact hx
      · have he : es ++ [x] = (before ++ e :: rest) ++ [z] := by simpa using he
        exact ih (List.append_inj' he rfl).1

/-- The shown states change as they may. -/
theorem isChain (h : Orderly es) : (State.disconnected :: shownStates es).IsChain State.Next := by
  induction h with
  | nil => exact .singleton _
  | @snoc es e h he ih =>
      rw [shownStates_append]
      cases he with
      | @state next hn =>
          have hlast : shownStates [.state next] = [next] := rfl
          rw [hlast, ← List.cons_append]
          refine ih.append (.singleton _) ?_
          intro x hx y hy
          rw [List.getLast?_cons, ← List.getLastD_eq_getLast?] at hx
          cases hx
          cases hy
          exact hn
      | attempt | failed =>
          rw [shownStates_eq_nil rfl, List.append_nil]
          exact ih
      | work hs =>
          rw [shownStates_eq_nil (Event.state?_of_session? hs), List.append_nil]
          exact ih

theorem session_le (h : Orderly es) (he : e ∈ es) {session : Nat}
    (hs : e.session? = some session) : session ≤ sessionsBegun es := by
  obtain ⟨before, after, rfl⟩ := List.append_of_mem he
  obtain ⟨-, hn, -⟩ := (h.fits rfl).of_session? hs
  rw [sessionsBegun_append]
  omega

/-- What is seen later is not of earlier sessions. -/
theorem le_session (h : Orderly (before ++ after)) (he : e ∈ after) {session : Nat}
    (hs : e.session? = some session) : sessionsBegun before ≤ session := by
  obtain ⟨mid, rest, rfl⟩ := List.append_of_mem he
  rw [← List.append_assoc] at h
  obtain ⟨-, hn, -⟩ := (h.fits rfl).of_session? hs
  rw [sessionsBegun_append] at hn
  omega

/-- What is seen while no session is on, and later, is of sessions that have not begun. -/
theorem session_lt (h : Orderly (before ++ after)) (hshown : shown before ≠ .consuming)
    (he : e ∈ after) {session : Nat} (hs : e.session? = some session) :
    sessionsBegun before < session := by
  obtain ⟨mid, rest, rfl⟩ := List.append_of_mem he
  rw [← List.append_assoc] at h
  obtain ⟨hnow, hn, -⟩ := (h.fits rfl).of_session? hs
  have hbegin : .state .consuming ∈ mid := by
    have hne : shown (before ++ mid) ≠ shown before := by
      rw [hnow]
      exact hshown.symm
    have hmem := state_mem_of_shown_ne hne
    rwa [hnow] at hmem
  have hpos : 0 < sessionsBegun mid := List.count_pos_iff.mpr hbegin
  rw [sessionsBegun_append] at hn
  omega

/-- What is seen after the end of a session was taken is of later sessions. -/
theorem session_lt_of_end {session : Nat} {item : Inbound}
    (h : Orderly (before ++ .taken session item :: after)) (hend : item.isEnd = true)
    (he : e ∈ after) {later : Nat} (hs : e.session? = some later) : session < later := by
  obtain ⟨-, hsession, -⟩ := (h.fits rfl).of_session? rfl
  obtain ⟨mid, rest, rfl⟩ := List.append_of_mem he
  have hfits : Fits (before ++ .taken session item :: mid) e :=
    h.fits (by rw [List.append_assoc, List.cons_append])
  obtain ⟨-, hn, ho⟩ := hfits.of_session? hs
  have hne : later ≠ session := by
    rintro rfl
    exact ho item hend (by simp)
  rw [sessionsBegun_append] at hn
  omega

/-- What follows upon the end of a session is that no session is on. -/
theorem eq_state_of_end {session : Nat} {item : Inbound}
    (h : Orderly (before ++ .taken session item :: e :: after)) (hend : item.isEnd = true) :
    e = .state .disconnected := by
  obtain ⟨hshown, hsession, -⟩ := (h.fits rfl).of_session? rfl
  have hsplit : before ++ .taken session item :: e :: after =
      (before ++ [.taken session item]) ++ e :: after := by
    simp
  have hfits : Fits (before ++ [.taken session item]) e := h.fits hsplit
  have hnow : shown (before ++ [.taken session item]) = .consuming := by
    rw [shown_concat rfl, hshown]
  cases hfits with
  | state hn =>
      rw [hnow] at hn
      cases hn
      rfl
  | attempt hs | failed hs =>
      rw [hnow] at hs
      cases hs
  | work hs _ hn =>
      have hlt := h.session_lt_of_end hend List.mem_cons_self hs
      rw [sessionsBegun_concat (by simp), hsession] at hn
      omega

end Orderly

/-! ## Runs -/

theorem System.events_enter {s : System} (p : Phase) : events (s.enter p).log =
    events s.log ++ if p.state = s.phase.state then [] else [.state p.state] := by
  unfold enter
  split <;> simp

/-- What the log tells agrees with the system. -/
structure Recorded (s : System) : Prop where
  orderly : Orderly (events s.log)
  shown_eq : shown (events s.log) = s.phase.state
  sessionsBegun_eq : sessionsBegun (events s.log) = s.session

/-- Besides, the end of a session that is on was not taken. -/
structure Account (s : System) : Prop extends Recorded s where
  isOpen : s.phase.state = .consuming → ∀ item, item.isEnd = true →
    .taken s.session item ∉ events s.log

variable {s t : System}

namespace Recorded

/-- Something is seen besides the shown state. -/
theorem note (h : Recorded s) {e : Event} (he : Fits (events s.log) e) (hs : e.state? = none) :
    Recorded (s.note e) := by
  constructor
  · rw [log_note, events_cons]
    exact h.orderly.snoc he
  · rw [log_note, events_cons, shown_concat hs, h.shown_eq, phase_note]
  · rw [log_note, events_cons, sessionsBegun_concat, h.sessionsBegun_eq, session_note]
    rintro rfl
    cases hs

/-- A phase is entered in which no session is on. -/
theorem enter (h : Recorded s) {p : Phase}
    (hp : p.state = s.phase.state ∨ s.phase.state.Next p.state) (hc : p.state ≠ .consuming) :
    Recorded (s.enter p) := by
  have hsame : p.state = s.phase.state → Recorded (s.enter p) := by
    intro he
    have hl : events (s.enter p).log = events s.log := by simp [events_enter, he]
    constructor
    · rw [hl]
      exact h.orderly
    · rw [hl, h.shown_eq, phase_enter, he]
    · rw [hl, h.sessionsBegun_eq, session_enter]
  rcases hp with he | hnext
  · exact hsame he
  · by_cases he : p.state = s.phase.state
    · exact hsame he
    · have hl : events (s.enter p).log = events s.log ++ [.state p.state] := by
        simp [events_enter, he]
      constructor
      · rw [hl]
        refine h.orderly.snoc (.state ?_)
        rwa [h.shown_eq]
      · rw [hl, shown_concat_state, phase_enter]
      · rw [hl, sessionsBegun_concat, h.sessionsBegun_eq, session_enter]
        simpa using hc

theorem away (h : Recorded s) (hp : s.phase.state ≠ .consuming) : Account s :=
  ⟨h, fun hc => absurd hc hp⟩

end Recorded

/-- No session is on after a phase was entered that is outside of all. -/
theorem Recorded.account_enter (h : Recorded s) {p : Phase}
    (hp : p.state = s.phase.state ∨ s.phase.state.Next p.state) (hc : p.state ≠ .consuming) :
    Account (s.enter p) :=
  (h.enter hp hc).away (by rwa [phase_enter])

namespace Account

/-- A move that is not seen. -/
theorem congr (h : Account s) (hl : t.log = s.log) (hp : t.phase.state = s.phase.state)
    (hs : t.session = s.session) : Account t := by
  refine ⟨⟨?_, ?_, ?_⟩, ?_⟩
  · rw [hl]
    exact h.orderly
  · rw [hl, hp, h.shown_eq]
  · rw [hl, hs, h.sessionsBegun_eq]
  · rw [hl, hp, hs]
    exact h.isOpen

/-- What is seen in a session while it is on. -/
theorem fits (h : Account s) (hp : s.phase.state = .consuming) {e : Event}
    (he : e.session? = some s.session) : Fits (events s.log) e :=
  .work he (h.shown_eq.trans hp) h.sessionsBegun_eq (h.isOpen hp)

/-- Something is seen in a session that does not end it. -/
theorem note (h : Account s) (hp : s.phase.state = .consuming) {e : Event}
    (he : e.session? = some s.session) (hi : ∀ item, e.item? = some item → item.isEnd = false) :
    Account (s.note e) := by
  refine ⟨h.toRecorded.note (h.fits hp he) (Event.state?_of_session? he), ?_⟩
  intro _ item hend hm
  rw [log_note, events_cons, List.mem_append, List.mem_singleton] at hm
  rcases hm with hm | hm
  · exact h.isOpen hp item hend hm
  · rw [hi item (by rw [← hm]; rfl)] at hend
    cases hend

end Account

theorem State.eq_or_next_disconnected (state : State) :
    .disconnected = state ∨ state.Next .disconnected := by
  cases state with
  | disconnected => exact Or.inl rfl
  | connecting => exact Or.inr .abandon
  | consuming => exact Or.inr .leave

variable {c : Setup}

/-- A job that moves on is seen to do one thing at most, in the present session. -/
theorem Advance.eq_nil_or_singleton {before : List Running} {r : Running} {stage : Stage}
    {es : List Event} {released : List String} (h : Advance c s before r stage es released) :
    es = [] ∨ ∃ e, es = [e] ∧ e.session? = some s.session ∧ e.item? = none := by
  cases h with
  | refuse | arrive | release | extract => exact Or.inl rfl
  | reject | fetch | publish | fail | ack | requeue => exact Or.inr ⟨_, rfl, rfl, rfl⟩

/-- What is done from outside ends no session, and no job in it. -/
theorem input_session (i : Input) : (s.input i).phase.state = s.phase.state ∧
    (s.input i).session = s.session ∧ (s.input i).jobs = s.jobs := by
  cases i with
  | start =>
      rcases input_start s with ⟨hp, he⟩ | ⟨-, he⟩ <;> rw [he]
      · simp [hp, Phase.state, System.jobs]
      · exact ⟨rfl, rfl, rfl⟩
  | _ => exact ⟨rfl, rfl, rfl⟩

/-- A session begins. -/
theorem Account.connect (h : Account s) {isHeld : Bool} (hp : s.phase = .connecting isHeld)
    (permits : Nat) :
    Account ({ s with connectPermits := permits, session := s.session + 1 }.enter
      (.consuming [])) := by
  have hl : events ({ s with connectPermits := permits, session := s.session + 1 }.enter
      (.consuming [])).log = events s.log ++ [.state .consuming] := by
    simp [events_enter, hp, Phase.state]
  have hshown : shown (events s.log) = .connecting := by
    rw [h.shown_eq, hp]
    rfl
  refine ⟨⟨?_, ?_, ?_⟩, ?_⟩
  · rw [hl]
    exact h.orderly.snoc (.state (by rw [hshown]; exact .connect))
  · rw [hl, shown_concat_state, phase_enter]
    rfl
  · rw [hl, sessionsBegun_append, h.sessionsBegun_eq, session_enter]
    rfl
  · intro _ item _ hm
    rw [hl, session_enter, List.mem_append, List.mem_singleton] at hm
    have hm := hm.resolve_right (by simp)
    have hle := h.orderly.session_le hm rfl
    rw [h.sessionsBegun_eq] at hle
    simp only at hle
    omega

/-- Every move keeps the account. -/
theorem Account.step (h : Account s) {m : Move} (hm : Transition c s m t) : Account t := by
  cases hm with
  | input i =>
      obtain ⟨hp, hs, -⟩ := input_session (s := s) i
      exact h.congr (input_items i).2.1 hp hs
  | begin hp =>
      exact h.toRecorded.account_enter (Or.inr (by rw [hp]; exact .dial)) (by simp [Phase.state])
  | stop =>
      exact h.toRecorded.account_enter s.phase.state.eq_or_next_disconnected
        (by simp [Phase.state])
  | attempt hp hc =>
      have hshown : shown (events s.log) = .connecting := by
        rw [h.shown_eq, hp]
        rfl
      have hu : Account { s with phase := .connecting s.isHolding } :=
        h.congr rfl (by rw [hp]; rfl) rfl
      exact (hu.toRecorded.note (.attempt hshown) rfl).away (by simp [Phase.state])
  | connect hp => exact h.connect hp _
  | @fail _ permits hp hc hh hf =>
      have hshown : shown (events s.log) = .connecting := by
        rw [h.shown_eq, hp]
        rfl
      have hu : Account { s with connectPermits := permits, failures := s.failures - 1 } :=
        h.congr rfl rfl rfl
      refine (hu.toRecorded.note (.failed hshown) rfl).account_enter (Or.inr ?_)
        (by simp [Phase.state])
      rw [phase_note, hp]
      exact .abandon
  | leave hp => exact h.congr rfl (by rw [hp]; rfl) rfl
  | @take jobs tag payload rest hp hc hj hl hi =>
      have hu : Account { s with inbound := rest } := h.congr rfl rfl rfl
      have hnote := hu.note (e := .taken s.session (.delivery tag payload))
        (state_of_consuming hp) rfl (by rintro item ⟨⟩; rfl)
      exact hnote.congr rfl (state_of_consuming hp).symm rfl
  | @finish jobs item rest hp hc hj hl hi he =>
      have hu : Account { s with inbound := rest } := h.congr rfl rfl rfl
      have hnote := hu.toRecorded.note (hu.fits (e := .taken s.session item)
        (state_of_consuming hp) rfl) rfl
      refine hnote.account_enter (Or.inr ?_) (by simp [Phase.state])
      rw [phase_note, state_of_consuming hp]
      exact .leave
  | retry hp =>
      exact h.toRecorded.account_enter (Or.inr (by rw [hp]; exact .dial)) (by simp [Phase.state])
  | @work as bs r stage es released hp ha hw =>
      have hu : Account { s with phase := .consuming (as ++ { r with stage := stage } :: bs),
                                 released := released } :=
        h.congr rfl (by rw [hp]; rfl) rfl
      rcases hw.eq_nil_or_singleton with rfl | ⟨e, rfl, he, hi⟩
      · exact hu
      · exact hu.note rfl he (by simp [hi])
  | wait => exact h.congr rfl rfl rfl

theorem account_initial : Account {} := by
  refine ⟨⟨.nil, rfl, rfl⟩, ?_⟩
  intro hp
  cases hp

/-- Whatever has happened, the log agrees with the system. -/
theorem account_of_run? {ms : List Move} (h : System.run? c {} ms = some s) : Account s :=
  run?_induction (P := fun _ s => Account s) account_initial
    (fun _ _ _ _ _ ih hm => ih.step hm) h

end LinkPreview.Queue
