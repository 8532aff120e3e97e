import LinkPreview.Proofs.Amqp.Single

/-!
# How connections are closed

A program that holds sessions leaves no connection behind. An open connection belongs to a session
that is held. A connection that could not be set up is closed if it was opened and is still there,
and so is that of a session which is ended. Nothing else closes a connection, and nothing closes it
twice: where the broker did nothing but answer, the connection of a session is open as long as the
session is held, and was closed once when it is not.
-/

namespace LinkPreview.Amqp

variable {t : Target} {i k : Nat} {h : Holder} {x : Session} {step : Step} {steps : List Step}

/-- Which connections are open and which were closed after some steps, and what the next step has
to do with it. -/
structure LeaksNothing (t : Target) (steps : List Step) (h : Holder) : Prop where
  /-- Only the connections of sessions that are held are open. -/
  held : ∀ i, h.client.connectionIs i (·.isOpen) = true →
    ∃ x ∈ h.sessions, x.connection = i ∧ x.isHeld = true
  /-- Unless the broker did something else than answer, the connection of a session is open and was
  not closed while the session is held, and was closed once when it is not. -/
  tended : ∀ k x, h.sessions[k]? = some x → ¬h.IsTroubled steps k x →
    if x.isHeld then h.client.connectionIs x.connection (·.isOpen) = true ∧
      closings (conversation h.client.log x.connection) = []
    else h.client.connectionIs x.connection (·.isOpen) = false ∧
      (closings (conversation h.client.log x.connection)).length = 1
  /-- No connection is closed twice, whatever the broker did, and none that is open was closed. -/
  once : ∀ i, (closings (conversation h.client.log i)).length ≤ 1 ∧
    (h.client.connectionIs i (·.isOpen) = true → closings (conversation h.client.log i) = [])
  /-- A connection that cannot be used is closed once if it was opened and is still there; otherwise
  it is not. -/
  abandoned : (h.act t .connect).2 = .done false → h.received t .connect = [] ∨
    IsAbandoned t.topology (h.received t .connect) ∧
      (∀ e ∈ h.received t .connect, e.connection = h.client.connections.length) ∧
      (h.act t .connect).1.client.connectionIs h.client.connections.length (·.isOpen) = false
  /-- To make one that can be used closes nothing. -/
  connected : (h.act t .connect).2 = .done true → IsSetUp t.topology (h.received t .connect)
  /-- When a session is ended, its connection is closed once if it is still there; otherwise it is
  not. -/
  ended : ∀ k x, h.sessions[k]? = some x → x.isHeld = true →
    (h.act t (.endSession k)).1.client.connectionIs x.connection (·.isOpen) = false ∧
    if h.client.connectionIs x.connection (·.isOpen) then
      ∃ fault, h.received t (.endSession k) =
        [⟨x.connection, .closeConnection 200 "consumer session ended", fault⟩]
    else h.received t (.endSession k) = []
  /-- No session is ended twice. -/
  finished : ∀ k x, h.sessions[k]? = some x → x.isHeld = false → h.received t (.endSession k) = []
  /-- Nothing else closes a connection. -/
  others : ∀ step, step ≠ .connect → (∀ k, step ≠ .endSession k) →
    closings (h.received t step) = []
  /-- A connection that is open stays so, unless it is closed or the broker does something to it. -/
  lost : ∀ step i, h.client.connectionIs i (·.isOpen) = true →
    (h.act t step).1.client.connectionIs i (·.isOpen) = true ∨
      (∃ e ∈ h.received t step, e.connection = i ∧
        (e.isAnswered = false ∨ e.method.isClosing = true)) ∨
      ∃ k f x, step = .fail k f ∧ h.sessions[k]? = some x ∧ x.connection = i

namespace Tended

theorem once (hT : Tended t steps h) (i : Nat) :
    (closings (conversation h.client.log i)).length ≤ 1 ∧
      (h.client.connectionIs i (·.isOpen) = true →
        closings (conversation h.client.log i) = []) := by
  rcases hT.closesOnce i with hnone | ⟨hone, hclosed⟩
  · simp [hnone]
  · refine ⟨Nat.le_of_eq hone, fun hopen => ?_⟩
    rw [hclosed] at hopen
    cases hopen

theorem tended (hT : Tended t steps h) (hk : h.sessions[k]? = some x)
    (hn : ¬h.IsTroubled steps k x) :
    if x.isHeld then h.client.connectionIs x.connection (·.isOpen) = true ∧
      closings (conversation h.client.log x.connection) = []
    else h.client.connectionIs x.connection (·.isOpen) = false ∧
      (closings (conversation h.client.log x.connection)).length = 1 := by
  have htends := (hT.tends k x hk).resolve_left hn
  unfold Client.Tends at htends
  split
  · rename_i hheld
    rw [if_pos hheld] at htends
    exact ⟨htends, (hT.once _).2 htends⟩
  · rename_i hheld
    rw [if_neg hheld] at htends
    refine ⟨((hT.closesOnce x.connection).resolve_left fun hnone => ?_).2, htends⟩
    rw [hnone] at htends
    cases htends

theorem abandoned (hf : (h.act t .connect).2 = .done false) : h.received t .connect = [] ∨
    IsAbandoned t.topology (h.received t .connect) ∧
      (∀ e ∈ h.received t .connect, e.connection = h.client.connections.length) ∧
      (h.act t .connect).1.client.connectionIs h.client.connections.length (·.isOpen) = false := by
  have hconnected := connected_act t h
  generalize hact : h.act t .connect = p at hconnected hf ⊢
  cases hconnected with
  | unreached =>
      left
      refine Holder.received_eq ?_
      rw [hact]
      exact (List.append_nil _).symm
  | abandoned hc he =>
      rename_i es
      right
      have hreceived : h.received t .connect = es := Holder.received_eq (by rw [hact]; rfl)
      rw [hreceived]
      exact ⟨he, hc, connectionIs_joined (h.turnedTo none) _ _ _⟩
  | opened => cases hf

theorem connected (hf : (h.act t .connect).2 = .done true) :
    IsSetUp t.topology (h.received t .connect) := by
  have hconnected := connected_act t h
  generalize hact : h.act t .connect = p at hconnected hf
  cases hconnected with
  | unreached | abandoned => cases hf
  | opened hc he =>
      rename_i es
      have hreceived : h.received t .connect = es := Holder.received_eq (by rw [hact]; rfl)
      rwa [hreceived]

theorem ended (hk : h.sessions[k]? = some x) (hheld : x.isHeld = true) :
    (h.act t (.endSession k)).1.client.connectionIs x.connection (·.isOpen) = false ∧
      if h.client.connectionIs x.connection (·.isOpen) then
        ∃ fault, h.received t (.endSession k) =
          [⟨x.connection, .closeConnection 200 "consumer session ended", fault⟩]
      else h.received t (.endSession k) = [] := by
  rcases isClosed_or_eq_of_endSession t h k with ⟨y, hy, -, hc⟩ | ⟨hn, -⟩
  · cases hk.symm.trans hy
    refine ⟨hc.isOpen_eq, ?_⟩
    have hlog := hc.log_eq
    split
    · rename_i hopen
      rw [if_pos hopen] at hlog
      exact ⟨_, Holder.received_eq hlog⟩
    · rename_i hopen
      rw [if_neg hopen] at hlog
      exact Holder.received_eq (by rw [hlog, List.append_nil])
  · rw [hn x hk] at hheld
    cases hheld

theorem finished (hk : h.sessions[k]? = some x) (hheld : x.isHeld = false) :
    h.received t (.endSession k) = [] := by
  rcases isClosed_or_eq_of_endSession t h k with ⟨y, hy, hyheld, -⟩ | ⟨-, he⟩
  · cases hk.symm.trans hy
    rw [hheld] at hyheld
    cases hyheld
  · refine Holder.received_eq ?_
    rw [he, List.append_nil]
    rfl

theorem others (hne : step ≠ .connect) (hend : ∀ k, step ≠ .endSession k) :
    closings (h.received t step) = [] := by
  obtain ⟨i, es, hes, -, -, hclosing⟩ := exists_says_step t hne (h.turnedTo step.session?)
  rw [Holder.received_eq (t := t) (h := h) hes.log_eq]
  exact hclosing hend

theorem lost (step : Step) (ho : h.client.connectionIs i (·.isOpen) = true) :
    (h.act t step).1.client.connectionIs i (·.isOpen) = true ∨
      (∃ e ∈ h.received t step, e.connection = i ∧
        (e.isAnswered = false ∨ e.method.isClosing = true)) ∨
      ∃ k f x, step = .fail k f ∧ h.sessions[k]? = some x ∧ x.connection = i := by
  by_cases hne : step = .connect
  · left
    subst hne
    have hlt : i ≠ h.client.connections.length := by
      obtain ⟨c, hc, -⟩ := (Option.any_eq_true ..).mp ho
      exact Nat.ne_of_lt (List.getElem?_eq_some_iff.mp hc).1
    have hconnected := connected_act t h
    generalize h.act t .connect = p at hconnected
    cases hconnected with
    | unreached => exact ho
    | abandoned | opened =>
        rename_i es _ _
        exact (connectionIs_joined_of_ne (s := h.turnedTo none) hlt _ es _).trans ho
  · by_cases hend : ∃ k, step = .endSession k
    · obtain ⟨k, rfl⟩ := hend
      rcases isClosed_or_eq_of_endSession t h k with ⟨x, -, -, hc⟩ | ⟨-, he⟩
      · by_cases hix : i = x.connection
        · subst hix
          have hlog := hc.log_eq
          rw [if_pos ho] at hlog
          rw [Holder.received_eq hlog]
          exact .inr (.inl ⟨_, List.mem_singleton_self _, rfl, .inr rfl⟩)
        · exact .inl ((hc.isOpen_of_ne i hix).trans ho)
      · rw [he]
        exact .inl ho
    · have hend' : ∀ k, step ≠ .endSession k := fun k hk => hend ⟨k, hk⟩
      obtain ⟨j, es, hes, -, -, -⟩ := exists_says_step t hne (h.turnedTo step.session?)
      rw [Holder.received_eq (t := t) (h := h) hes.log_eq]
      rcases isOpen_step t hne hend' hes.log_eq ho with hopen | ⟨e, he, hei, hea⟩ | hfail
      · exact .inl hopen
      · exact .inr (.inl ⟨e, he, hei, .inl hea⟩)
      · obtain ⟨k, f, rfl, hsession⟩ := hfail
        obtain ⟨_, x, hturn, hx, -, hxi⟩ := Holder.session_turnedTo hsession
        cases hturn
        exact .inr (.inr ⟨k, f, x, rfl, hx, hxi⟩)

end Tended

/-- Whatever the broker does, and whatever is done with how many sessions: the connections that are
open are those of sessions that are held. Each connection that was opened and is still there is
closed exactly once, when its channel could not be set up or when its session is ended; one that is
gone, or was never opened, is not closed. Nor does a client that holds one session at a time close
a connection twice, or go on with one that it closed. -/
theorem connections_do_not_leak (t : Target) (steps : List Step) :
    LeaksNothing t steps (Holder.afterAll t steps) ∧
      ∀ actions, (Client.afterAll t actions).ClosesOnce := by
  have hT := tended_afterAll t steps
  refine ⟨?_, closesOnce_afterAll t⟩
  exact
    { held := hT.held
      tended := fun _ _ hk hn => hT.tended hk hn
      once := hT.once
      abandoned := Tended.abandoned
      connected := Tended.connected
      ended := fun _ _ hk hheld => Tended.ended hk hheld
      finished := fun _ _ hk hheld => Tended.finished hk hheld
      others := fun _ hne hend => Tended.others hne hend
      lost := fun step _ ho => Tended.lost step ho }

/-- The first of these attempts fails, and the session of the second is ended: both connections were
closed once, and none is open. -/
theorem connections_do_not_leak_of_second :
    (Holder.afterAll limitlessAtFirst [.connect, .connect, .endSession 0]).sessions =
        [⟨1, false⟩] ∧
      (∀ i, (Holder.afterAll limitlessAtFirst
        [.connect, .connect, .endSession 0]).client.connectionIs i (·.isOpen) = false) ∧
      ∀ i ∈ [0, 1], (closings (conversation (Holder.afterAll limitlessAtFirst
        [.connect, .connect, .endSession 0]).client.log i)).length = 1 := by
  have hsessions : (Holder.afterAll limitlessAtFirst
      [.connect, .connect, .endSession 0]).sessions = [⟨1, false⟩] := by decide +kernel
  have hanswered : ∀ e ∈ (Holder.afterAll limitlessAtFirst
      [.connect, .connect, .endSession 0]).client.log, e.connection = 1 → e.isAnswered = true := by
    decide +kernel
  have hfirst : (closings (conversation (Holder.afterAll limitlessAtFirst
      [.connect, .connect, .endSession 0]).client.log 0)).length = 1 := by decide +kernel
  obtain ⟨hkeeps, -⟩ :=
    connections_do_not_leak limitlessAtFirst [.connect, .connect, .endSession 0]
  generalize Holder.afterAll limitlessAtFirst [.connect, .connect, .endSession 0] = h at *
  have hcalm : ¬h.IsTroubled [.connect, .connect, .endSession 0] 0 ⟨1, false⟩ := by
    rintro (⟨e, he, hi, hn, -⟩ | ⟨f, hf⟩)
    · rw [hanswered e he hi] at hn
      cases hn
    · simp at hf
  refine ⟨hsessions, fun i => ?_, ?_⟩
  · cases hopen : h.client.connectionIs i (·.isOpen) with
    | false => rfl
    | true =>
        obtain ⟨x, hx, -, hheld⟩ := hkeeps.held i hopen
        rw [hsessions, List.mem_singleton] at hx
        rw [hx] at hheld
        cases hheld
  · have hsecond := hkeeps.tended 0 ⟨1, false⟩ (by rw [hsessions]; rfl) hcalm
    exact List.forall_mem_cons.mpr ⟨hfirst, List.forall_mem_singleton.mpr hsecond.2⟩

end LinkPreview.Amqp
