import LinkPreview.Amqp.Holder
import LinkPreview.Proofs.Amqp.Setup

/-!
# Connections that wear

What happens to a session makes no connection better than it was: none is opened again, and none
gets a channel without being open. A connection that was open stays so, unless the broker does
something to it other than to answer, or the session is ended.
-/

namespace LinkPreview.Amqp

/-- What closes connections, of what a broker received. -/
def closings (log : List Entry) : List Entry :=
  log.filter (·.method.isClosing)

/-- Whether a connection is open that has a channel. -/
def Connection.IsSound (c : Connection) : Prop :=
  c.hasChannel = true → c.isOpen = true

variable {t : Target} {i j k : Nat} {c d : Connection} {es fs log : List Entry}
  {s u : Client} {h : Holder} {x : Session} {step : Step} {steps : List Step}

theorem closings_append (es fs : List Entry) : closings (es ++ fs) = closings es ++ closings fs :=
  List.filter_append es fs

theorem closings_eq_nil (h : ∀ e ∈ es, e.method.isClosing = false) : closings es = [] :=
  List.filter_eq_nil_iff.mpr fun e he => by simp [h e he]

theorem isClosing_of_phase_ne {m : Method} (h : m.phase ≠ .use) : m.isClosing = false := by
  cases m <;> first | rfl | exact absurd rfl h

/-! ## Connections that wear -/

namespace Connection

/-- A connection that was not opened since, nor its channel without it. -/
structure Wears (c d : Connection) : Prop where
  isOpen : d.isOpen = true → c.isOpen = true
  isSound : c.IsSound → d.IsSound

theorem Wears.refl (c : Connection) : c.Wears c :=
  ⟨id, id⟩

theorem Wears.trans {e : Connection} (h : c.Wears d) (h' : d.Wears e) : c.Wears e :=
  ⟨h.isOpen ∘ h'.isOpen, h'.isSound ∘ h.isSound⟩

theorem wears_loseChannel (c : Connection) : c.Wears c.loseChannel :=
  ⟨id, fun _ => (nomatch ·)⟩

theorem wears_lose (c : Connection) : c.Wears c.lose :=
  ⟨(nomatch ·), fun _ => (nomatch ·)⟩

theorem wears_suffer (c : Connection) (f : Fault) : c.Wears (c.suffer f) := by
  cases f with
  | refuse => exact .refl c
  | closeChannel =>
      simp only [suffer]
      split
      · exact wears_loseChannel c
      · exact wears_lose c
  | drop | closeConnection | garbage => exact wears_lose c

theorem wears_bear (c : Connection) (es : List Entry) : c.Wears (c.bear es) :=
  bear_induction (fun d f hd => hd.trans (wears_suffer d f)) (.refl c) es

theorem wears_receive (c : Connection) (tag : Nat) (payload : List UInt8) :
    c.Wears (c.receive tag payload) := by
  unfold receive
  split
  · exact ⟨id, id⟩
  · exact .refl c

theorem wears_giveOut (c : Connection) (rest : List Arrival) :
    c.Wears { c with arrivals := rest } :=
  ⟨id, id⟩

theorem wears_stopConsuming (c : Connection) : c.Wears c.stopConsuming :=
  ⟨id, id⟩

end Connection

/-- A client all of whose connections were there, and wear. -/
def Client.Wears (s u : Client) : Prop :=
  ∀ j d, u.connection? j = some d → ∃ c, s.connection? j = some c ∧ c.Wears d

namespace Client.Wears

theorem refl (s : Client) : s.Wears s :=
  fun _ d hd => ⟨d, hd, .refl d⟩

theorem trans {v : Client} (h : s.Wears u) (h' : u.Wears v) : s.Wears v := by
  intro j e he
  obtain ⟨d, hd, hde⟩ := h' j e he
  obtain ⟨c, hc, hcd⟩ := h j d hd
  exact ⟨c, hc, hcd.trans hde⟩

/-- Only connections count. -/
theorem congr {s' u' : Client} (h : s.Wears u) (hs : s'.connections = s.connections)
    (hu : u'.connections = u.connections) : s'.Wears u' := by
  intro j d hd
  rw [Client.connection?, hu] at hd
  rw [Client.connection?, hs]
  exact h j d hd

theorem isOpen (h : s.Wears u) (hj : u.connectionIs j (·.isOpen) = true) :
    s.connectionIs j (·.isOpen) = true := by
  rw [Client.connectionIs, Option.any_eq_true] at hj ⊢
  obtain ⟨d, hd, ho⟩ := hj
  obtain ⟨c, hc, hcd⟩ := h j d hd
  exact ⟨c, hc, hcd.isOpen ho⟩

theorem isOpen_eq_false (h : s.Wears u) (hj : s.connectionIs j (·.isOpen) = false) :
    u.connectionIs j (·.isOpen) = false := by
  cases ho : u.connectionIs j (·.isOpen) with
  | false => rfl
  | true =>
      rw [h.isOpen ho] at hj
      cases hj

end Client.Wears

theorem wears_update {f : Connection → Connection} (hf : ∀ c : Connection, c.Wears (f c))
    (s : Client) (i : Nat) : s.Wears (s.update i f) := by
  intro j d hd
  rw [connection?_update, Option.map_eq_some_iff] at hd
  obtain ⟨c, hc, rfl⟩ := hd
  refine ⟨c, hc, ?_⟩
  split
  · exact hf c
  · exact .refl c

theorem wears_said (s : Client) (i : Nat) (es : List Entry) : s.Wears (s.said i es) :=
  (wears_update (fun c => c.wears_bear es) s i).congr rfl rfl

theorem wears_close (b : Broker) (i : Nat) (reason : String) (s : Client) :
    s.Wears (s.close b i reason) := by
  rw [close_eq]
  split
  · exact (wears_said s i _).trans (wears_update Connection.wears_lose _ i)
  · exact .refl s

theorem wears_endSession (b : Broker) (s : Client) : s.Wears (s.endSession b) := by
  unfold Client.endSession
  split
  · exact .refl s
  · rename_i i _
    exact (wears_close b i _ { s with session := none }).congr rfl rfl

theorem wears_next (s : Client) : s.Wears s.next.1 := by
  have hupdate (i : Nat) (rest : List Arrival) :
      s.Wears (s.update i ({ · with arrivals := rest })) :=
    wears_update (fun c => c.wears_giveOut rest) s i
  have hgiving := givingOut_next s
  generalize s.next = given at hgiving
  cases hgiving with
  | delivery => exact (hupdate _ _).congr rfl rfl
  | failure => exact hupdate _ _
  | idle => exact .refl s

/-- Unless a further one is made, connections wear. -/
theorem wears_step (t : Target) (hne : step ≠ .connect) (s : Client) :
    s.Wears (s.step t step).1 := by
  cases step with
  | connect => exact absurd rfl hne
  | deliver k tag payload =>
      simp only [Client.step, Client.deliver]
      split
      · exact .refl s
      · exact wears_update (fun c => c.wears_receive tag payload) s _
  | next k => exact wears_next s
  | settle number how =>
      change s.Wears (s.settle t.broker number how).1
      have hsettling := settling_settle t.broker number how s
      generalize s.settle t.broker number how = settled at hsettling
      cases hsettling with
      | unknown => exact .refl s
      | said => exact (wears_said (s.spend number) _ _).congr rfl rfl
      | missed => exact (Client.Wears.refl s).congr rfl rfl
  | publish k queue body =>
      change s.Wears (s.publish t.broker queue body).1
      have hpublishing := publishing_publish t.broker queue body s
      generalize s.publish t.broker queue body = published at hpublishing
      cases hpublishing with
      | said => exact wears_said s _ _
      | missed => exact .refl s
  | fail k fault =>
      simp only [Client.step, Client.act, Client.suffer]
      split
      · exact .refl s
      · split
        · exact wears_update (fun c => c.wears_suffer fault) s _
        · exact .refl s
  | stopConsuming k =>
      simp only [Client.step, Client.act, Client.stopConsuming]
      split
      · exact .refl s
      · exact wears_update Connection.wears_stopConsuming s _
  | endSession k => exact wears_endSession t.broker s

/-! ## Steps -/

/-- What is said in a step is said on a connection in use, and it is for its use, unless the step is
to make a connection. Only to end a session closes anything. -/
theorem exists_says_step (t : Target) (hne : step ≠ .connect) (s : Client) :
    ∃ i es, Says i es s (s.step t step).1 ∧ (∀ e ∈ es, e.method.phase = .use) ∧
      (es = [] ∨ s.Uses i) ∧ ((∀ k, step ≠ .endSession k) → closings es = []) := by
  have hact {a : Action} (ha : a ≠ .connect)
      (hend : (∀ k, step ≠ .endSession k) → a ≠ .endSession) :
      ∃ i es, Says i es s (s.act t a).1 ∧ (∀ e ∈ es, e.method.phase = .use) ∧
        (es = [] ∨ s.Uses i) ∧ ((∀ k, step ≠ .endSession k) → closings es = []) := by
    obtain ⟨i, es, hes, hphase, hi, hclosing⟩ := exists_says_act t ha s
    exact ⟨i, es, hes, hphase, hi, fun h => closings_eq_nil (hclosing (hend h))⟩
  cases step with
  | connect => exact absurd rfl hne
  | deliver k tag payload =>
      simp only [Client.step, Client.deliver]
      split
      · exact ⟨0, [], .refl 0 s, by simp, .inl rfl, fun _ => rfl⟩
      · rename_i i _
        exact ⟨i, [], says_update fun c hc => hc.receive tag payload, by simp, .inl rfl,
          fun _ => rfl⟩
  | next | settle | publish | fail | stopConsuming => exact hact nofun fun _ => nofun
  | endSession k => exact hact nofun fun h => absurd rfl (h k)

theorem connectionIs_update_of_eq {f : Connection → Connection} {p : Connection → Bool}
    (hf : ∀ c, p (f c) = p c) (s : Client) (i j : Nat) :
    (s.update i f).connectionIs j p = s.connectionIs j p := by
  rw [Client.connectionIs, connection?_update, Client.connectionIs]
  cases s.connection? j with
  | none => rfl
  | some c =>
      simp only [Option.map_some, Option.any_some]
      split
      · exact hf c
      · rfl

theorem connectionIs_update_of_ne (hij : j ≠ i) (f : Connection → Connection)
    (p : Connection → Bool) (s : Client) :
    (s.update i f).connectionIs j p = s.connectionIs j p := by
  rw [Client.connectionIs, connection?_update, Client.connectionIs]
  simp [Ne.symm hij]

/-- A connection that is there when something was said on it was not lost, unless the broker did
not answer. -/
theorem isOpen_said (h : s.connectionIs j (·.isOpen) = true) (hes : ∀ e ∈ es, e.connection = i) :
    (s.said i es).connectionIs j (·.isOpen) = true ∨
      ∃ e ∈ es, e.connection = j ∧ e.isAnswered = false := by
  by_cases hij : j = i
  · subst hij
    by_cases ha : ∀ e ∈ es, e.isAnswered = true
    · left
      have hbear : ∀ c : Connection, (c.bear es).isOpen = c.isOpen :=
        fun c => by rw [Connection.bear_of_isAnswered ha]
      exact (connectionIs_update_of_eq hbear s j j).trans h
    · right
      obtain ⟨e, he, hn⟩ : ∃ e ∈ es, e.isAnswered = false := by simpa using ha
      exact ⟨e, he, hes e he, hn⟩
  · exact .inl ((connectionIs_update_of_ne hij _ _ s).trans h)

/-- A connection that was open is open after a step, unless the broker did something to it in this
step, or the step is to end a session. -/
theorem isOpen_step (t : Target) (hne : step ≠ .connect) (hend : ∀ k, step ≠ .endSession k)
    (hlog : (s.step t step).1.log = s.log ++ es) (h : s.connectionIs j (·.isOpen) = true) :
    (s.step t step).1.connectionIs j (·.isOpen) = true ∨
      (∃ e ∈ es, e.connection = j ∧ e.isAnswered = false) ∨
      ∃ k f, step = .fail k f ∧ s.session = some j := by
  cases step with
  | connect => exact absurd rfl hne
  | endSession k => exact absurd rfl (hend k)
  | deliver k tag payload =>
      left
      have hopen (i : Nat) :=
        connectionIs_update_of_eq (f := (·.receive tag payload)) (p := (·.isOpen))
          (fun c => by unfold Connection.receive; split <;> rfl) s i j
      simp only [Client.step, Client.deliver]
      split
      · exact h
      · exact (hopen _).trans h
  | next k =>
      left
      have hopen (i : Nat) (rest : List Arrival) :=
        connectionIs_update_of_eq (f := ({ · with arrivals := rest })) (p := (·.isOpen))
          (fun c => rfl) s i j
      change s.next.1.connectionIs j _ = true
      have hgiving := givingOut_next s
      generalize s.next = given at hgiving
      cases hgiving with
      | delivery | failure => exact (hopen _ _).trans h
      | idle => exact h
  | settle number how =>
      change (s.settle t.broker number how).1.log = _ at hlog
      change (s.settle t.broker number how).1.connectionIs j _ = true ∨ _
      have hsettling := settling_settle t.broker number how s
      generalize s.settle t.broker number how = settled at hsettling hlog
      cases hsettling with
      | unknown => exact .inl h
      | said =>
          cases List.append_cancel_left hlog
          have hspent : (s.spend number).connectionIs j (·.isOpen) = true := h
          exact (isOpen_said hspent (List.forall_mem_singleton.mpr rfl)).imp_right .inl
      | missed => exact .inl h
  | publish k queue body =>
      change (s.publish t.broker queue body).1.log = _ at hlog
      change (s.publish t.broker queue body).1.connectionIs j _ = true ∨ _
      have hpublishing := publishing_publish t.broker queue body s
      generalize s.publish t.broker queue body = published at hpublishing hlog
      cases hpublishing with
      | said =>
          cases List.append_cancel_left hlog
          exact (isOpen_said h (List.forall_mem_singleton.mpr rfl)).imp_right .inl
      | missed => exact .inl h
  | fail k fault =>
      simp only [Client.step, Client.act, Client.suffer]
      split
      · exact .inl h
      · rename_i i hi
        by_cases hij : j = i
        · exact .inr (.inr ⟨k, fault, rfl, hij ▸ hi⟩)
        · left
          split
          · exact (connectionIs_update_of_ne hij _ _ s).trans h
          · exact h
  | stopConsuming k =>
      left
      simp only [Client.step, Client.act, Client.stopConsuming]
      split
      · exact h
      · exact (connectionIs_update_of_eq (f := (·.stopConsuming)) (fun c => rfl) s _ j).trans h

end LinkPreview.Amqp
