import LinkPreview.Proofs.Amqp.Wire

/-!
# What a client says on its connections

Everything that a client does, it does on one connection at a time: it says something there, and
what it uses besides stays what it was. `Says` is this relation, and what is done step by step is
put together of it. A connection is in use while a session, the publisher or a delivery needs it,
and while something comes on it.
-/

namespace LinkPreview.Amqp

/-- What the broker received on a connection. -/
def conversation (log : List Entry) (i : Nat) : List Entry :=
  log.filter (·.connection == i)

/-- A connection on which nothing comes and nothing has come that is not given out. -/
structure Connection.IsIdle (c : Connection) : Prop where
  isConsuming_eq : c.isConsuming = false
  arrivals_eq : c.arrivals = []

namespace Connection

variable {c : Connection}

theorem IsIdle.loseChannel (h : c.IsIdle) : c.loseChannel.IsIdle :=
  ⟨rfl, by simp [Connection.loseChannel, h.isConsuming_eq, h.arrivals_eq]⟩

theorem IsIdle.lose (h : c.IsIdle) : c.lose.IsIdle :=
  ⟨rfl, h.loseChannel.arrivals_eq⟩

theorem IsIdle.suffer (h : c.IsIdle) (f : Fault) : (c.suffer f).IsIdle := by
  cases f with
  | refuse => exact h
  | closeChannel =>
      simp only [Connection.suffer]
      split
      · exact h.loseChannel
      · exact h.lose
  | drop | closeConnection | garbage => exact h.lose

theorem IsIdle.bear (h : c.IsIdle) (es : List Entry) : (c.bear es).IsIdle :=
  Connection.bear_induction (fun _ f hc => hc.suffer f) h es

theorem IsIdle.receive (h : c.IsIdle) (tag : Nat) (payload : List UInt8) :
    (c.receive tag payload).IsIdle := by
  rw [Connection.receive, h.isConsuming_eq]
  exact h

theorem IsIdle.stopConsuming (h : c.IsIdle) : c.stopConsuming.IsIdle :=
  ⟨rfl, h.arrivals_eq⟩

end Connection

/-- Whether a client uses a connection: for its session, to publish, or to settle a delivery, or
because something comes or has come on it. -/
inductive Client.Uses (s : Client) (i : Nat) : Prop where
  | session (h : s.session = some i)
  | publisher (h : s.publisher = some i)
  | delivery {d : Delivery} (hd : d ∈ s.deliveries) (h : d.connection = i)
  | arrival {c : Connection} (hc : s.connection? i = some c) (h : ¬c.IsIdle)

/-- A client says something on a connection, and uses no connection that it did not use. -/
structure Says (i : Nat) (es : List Entry) (s t : Client) : Prop where
  log_eq : t.log = s.log ++ es
  connection_eq : ∀ e ∈ es, e.connection = i
  length_eq : t.connections.length = s.connections.length
  uses : ∀ j, t.Uses j → s.Uses j

variable {b : Broker} {i : Nat} {es fs : List Entry} {s t u : Client}

theorem Client.Uses.congr (h : t.Uses i) (hs : t.session = s.session)
    (hp : t.publisher = s.publisher) (hd : t.deliveries = s.deliveries)
    (hc : t.connections = s.connections) : s.Uses i := by
  cases h with
  | session h => exact .session (hs ▸ h)
  | publisher h => exact .publisher (hp ▸ h)
  | delivery hmem h => exact .delivery (hd ▸ hmem) h
  | arrival hconn h =>
      rw [Client.connection?, hc] at hconn
      exact .arrival hconn h

theorem conversation_append (log log' : List Entry) (i : Nat) :
    conversation (log ++ log') i = conversation log i ++ conversation log' i :=
  List.filter_append log log'

theorem conversation_eq_self (h : ∀ e ∈ es, e.connection = i) : conversation es i = es :=
  List.filter_eq_self.mpr fun e he => beq_iff_eq.mpr (h e he)

theorem conversation_eq_nil (h : ∀ e ∈ es, e.connection ≠ i) : conversation es i = [] :=
  List.filter_eq_nil_iff.mpr fun e he => by simp [h e he]

namespace Says

theorem refl (i : Nat) (s : Client) : Says i [] s s where
  log_eq := (List.append_nil _).symm
  connection_eq := by simp
  length_eq := rfl
  uses _ h := h

theorem trans (h : Says i es s t) (h' : Says i fs t u) : Says i (es ++ fs) s u where
  log_eq := by rw [h'.log_eq, h.log_eq, List.append_assoc]
  connection_eq e he := (List.mem_append.mp he).elim (h.connection_eq e) (h'.connection_eq e)
  length_eq := h'.length_eq.trans h.length_eq
  uses j hj := h.uses j (h'.uses j hj)

/-- What is said is found on this connection and on no other. -/
theorem conversation_eq (h : Says i es s t) :
    conversation t.log i = conversation s.log i ++ es := by
  rw [h.log_eq, conversation_append, conversation_eq_self h.connection_eq]

theorem conversation_of_ne (h : Says i es s t) {j : Nat} (hj : j ≠ i) :
    conversation t.log j = conversation s.log j := by
  have hnone : ∀ e ∈ es, e.connection ≠ j := by
    intro e he hej
    exact hj (hej.symm.trans (h.connection_eq e he))
  rw [h.log_eq, conversation_append, conversation_eq_nil hnone, List.append_nil]

end Says

theorem connection?_update (s : Client) (i j : Nat) (f : Connection → Connection) :
    (s.update i f).connection? j =
      (s.connection? j).map fun c => if i = j then f c else c := by
  simp [Client.update, Client.connection?, List.getElem?_modify]

/-- A change that makes nothing come says nothing. -/
theorem says_update {f : Connection → Connection} (hf : ∀ c, c.IsIdle → (f c).IsIdle) :
    Says i [] s (s.update i f) where
  log_eq := (List.append_nil _).symm
  connection_eq := by simp
  length_eq := by simp [Client.update]
  uses j hj := by
    cases hj with
    | session h => exact .session h
    | publisher h => exact .publisher h
    | delivery hd h => exact .delivery hd h
    | arrival hc h =>
        rw [connection?_update, Option.map_eq_some_iff] at hc
        obtain ⟨c, hc, rfl⟩ := hc
        refine .arrival hc fun hidle => h ?_
        split
        · exact hf c hidle
        · exact hidle

theorem says_said (hes : ∀ e ∈ es, e.connection = i) : Says i es s (s.said i es) := by
  have hlog : Says i es s { s with log := s.log ++ es } :=
    ⟨rfl, hes, rfl, fun j hj => hj.congr rfl rfl rfl rfl⟩
  have hbear := says_update (i := i) (s := { s with log := s.log ++ es })
    fun c hc => hc.bear es
  simpa [Client.said, Client.update] using hlog.trans hbear

/-- What is sent is said, whatever the broker does then. -/
theorem says_send (m : Method) :
    Says i [⟨i, m, b.fault? s.log m⟩] s (s.send b i m).1 := by
  rw [send_fst]
  exact says_said (List.forall_mem_singleton.mpr rfl)

theorem exists_says_close (b : Broker) (i : Nat) (reason : String) (s : Client) :
    ∃ es, Says i es s (s.close b i reason) ∧
      es.map (·.method) <+: [.closeConnection 200 reason] := by
  unfold Client.close
  split
  · exact ⟨_, (says_send _).trans (says_update fun c hc => hc.lose), List.prefix_refl _⟩
  · exact ⟨[], .refl i s, List.nil_prefix⟩

/-! ## Actions -/

/-- What changes nothing but what is used says nothing. -/
theorem says_of_uses (hlog : t.log = s.log) (hlength : t.connections.length = s.connections.length)
    (huses : ∀ j, t.Uses j → s.Uses j) : Says i [] s t :=
  ⟨by simp [hlog], by simp, hlength, huses⟩

theorem says_sent (i count : Nat) (s : Client) : Says i [] s { s with sent := count } :=
  says_of_uses rfl rfl fun _ hj => hj.congr rfl rfl rfl rfl

/-- A client uses its session or not; without it, nothing more is used. -/
theorem says_leave (i : Nat) (s : Client) : Says i [] s { s with session := none } :=
  says_of_uses rfl rfl fun _ hj => by
    cases hj with
    | session h => cases h
    | publisher h => exact .publisher h
    | delivery hd h => exact .delivery hd h
    | arrival hc h => exact .arrival hc h

theorem says_next : ∃ i, Says i [] s s.next.1 := by
  have hupdate {i : Nat} (hi : s.session = some i) (f : Connection → Connection) {j : Nat}
      (hj : (s.update i f).Uses j) : s.Uses j := by
    cases hj with
    | session h => exact .session h
    | publisher h => exact .publisher h
    | delivery hd h => exact .delivery hd h
    | arrival hd h =>
        rw [connection?_update, Option.map_eq_some_iff] at hd
        obtain ⟨d, hd, rfl⟩ := hd
        split at h
        · rename_i hij
          exact .session (hij ▸ hi)
        · exact .arrival hd h
  have hgiving := givingOut_next s
  generalize s.next = given at hgiving
  cases hgiving with
  | idle => exact ⟨0, .refl 0 s⟩
  | @failure i _ _ hi =>
      exact ⟨i, says_of_uses rfl (by simp [Client.update]) fun _ hj => hupdate hi _ hj⟩
  | @delivery i _ _ _ _ hi =>
      refine ⟨i, says_of_uses rfl (by simp [Client.update]) fun j hj => ?_⟩
      cases hj with
      | session h => exact .session h
      | publisher h => exact .publisher h
      | delivery hd h =>
          rcases List.mem_append.mp hd with hd | hd
          · exact .delivery hd h
          · rw [List.mem_singleton.mp hd] at h
            exact .session (h ▸ hi)
      | arrival hd h => exact hupdate hi _ (.arrival hd h)

/-- The connection of a session that ends is closed. -/
theorem exists_says_endSession (b : Broker) (s : Client) :
    ∃ i es, Says i es s (s.endSession b) ∧ (∀ e ∈ es, e.method.phase = .use) ∧
      (es = [] ∨ s.session = some i) := by
  unfold Client.endSession
  split
  · exact ⟨0, [], .refl 0 s, by simp, .inl rfl⟩
  · rename_i i hi
    obtain ⟨es, hes, hclose⟩ :=
      exists_says_close b i "consumer session ended" { s with session := none }
    refine ⟨i, es, (says_leave i s).trans hes, fun e he => ?_, .inr hi⟩
    have hmem := hclose.subset (List.mem_map_of_mem (f := (·.method)) he)
    rw [List.mem_singleton.mp hmem]
    rfl

/-- To mark deliveries as spent says nothing. -/
theorem says_spend (i number : Nat) (s : Client) :
    Says i [] s (s.spend number) :=
  says_of_uses rfl rfl fun j hj => by
    cases hj with
    | session h => exact .session h
    | publisher h => exact .publisher h
    | delivery hd h =>
        obtain ⟨k, hk⟩ := List.mem_iff_getElem?.mp hd
        simp only [Client.spend, List.getElem?_modify, Option.map_eq_map,
          Option.map_eq_some_iff] at hk
        obtain ⟨d, hold, rfl⟩ := hk
        refine .delivery (List.mem_of_getElem? hold) ?_
        rw [← h]
        split <;> rfl
    | arrival hc h => exact .arrival hc h

/-- What is said for an action is said on a connection in use, and it is for its use, unless the
action is to make a connection. Only to end a session closes anything. -/
theorem exists_says_act (t : Target) {a : Action} (ha : a ≠ .connect) (s : Client) :
    ∃ i es, Says i es s (s.act t a).1 ∧ (∀ e ∈ es, e.method.phase = .use) ∧
      (es = [] ∨ s.Uses i) ∧ (a ≠ .endSession → ∀ e ∈ es, e.method.isClosing = false) := by
  cases a with
  | connect => exact absurd rfl ha
  | push payload =>
      simp only [Client.act, Client.push]
      split
      · exact ⟨0, [], says_sent 0 _ s, by simp, .inl rfl, by simp⟩
      · rename_i i _
        have hreceive := says_update (i := i) (s := { s with sent := s.sent + 1 })
          fun c hc => hc.receive (s.sent + 1) payload
        exact ⟨i, [], (says_sent i _ s).trans hreceive, by simp, .inl rfl, by simp⟩
  | next =>
      obtain ⟨i, hi⟩ := says_next (s := s)
      exact ⟨i, [], hi, by simp, .inl rfl, by simp⟩
  | settle number how =>
      change ∃ i es, Says i es s (s.settle t.broker number how).1 ∧ _
      have hsettling := settling_settle t.broker number how s
      generalize s.settle t.broker number how = settled at hsettling
      cases hsettling with
      | unknown => exact ⟨0, [], .refl 0 s, by simp, .inl rfl, by simp⟩
      | said hd =>
          rename_i d _ _
          refine ⟨_, _, (says_spend d.connection number s).trans
            (says_said (List.forall_mem_singleton.mpr rfl)), ?_,
            .inr (.delivery (List.mem_of_getElem? hd) rfl), fun _ => ?_⟩
          · cases how <;> simp [settling, Method.phase]
          · cases how <;> simp [settling, Method.isClosing]
      | missed => exact ⟨0, [], says_spend 0 number s, by simp, .inl rfl, by simp⟩
  | publish queue body =>
      change ∃ i es, Says i es s (s.publish t.broker queue body).1 ∧ _
      have hpublishing := publishing_publish t.broker queue body s
      generalize s.publish t.broker queue body = published at hpublishing
      cases hpublishing with
      | said hi =>
          exact ⟨_, _, says_said (List.forall_mem_singleton.mpr rfl),
            List.forall_mem_singleton.mpr rfl, .inr (.publisher hi),
            fun _ => List.forall_mem_singleton.mpr rfl⟩
      | missed => exact ⟨0, [], .refl 0 s, by simp, .inl rfl, by simp⟩
  | fail fault =>
      simp only [Client.act, Client.suffer]
      split
      · exact ⟨0, [], .refl 0 s, by simp, .inl rfl, by simp⟩
      · rename_i i _
        split
        · exact ⟨i, [], says_update fun c hc => hc.suffer fault, by simp, .inl rfl, by simp⟩
        · exact ⟨i, [], .refl i s, by simp, .inl rfl, by simp⟩
  | stopConsuming =>
      simp only [Client.act, Client.stopConsuming]
      split
      · exact ⟨0, [], .refl 0 s, by simp, .inl rfl, by simp⟩
      · rename_i i _
        exact ⟨i, [], says_update fun c hc => hc.stopConsuming, by simp, .inl rfl, by simp⟩
  | endSession =>
      obtain ⟨i, es, hes, hphase, hi⟩ := exists_says_endSession t.broker s
      exact ⟨i, es, hes, hphase, hi.imp_right .session, fun hne => absurd rfl hne⟩

end LinkPreview.Amqp
