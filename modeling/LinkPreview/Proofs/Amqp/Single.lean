import LinkPreview.Proofs.Amqp.Holding

/-!
# One session at a time

A client that holds one session at a time does what a program does that ends its last session when
it has a further one, and to which the broker sends messages under one number after another. So what
is true of all programs with sessions is true of every client.
-/

namespace LinkPreview.Amqp

/-- A client with another session, another publisher and another count of messages. -/
def Client.using (session publisher : Option Nat) (sent : Nat) (s : Client) : Client :=
  { s with session, publisher, sent }

variable {t : Target} {b : Broker} {a p : Option Nat} {i n : Nat} {s : Client} {h : Holder}

/-! ## What depends on connections alone -/

theorem using_using (a a' p p' : Option Nat) (n n' : Nat) (s : Client) :
    (s.using a p n).using a' p' n' = s.using a' p' n' := rfl

theorem send_using (m : Method) :
    (s.using a p n).send b i m = ((s.send b i m).1.using a p n, (s.send b i m).2) := by
  simp only [Client.send, Client.using]
  split <;> rfl

theorem sendAll_using (ms : List Method) :
    (s.using a p n).sendAll b i ms =
      ((s.sendAll b i ms).1.using a p n, (s.sendAll b i ms).2) := by
  induction ms generalizing s with
  | nil => rfl
  | cons m ms ih =>
      rw [sendAll_cons, sendAll_cons, send_using]
      dsimp only
      have hlog : (s.using a p n).log = s.log := rfl
      rw [hlog]
      split
      · exact ih
      · rfl

theorem close_using (reason : String) :
    (s.using a p n).close b i reason = (s.close b i reason).using a p n := by
  unfold Client.close
  rw [send_using]
  have hopen : (s.using a p n).connectionIs i (·.isOpen) = s.connectionIs i (·.isOpen) := rfl
  rw [hopen]
  split <;> rfl

theorem greet_using (addr : Address) :
    (s.using a p n).greet b addr i =
      ((s.greet b addr i).1.using a p n, (s.greet b addr i).2) := by
  unfold Client.greet
  rw [sendAll_using]
  rcases s.sendAll b i (Client.greeting addr) with ⟨s₁, isOk⟩
  cases isOk with
  | false => rfl
  | true =>
      dsimp only
      rw [send_using]
      rcases s₁.send b i (.tuneOk (Limits.agreed addr b.offer)) with ⟨s₂, tuned⟩
      rcases tuned with _ | f
      · dsimp only
        rw [sendAll_using]
      · cases f <;> first | rfl | (dsimp only; rw [sendAll_using])

theorem prepare_using (t : Topology) :
    (s.using a p n).prepare b t i =
      ((s.prepare b t i).1.using a p n, (s.prepare b t i).2) := by
  have hupdate : (s.using a p n).update i ({ · with hasChannel := true }) =
      (s.update i ({ · with hasChannel := true })).using a p n := rfl
  unfold Client.prepare
  rw [hupdate, sendAll_using]
  rcases (s.update i ({ · with hasChannel := true })).sendAll b i (Client.preparation t) with
    ⟨s₁, isOk⟩
  cases isOk <;> rfl

/-- Sets a connection up, or gives it up: whether it can be used. -/
def Client.establish (b : Broker) (addr : Address) (t : Topology) (i : Nat) (s : Client) :
    Client × Bool :=
  match s.greet b addr i with
  | (s, false) => (s.update i (·.lose), false)
  | (s, true) =>
    match s.prepare b t i with
    | (s, false) => (s.close b i "consumer setup failed", false)
    | (s, true) => (s, true)

theorem establish_using (addr : Address) (t : Topology) :
    (s.using a p n).establish b addr t i =
      ((s.establish b addr t i).1.using a p n, (s.establish b addr t i).2) := by
  unfold Client.establish
  rw [greet_using]
  rcases s.greet b addr i with ⟨s₁, isGreeted⟩
  cases isGreeted with
  | false => rfl
  | true =>
      dsimp only
      rw [prepare_using]
      rcases s₁.prepare b t i with ⟨s₂, isPrepared⟩
      cases isPrepared with
      | false => exact Prod.ext (close_using _) rfl
      | true => rfl

/-- A client with a further connection of which nothing is known yet. -/
def Client.joining (s : Client) : Client :=
  { s with connections := s.connections ++ [{}] }

/-- What comes of a further connection. -/
def Client.joinedTo (s : Client) (b : Broker) (addr : Address) (t : Topology) : Client × Bool :=
  s.joining.establish b addr t s.connections.length

theorem joinedTo_using (addr : Address) (t : Topology) :
    (s.using a p n).joinedTo b addr t =
      ((s.joinedTo b addr t).1.using a p n, (s.joinedTo b addr t).2) :=
  establish_using (s := s.joining) addr t

/-- A further connection that can be used takes the place of the one before. -/
theorem dial_eq (addr : Address) (t : Topology) (s : Client) :
    s.dial b addr t =
      if (s.joinedTo b addr t).2 then
        (((s.joinedTo b addr t).1.endSession b).using (some s.connections.length)
          (some s.connections.length) ((s.joinedTo b addr t).1.endSession b).sent, true)
      else ((s.joinedTo b addr t).1, false) := by
  unfold Client.dial Client.joinedTo Client.establish
  change (match s.joining.greet b addr s.connections.length with
    | (_, false) => _
    | (_, true) => _) = _
  rcases s.joining.greet b addr s.connections.length with ⟨s₁, isGreeted⟩
  cases isGreeted with
  | false => rfl
  | true =>
      rcases hprepared : s₁.prepare b t s.connections.length with ⟨s₂, isPrepared⟩
      simp only [hprepared]
      cases isPrepared <;> rfl

theorem settle_using (number : Nat) (how : Queue.Settlement) :
    (s.using a p n).settle b number how =
      ((s.settle b number how).1.using a p n, (s.settle b number how).2) := by
  have hdeliveries : (s.using a p n).deliveries = s.deliveries := rfl
  unfold Client.settle
  rw [hdeliveries]
  cases s.deliveries[number]? with
  | none => rfl
  | some d =>
      have hchannel : (s.using a p n).connectionIs d.connection (·.hasChannel) =
          s.connectionIs d.connection (·.hasChannel) := rfl
      have hsend := send_using (b := b) (a := a) (p := p) (n := n) (i := d.connection)
        (s := s.spend number) (settling d.tag how)
      dsimp only
      rw [hchannel]
      split
      · exact congrArg (fun r : Client × Option Fault => (r.1, true)) hsend
      · rfl

theorem publish_using (queue : String) (body : List UInt8) :
    (s.using a s.publisher n).publish b queue body =
      ((s.publish b queue body).1.using a s.publisher n, (s.publish b queue body).2) := by
  have hpublisher : (s.using a s.publisher n).publisher.filter
      ((s.using a s.publisher n).connectionIs · (·.hasChannel)) =
        s.publisher.filter (s.connectionIs · (·.hasChannel)) := rfl
  unfold Client.publish
  rw [hpublisher]
  cases s.publisher.filter (s.connectionIs · (·.hasChannel)) with
  | none => rfl
  | some i =>
      dsimp only
      rw [send_using]
      rfl

theorem endSession_of_none (hs : s.session = none) : s.endSession b = s := by
  simp [Client.endSession, hs]

theorem endSession_using (s : Client) (p : Option Nat) (n : Nat) :
    (s.using s.session p n).endSession b = (s.endSession b).using none p n := by
  cases hs : s.session with
  | none =>
      rw [endSession_of_none hs]
      rfl
  | some i =>
      have hended : s.endSession b =
          (s.using none s.publisher s.sent).close b i "consumer session ended" := by
        simp [Client.endSession, Client.using, hs]
      rw [hended, close_using, using_using]
      exact close_using (s := s) (a := none) _

/-- What does not depend on the session and the publisher leaves them as they are. -/
theorem session_eq_of_using {α : Type} {f : Client → Client × α}
    (hf : ∀ a p n s, f (s.using a p n) = ((f s).1.using a p n, (f s).2)) (s : Client) :
    (f s).1.session = s.session ∧ (f s).1.publisher = s.publisher :=
  have hsame := hf s.session s.publisher s.sent s
  ⟨congrArg (fun r : Client × α => r.1.session) hsame,
    congrArg (fun r : Client × α => r.1.publisher) hsame⟩

/-! ## Programs in place of clients -/

/-- A holder that has what a client has, and whose last session is that of the client. -/
structure Follows (h : Holder) (s : Client) : Prop where
  client_eq : h.client.using s.session s.publisher s.sent = s
  session_eq : (h.turnedTo (some (h.sessions.length - 1))).session = s.session
  publisher_eq : (h.turnedTo (some (h.sessions.length - 1))).publisher = s.publisher

theorem follows_initial : Follows {} {} :=
  ⟨rfl, rfl, rfl⟩

/-- Apart from its session, its publisher and its count of messages the client is the same. -/
theorem Follows.using_eq (hF : Follows h s) (a p : Option Nat) (n : Nat) :
    h.client.using a p n = s.using a p n := by
  have hsame := congrArg (Client.using a p n) hF.client_eq
  exact hsame

theorem Follows.turnedTo_none (hF : Follows h s) :
    h.turnedTo none = s.using none none h.client.sent :=
  hF.using_eq none none h.client.sent

theorem Follows.turnedTo_eq (hF : Follows h s) :
    h.turnedTo (some (h.sessions.length - 1)) =
      s.using s.session s.publisher h.client.sent := by
  have hturned : h.turnedTo (some (h.sessions.length - 1)) =
      h.client.using (h.turnedTo (some (h.sessions.length - 1))).session
        (h.turnedTo (some (h.sessions.length - 1))).publisher h.client.sent := rfl
  rw [hturned, hF.session_eq, hF.publisher_eq, hF.using_eq]

/-- How many messages there were counts only for the next one, and to use a session changes none. -/
theorem act_using {x : Action} (hc : x ≠ .connect) (hp : ∀ payload, x ≠ .push payload)
    (he : x ≠ .endSession) (s : Client) (n : Nat) :
    (s.using s.session s.publisher n).act t x =
        ((s.act t x).1.using s.session s.publisher n, (s.act t x).2) ∧
      (s.act t x).1.session = s.session ∧ (s.act t x).1.publisher = s.publisher := by
  cases x with
  | connect => exact absurd rfl hc
  | push payload => exact absurd rfl (hp payload)
  | endSession => exact absurd rfl he
  | next =>
      simp only [Client.act, Client.next, Client.using, Client.connection?]
      rcases s.session.bind fun i => (s.connections[i]?).map (i, ·) with _ | ⟨i, c⟩
      · exact ⟨rfl, rfl, rfl⟩
      · dsimp only
        generalize c.arrivals = arrivals
        rcases arrivals with _ | ⟨_ | _, rest⟩ <;> exact ⟨rfl, rfl, rfl⟩
  | settle number how =>
      simp only [Client.act]
      rw [settle_using]
      exact ⟨rfl, session_eq_of_using (fun _ _ _ _ => settle_using number how) s⟩
  | publish queue body =>
      simp only [Client.act]
      rw [publish_using]
      refine ⟨rfl, ?_⟩
      have hpublishing := publishing_publish t.broker queue body s
      generalize s.publish t.broker queue body = published at hpublishing
      cases hpublishing <;> exact ⟨rfl, rfl⟩
  | fail fault =>
      cases hs : s.session with
      | none => simp [Client.act, Client.suffer, Client.using, hs]
      | some i =>
          have hopen : (s.using (some i) s.publisher n).connectionIs i (·.isOpen) =
              s.connectionIs i (·.isOpen) := rfl
          have hsession : (s.using (some i) s.publisher n).session = some i := rfl
          simp only [Client.act, Client.suffer, hs, hsession, hopen]
          split <;> exact ⟨rfl, hs, rfl⟩
  | stopConsuming =>
      cases hs : s.session with
      | none => simp [Client.act, Client.stopConsuming, Client.using, hs]
      | some i => simp [Client.act, Client.stopConsuming, Client.using, Client.update, hs]

/-- What becomes of the client alone leaves the sessions as they are. -/
theorem Follows.of_client (hF : Follows h s) {c u : Client}
    (hc : c.using u.session u.publisher u.sent = u) (hs : u.session = s.session)
    (hp : u.publisher = s.publisher) : Follows { h with client := c } u :=
  ⟨hc, hF.session_eq.trans hs.symm, hF.publisher_eq.trans hp.symm⟩

/-- To use the last session is what the client does. -/
theorem Follows.use (hF : Follows h s) {x : Action} (hc : x ≠ .connect)
    (hp : ∀ payload, x ≠ .push payload) (he : x ≠ .endSession) :
    Follows { h with client := ((h.turnedTo (some (h.sessions.length - 1))).act t x).1 }
        (s.act t x).1 ∧
      ((h.turnedTo (some (h.sessions.length - 1))).act t x).2 = (s.act t x).2 := by
  obtain ⟨hact, hs, hpub⟩ := act_using hc hp he s h.client.sent (t := t)
  rw [hF.turnedTo_eq, hact]
  exact ⟨hF.of_client rfl hs hpub, rfl⟩

/-- A message that comes on the last session comes to the client. -/
theorem Follows.push (hF : Follows h s) (payload : List UInt8) :
    Follows
      { h with
        client := (h.turnedTo (some (h.sessions.length - 1))).deliver (s.sent + 1) payload }
      (s.push payload) := by
  rw [Client.push_eq_deliver, hF.turnedTo_eq]
  unfold Client.deliver Client.using
  cases hs : s.session with
  | none => exact hF.of_client rfl hs.symm rfl
  | some i => exact hF.of_client rfl hs.symm rfl

theorem session_endSession (s : Client) :
    (s.endSession b).session = none ∧ (s.endSession b).publisher = s.publisher := by
  have hsame := endSession_using (b := b) s s.publisher s.sent
  exact ⟨congrArg (·.session) hsame, congrArg (·.publisher) hsame⟩

/-- When the last session ends, that of the client does. -/
theorem Follows.endSession (hF : Follows h s) :
    Follows (h.act t (.endSession (h.sessions.length - 1))).1 (s.endSession t.broker) := by
  obtain ⟨hsession, hpublisher⟩ := session_endSession (b := t.broker) s
  have hact : (h.act t (.endSession (h.sessions.length - 1))).1 =
      ⟨(s.endSession t.broker).using none s.publisher h.client.sent,
        h.sessions.modify (h.sessions.length - 1) ({ · with isHeld := false })⟩ := by
    rw [← endSession_using, ← hF.turnedTo_eq]
    rfl
  have hlast : (h.sessions.modify (h.sessions.length - 1)
      ({ · with isHeld := false }))[h.sessions.length - 1]? =
        (h.sessions[h.sessions.length - 1]?).map ({ · with isHeld := false }) := by
    simp
  rw [hact]
  refine ⟨rfl, ?_, ?_⟩
  · rw [hsession, List.length_modify]
    simp only [Holder.turnedTo, Option.bind_some, hlast]
    cases h.sessions[h.sessions.length - 1]? <;> rfl
  · rw [hpublisher, ← hF.publisher_eq, List.length_modify]
    simp only [Holder.turnedTo, Option.bind_some, hlast]
    cases h.sessions[h.sessions.length - 1]? <;> rfl

/-- To connect is to dial, if somebody listens; otherwise nothing happens. -/
theorem connect_cases (t : Target) :
    (∀ s : Client, s.connect t = (s, false)) ∨
      ∃ addr, ∀ s : Client, s.connect t = s.dial t.broker addr t.topology := by
  cases ha : Address.read? t.address with
  | none => exact .inl fun s => by simp [Client.connect, ha]
  | some addr =>
      cases hl : t.isListening addr.host addr.port && addr.timeout != some 0 with
      | false => exact .inl fun s => by simp only [Client.connect, ha, hl]; rfl
      | true => exact .inr ⟨addr, fun s => by simp only [Client.connect, ha, hl]; rfl⟩

/-- A further session is the last one. -/
theorem follows_append (c : Client) (sessions : List Session) {u : Client}
    (hc : c.using (some i) (some i) u.sent = u) :
    Follows ⟨c, sessions ++ [⟨i, true⟩]⟩ u := by
  have hs : u.session = some i := (congrArg (fun v : Client => v.session) hc).symm
  have hp : u.publisher = some i := (congrArg (fun v : Client => v.publisher) hc).symm
  refine ⟨by rw [hs, hp, hc], ?_, ?_⟩
  · rw [hs]
    simp [Holder.turnedTo]
  · rw [hp]
    simp [Holder.turnedTo]

theorem modify_append_of_lt {α : Type} {l : List α} {k : Nat} (f : α → α) (hk : k < l.length)
    (m : List α) : (l ++ m).modify k f = l.modify k f ++ m := by
  induction l generalizing k with
  | nil => exact absurd hk (Nat.not_lt_zero k)
  | cons x l ih =>
      cases k with
      | zero => rfl
      | succ k => exact congrArg (x :: ·) (ih (Nat.lt_of_succ_lt_succ hk))

/-- The session before a further one is ended. -/
theorem Follows.replace (hF : Follows h s) {u : Client} {j : Nat} (hu : u.session = s.session)
    (hj : s.session = some j) :
    Follows
      (Holder.act t
        ⟨u.using (some i) (some i) n, h.sessions ++ [⟨i, true⟩]⟩
        (.endSession (h.sessions.length - 1))).1
      ((u.endSession t.broker).using (some i) (some i) (u.endSession t.broker).sent) := by
  obtain ⟨_, x, hk, hx, hheld, hxj⟩ := Holder.session_turnedTo (hF.session_eq.trans hj)
  cases hk
  have hlt : h.sessions.length - 1 < h.sessions.length := (List.getElem?_eq_some_iff.mp hx).1
  have hturned : Holder.turnedTo ⟨u.using (some i) (some i) n, h.sessions ++ [⟨i, true⟩]⟩
      (some (h.sessions.length - 1)) = u.using u.session (some x.connection) n := by
    have hlast : (h.sessions ++ [(⟨i, true⟩ : Session)])[h.sessions.length - 1]? = some x :=
      (List.getElem?_append_left hlt).trans hx
    simp only [Holder.turnedTo, Option.bind_some, hlast]
    simp [Client.using, hheld, hu, hj, hxj]
  have hact : (Holder.act t ⟨u.using (some i) (some i) n, h.sessions ++ [⟨i, true⟩]⟩
      (.endSession (h.sessions.length - 1))).1 =
      ⟨(u.endSession t.broker).using none (some x.connection) n,
        h.sessions.modify (h.sessions.length - 1) ({ · with isHeld := false }) ++
          [⟨i, true⟩]⟩ := by
    rw [← endSession_using, ← hturned, ← modify_append_of_lt _ hlt]
    rfl
  rw [hact]
  exact follows_append _ _ rfl

/-- A client that makes a further connection ends the session it had, and so does a program. -/
theorem Follows.connect (hF : Follows h s) :
    (h.act t .connect).2 = .done (s.connect t).2 ∧
      (Follows (h.act t .connect).1 (s.connect t).1 ∨
        Follows ((h.act t .connect).1.act t (.endSession (h.sessions.length - 1))).1
          (s.connect t).1) := by
  have hact : h.act t .connect =
      ({ client := ((h.turnedTo none).connect t).1
         sessions := h.sessionsAfter .connect (.done ((h.turnedTo none).connect t).2) },
        .done ((h.turnedTo none).connect t).2) := rfl
  rw [hact, hF.turnedTo_none]
  rcases connect_cases t with hnone | ⟨addr, hdial⟩
  · rw [hnone, hnone]
    exact ⟨rfl, .inl (hF.of_client rfl rfl rfl)⟩
  · obtain ⟨hs, hp⟩ := session_eq_of_using (f := (·.joinedTo t.broker addr t.topology))
      (fun _ _ _ _ => joinedTo_using addr t.topology) s
    rw [hdial, hdial, dial_eq, dial_eq, joinedTo_using]
    generalize s.joinedTo t.broker addr t.topology = joined at hs hp
    obtain ⟨u, isOk⟩ := joined
    cases isOk with
    | false => exact ⟨rfl, .inl (hF.of_client rfl hs hp)⟩
    | true =>
        refine ⟨rfl, ?_⟩
        have hlength : h.client.connections.length = s.connections.length := by
          have hsame := congrArg (fun v : Client => v.connections.length) hF.client_eq
          exact hsame
        have hsessions : h.sessionsAfter .connect (.done true) =
            h.sessions ++ [⟨s.connections.length, true⟩] := by rw [← hlength]; rfl
        have hfresh : (u.using none none h.client.sent).endSession t.broker =
            u.using none none h.client.sent := endSession_of_none rfl
        simp only [if_true]
        rw [hsessions, hfresh]
        change Follows ⟨u.using (some s.connections.length) (some s.connections.length)
          h.client.sent, _⟩ _ ∨ Follows (Holder.act t ⟨u.using (some s.connections.length)
            (some s.connections.length) h.client.sent, _⟩ _).1 _
        cases hsession : s.session with
        | none =>
            rw [endSession_of_none (hs.trans hsession)]
            exact .inl (follows_append _ _ rfl)
        | some j => exact .inr (hF.replace hs hsession)

/-- What a client does is one step of a program, or two if it makes a further connection. -/
theorem Follows.act (hF : Follows h s) (x : Action) :
    ∃ step : Step, (h.act t step).2 = (s.act t x).2 ∧
      (Follows (h.act t step).1 (s.act t x).1 ∨
        Follows ((h.act t step).1.act t (.endSession (h.sessions.length - 1))).1
          (s.act t x).1) := by
  cases x with
  | connect => exact ⟨.connect, hF.connect⟩
  | push payload =>
      exact ⟨.deliver (h.sessions.length - 1) (s.sent + 1) payload, rfl, .inl (hF.push payload)⟩
  | settle number how =>
      obtain ⟨hs, hp⟩ := session_eq_of_using
        (fun _ _ _ _ => settle_using (b := t.broker) number how) s
      have hact : h.act t (.settle number how) =
          (⟨(s.settle t.broker number how).1.using none none h.client.sent, h.sessions⟩,
            .done (s.settle t.broker number how).2) := by
        change (Holder.mk ((h.turnedTo none).settle t.broker number how).1 h.sessions,
          Effect.done ((h.turnedTo none).settle t.broker number how).2) = _
        rw [hF.turnedTo_none, settle_using]
      refine ⟨.settle number how, ?_, .inl ?_⟩
      · rw [hact]
        rfl
      · rw [hact]
        exact hF.of_client rfl hs hp
  | endSession =>
      exact ⟨.endSession (h.sessions.length - 1), rfl, .inl hF.endSession⟩
  | next =>
      obtain ⟨hu, he⟩ := hF.use (t := t) (x := .next) nofun nofun nofun
      exact ⟨.next (h.sessions.length - 1), he, .inl hu⟩
  | publish queue body =>
      obtain ⟨hu, he⟩ := hF.use (t := t) (x := .publish queue body) nofun nofun nofun
      exact ⟨.publish (h.sessions.length - 1) queue body, he, .inl hu⟩
  | fail fault =>
      obtain ⟨hu, he⟩ := hF.use (t := t) (x := .fail fault) nofun nofun nofun
      exact ⟨.fail (h.sessions.length - 1) fault, he, .inl hu⟩
  | stopConsuming =>
      obtain ⟨hu, he⟩ := hF.use (t := t) (x := .stopConsuming) nofun nofun nofun
      exact ⟨.stopConsuming (h.sessions.length - 1), he, .inl hu⟩

/-- Whatever a client did, a program that holds sessions could have done. -/
theorem exists_follows_afterAll (t : Target) (actions : List Action) :
    ∃ steps, Follows (Holder.afterAll t steps) (Client.afterAll t actions) := by
  induction actions using List.reverseRecOn with
  | nil => exact ⟨[], follows_initial⟩
  | append_singleton actions x ih =>
      obtain ⟨steps, hF⟩ := ih
      have hafter : Client.afterAll t (actions ++ [x]) =
          ((Client.afterAll t actions).act t x).1 := by simp [Client.afterAll]
      rw [hafter]
      obtain ⟨step, -, hone | htwo⟩ := hF.act (t := t) x
      · exact ⟨steps ++ [step], by rwa [Holder.afterAll_concat]⟩
      · refine ⟨steps ++ [step] ++ [.endSession ((Holder.afterAll t steps).sessions.length - 1)],
          ?_⟩
        rwa [Holder.afterAll_concat, Holder.afterAll_concat]

/-- No client closes a connection twice, or goes on with one that it closed. -/
theorem closesOnce_afterAll (t : Target) (actions : List Action) :
    (Client.afterAll t actions).ClosesOnce := by
  obtain ⟨steps, hF⟩ := exists_follows_afterAll t actions
  rw [← hF.client_eq]
  exact (tended_afterAll t steps).closesOnce

end LinkPreview.Amqp
