import LinkPreview.Proofs.Amqp.Conversation

/-!
# How channels are set up

Every connection that a client ever makes is either set up, each step answered before the next one
is taken, and then used, or it is given up where the setup stopped and not used at all. So what
comes on a connection comes behind the limit of how much may come at once, and what is published on
a channel is confirmed there.
-/

namespace LinkPreview.Amqp

/-- What is said to set up a channel, in this order: the channel is opened, both queues are
declared to survive a restart of the broker, confirms are asked for, and what is given at once is
limited before jobs are consumed. -/
def channelSetup (t : Topology) : List Method :=
  [.openChannel 1, .declareQueue t.jobQueue true, .declareQueue t.resultQueue true,
    .selectConfirms, .limitPrefetch t.prefetch, .consume t.jobQueue clientName]

/-- What is said on a connection whose only channel was set up, with an answer to all of it. -/
inductive IsSetUp (t : Topology) : List Entry → Prop where
  | intro {hello setup : List Entry} (hh : ∀ e ∈ hello, e.method.phase = .negotiation)
      (hm : setup.map (·.method) = channelSetup t)
      (ha : ∀ e ∈ hello ++ setup, e.isAnswered = true) : IsSetUp t (hello ++ setup)

/-- What is said on a connection that was set up and is then used. -/
inductive IsPrepared (t : Topology) : List Entry → Prop where
  | intro {es later : List Entry} (hs : IsSetUp t es) (hl : ∀ e ∈ later, e.method.phase = .use) :
      IsPrepared t (es ++ later)

/-- What is said on a connection that was given up: before its channel was set up, or at the first
step of this that was not answered, behind which the connection is closed if it is still there. -/
inductive IsGivenUp (t : Topology) : List Entry → Prop where
  | early {hello : List Entry} (hh : ∀ e ∈ hello, e.method.phase = .negotiation) :
      IsGivenUp t hello
  | late {hello front closing : List Entry} {last : Entry}
      (hh : ∀ e ∈ hello, e.method.phase = .negotiation)
      (hm : (front ++ [last]).map (·.method) <+: channelSetup t)
      (ha : ∀ e ∈ front, e.isAnswered = true) (hl : last.isAnswered = false)
      (hc : closing.map (·.method) <+: [.closeConnection 200 "consumer setup failed"]) :
      IsGivenUp t (hello ++ front ++ last :: closing)

/-- What is said on a connection that could not be used, by how it ended. -/
inductive IsAbandoned (t : Topology) : List Entry → Prop where
  /-- It was never opened. -/
  | unopened {hello : List Entry} (hh : ∀ e ∈ hello, e.method.phase = .negotiation)
      (hn : ¬∀ e ∈ hello, e.isAnswered = true) : IsAbandoned t hello
  /-- It was lost while its channel was set up. -/
  | lost {hello front : List Entry} {last : Entry}
      (hh : ∀ e ∈ hello, e.method.phase = .negotiation)
      (hm : (front ++ [last]).map (·.method) <+: channelSetup t)
      (ha : ∀ e ∈ hello ++ front, e.isAnswered = true) (hl : last.isAnswered = false)
      (hf : last.fault ≠ some .closeChannel) : IsAbandoned t (hello ++ front ++ [last])
  /-- Only its channel was lost, so it was closed. -/
  | closed {hello front : List Entry} {last closing : Entry}
      (hh : ∀ e ∈ hello, e.method.phase = .negotiation)
      (hm : (front ++ [last]).map (·.method) <+: channelSetup t)
      (ha : ∀ e ∈ hello ++ front, e.isAnswered = true) (hf : last.fault = some .closeChannel)
      (hc : closing.method = .closeConnection 200 "consumer setup failed") :
      IsAbandoned t (hello ++ front ++ [last, closing])

variable {b : Broker} {a : Address} {t : Topology} {c : Connection} {i : Nat}
  {es fs : List Entry} {s u : Client}

theorem Entry.isAnswered_of_closeChannel {e : Entry} (h : e.fault = some .closeChannel) :
    e.isAnswered = false := by
  simp [Entry.isAnswered, h]

theorem IsAbandoned.isGivenUp (h : IsAbandoned t es) : IsGivenUp t es := by
  cases h with
  | unopened hh hn => exact .early hh
  | lost hh hm ha hl hf =>
      exact .late hh hm (List.forall_mem_append.mp ha).2 hl List.nil_prefix
  | closed hh hm ha hf hc =>
      refine .late hh hm (List.forall_mem_append.mp ha).2 (Entry.isAnswered_of_closeChannel hf) ?_
      simp [hc]

/-- What was said on an abandoned connection was not all answered. -/
theorem IsAbandoned.not_isAnswered (h : IsAbandoned t es) : ¬∀ e ∈ es, e.isAnswered = true := by
  cases h with
  | unopened hh hn => exact hn
  | lost hh hm ha hl hf =>
      intro hall
      rw [hall _ (by simp)] at hl
      cases hl
  | closed hh hm ha hf hc =>
      rename_i last _
      intro hall
      have hl : last.isAnswered = true := hall _ (by simp)
      rw [Entry.isAnswered_of_closeChannel hf] at hl
      cases hl

theorem IsPrepared.append (h : IsPrepared t es) (hf : ∀ e ∈ fs, e.method.phase = .use) :
    IsPrepared t (es ++ fs) := by
  obtain ⟨hs, hl⟩ := h
  rw [List.append_assoc]
  exact .intro hs (List.forall_mem_append.mpr ⟨hl, hf⟩)

theorem IsSetUp.isAnswered (h : IsSetUp t es) : ∀ e ∈ es, e.isAnswered = true := by
  obtain ⟨-, -, ha⟩ := h
  exact ha

theorem IsSetUp.isPrepared (h : IsSetUp t es) : IsPrepared t es := by
  simpa using @IsPrepared.intro t es [] h (by simp)

theorem phase_of_mem_channelSetup {m : Method} (hm : m ∈ channelSetup t) : m.phase = .setup := by
  simp only [channelSetup, List.mem_cons, List.not_mem_nil, or_false] at hm
  rcases hm with rfl | rfl | rfl | rfl | rfl | rfl <;> rfl

/-- Each step of the setup was taken and answered. -/
theorem IsSetUp.exists_step (h : IsSetUp t es) {m : Method} (hm : m ∈ channelSetup t) :
    ∃ e ∈ es, e.method = m ∧ e.isAnswered = true := by
  obtain ⟨-, hsetup, ha⟩ := h
  rw [← hsetup, List.mem_map] at hm
  obtain ⟨e, he, rfl⟩ := hm
  exact ⟨e, List.mem_append_right _ he, rfl, ha e (List.mem_append_right _ he)⟩

/-- On a prepared connection, what is said for its use keeps it prepared. -/
theorem Says.isPrepared (h : Says i es s u) (hu : ∀ e ∈ es, e.method.phase = .use) {j : Nat}
    (hj : IsPrepared t (conversation s.log j)) : IsPrepared t (conversation u.log j) := by
  by_cases hji : j = i
  · subst hji
    rw [h.conversation_eq]
    exact hj.append hu
  · rwa [h.conversation_of_ne hji]

/-- A client with a further connection, on which something was said. -/
def Client.joined (s : Client) (c : Connection) (es : List Entry) : Client :=
  { s with log := s.log ++ es, connections := s.connections ++ [c] }

theorem connection?_joined (s : Client) (c : Connection) (es : List Entry) (j : Nat) :
    (s.joined c es).connection? j =
      if j = s.connections.length then some c else s.connection? j := by
  rw [Client.connection?, Client.joined, Client.connection?, List.getElem?_append]
  split
  · rw [if_neg (by omega)]
  · split
    · rename_i hj
      simp [hj]
    · simp only [List.getElem?_singleton]
      rw [if_neg (by omega), List.getElem?_eq_none (by omega)]

theorem connectionIs_joined (s : Client) (c : Connection) (es : List Entry)
    (p : Connection → Bool) :
    (s.joined c es).connectionIs s.connections.length p = p c := by
  rw [Client.connectionIs, connection?_joined, if_pos rfl]
  rfl

theorem connectionIs_joined_of_ne {j : Nat} (hj : j ≠ s.connections.length) (c : Connection)
    (es : List Entry) (p : Connection → Bool) :
    (s.joined c es).connectionIs j p = s.connectionIs j p := by
  rw [Client.connectionIs, connection?_joined, if_neg hj]
  rfl

theorem conversation_joined_of_ne (hc : ∀ e ∈ es, e.connection = s.connections.length) {j : Nat}
    (hj : j ≠ s.connections.length) (c : Connection) :
    conversation (s.joined c es).log j = conversation s.log j := by
  have hnone : ∀ e ∈ es, e.connection ≠ j := fun e hmem hej => hj (hej ▸ hc e hmem)
  rw [Client.joined, conversation_append, conversation_eq_nil hnone, List.append_nil]

/-- Only the further connection can be used that was not used, if something comes on it. -/
theorem uses_of_joined {j : Nat} (h : (s.joined c es).Uses j) :
    s.Uses j ∨ j = s.connections.length ∧ ¬c.IsIdle := by
  cases h with
  | session h => exact .inl (.session h)
  | publisher h => exact .inl (.publisher h)
  | delivery hd h => exact .inl (.delivery hd h)
  | arrival hc h =>
      rw [connection?_joined] at hc
      split at hc
      · rename_i hj
        cases hc
        exact .inr ⟨hj, h⟩
      · exact .inl (.arrival hc h)

theorem modify_append_singleton {α : Type} (l : List α) (x : α) (f : α → α) :
    (l ++ [x]).modify l.length f = l ++ [f x] := by
  induction l with
  | nil => rfl
  | cons y l ih => simpa using ih

/-- What a change at one place leaves as it is, it leaves everywhere. -/
theorem map_modify_of_eq {α β : Type} {f : α → α} {g : α → β} (hg : ∀ x, g (f x) = g x)
    (l : List α) (n : Nat) : (l.modify n f).map g = l.map g := by
  refine List.ext_getElem? fun i => ?_
  rw [List.getElem?_map, List.getElem?_modify, List.getElem?_map]
  cases l[i]? with
  | none => rfl
  | some x =>
      simp only [Option.map_eq_map, Option.map_some]
      split <;> simp [hg]

theorem update_joined (s : Client) (c : Connection) (es : List Entry)
    (f : Connection → Connection) :
    (s.joined c es).update s.connections.length f = s.joined (f c) es := by
  simp [Client.update, Client.joined, modify_append_singleton]

theorem said_joined (s : Client) (c : Connection) (es fs : List Entry) :
    (s.joined c es).said s.connections.length fs = s.joined (c.bear fs) (es ++ fs) := by
  simp [Client.said, Client.joined, modify_append_singleton]

/-! ## What lasts -/

/-- Every connection is prepared or given up, and only prepared ones are used. -/
structure Kept (t : Topology) (s : Client) : Prop where
  connection_lt : ∀ e ∈ s.log, e.connection < s.connections.length
  lawful : ∀ i, IsPrepared t (conversation s.log i) ∨ IsGivenUp t (conversation s.log i)
  prepared_of_uses : ∀ i, s.Uses i → IsPrepared t (conversation s.log i)

theorem kept_initial (t : Topology) : Kept t {} where
  connection_lt := by simp
  lawful _ := .inr (.early (by simp [conversation]))
  prepared_of_uses i hi := by
    cases hi with
    | session h => cases h
    | publisher h => cases h
    | delivery hd => cases hd
    | arrival hc => simp [Client.connection?] at hc

namespace Kept

theorem exists_step (h : Kept t s) (hi : s.Uses i) {m : Method} (hm : m ∈ channelSetup t) :
    ∃ e ∈ s.log, e.connection = i ∧ e.method = m ∧ e.isAnswered = true := by
  have hprepared := h.prepared_of_uses i hi
  generalize hconv : conversation s.log i = conv at hprepared
  obtain ⟨hs, -⟩ := hprepared
  obtain ⟨e, he, hem, hea⟩ := hs.exists_step hm
  have hmem : e ∈ conversation s.log i := hconv ▸ List.mem_append_left _ he
  rw [conversation, List.mem_filter, beq_iff_eq] at hmem
  exact ⟨e, hmem.1, hmem.2, hem, hea⟩

theorem lt_of_uses (h : Kept t s) (hi : s.Uses i) : i < s.connections.length := by
  obtain ⟨e, he, rfl, -⟩ := h.exists_step hi (m := .selectConfirms) (by simp [channelSetup])
  exact h.connection_lt e he

/-- On a connection that is not there yet, nothing was said. -/
theorem conversation_new (h : Kept t s) : conversation s.log s.connections.length = [] :=
  conversation_eq_nil fun e he => Nat.ne_of_lt (h.connection_lt e he)

/-- A prepared connection may be used. -/
theorem extend (h : Kept t s) (hs : Says i es s u) (hu : ∀ e ∈ es, e.method.phase = .use)
    (hi : es = [] ∨ s.Uses i) : Kept t u := by
  refine ⟨?_, fun j => ?_, fun j hj => hs.isPrepared hu (h.prepared_of_uses j (hs.uses j hj))⟩
  · rw [hs.log_eq, hs.length_eq]
    refine List.forall_mem_append.mpr ⟨h.connection_lt, fun e he => ?_⟩
    rw [hs.connection_eq e he]
    rcases hi with rfl | hi
    · cases he
    · exact h.lt_of_uses hi
  -- without a word nothing changes, also on a connection that is not used
  · rcases hi with rfl | hi
    · rw [hs.log_eq, List.append_nil]
      exact h.lawful j
    · rcases h.lawful j with hj | hj
      · exact .inl (hs.isPrepared hu hj)
      · by_cases hji : j = i
        · subst hji
          exact .inl (hs.isPrepared hu (h.prepared_of_uses j hi))
        · rw [hs.conversation_of_ne hji]
          exact .inr hj

theorem conversation_joined (h : Kept t s) (hc : ∀ e ∈ es, e.connection = s.connections.length) :
    conversation (s.joined c es).log s.connections.length = es := by
  rw [Client.joined, conversation_append, h.conversation_new, conversation_eq_self hc,
    List.nil_append]

/-- A further connection is prepared, or given up and not used. -/
theorem joined (h : Kept t s) (hc : ∀ e ∈ es, e.connection = s.connections.length)
    (he : IsPrepared t es ∨ IsGivenUp t es) (hidle : ¬c.IsIdle → IsPrepared t es) :
    Kept t (s.joined c es) := by
  refine ⟨?_, fun j => ?_, fun j hj => ?_⟩
  · have hlength : (s.joined c es).connections.length = s.connections.length + 1 := by
      simp [Client.joined]
    rw [hlength, Client.joined]
    refine List.forall_mem_append.mpr ⟨fun e he => ?_, fun e he => ?_⟩
    · exact Nat.lt_succ_of_lt (h.connection_lt e he)
    · rw [hc e he]
      exact Nat.lt_succ_self _
  · by_cases hj : j = s.connections.length
    · rw [hj, h.conversation_joined hc]
      exact he
    · rw [conversation_joined_of_ne hc hj]
      exact h.lawful j
  · rcases uses_of_joined hj with hj | ⟨rfl, hne⟩
    · rw [conversation_joined_of_ne hc (Nat.ne_of_lt (h.lt_of_uses hj))]
      exact h.prepared_of_uses j hj
    · rw [h.conversation_joined hc]
      exact hidle hne

end Kept

/-! ## Making connections -/

/-- A channel is set up in turn, and then jobs come on it. -/
theorem exists_prepare_joined (b : Broker) (t : Topology) (s : Client) (hello : List Entry) :
    ∃ es, (∀ e ∈ es, e.connection = s.connections.length) ∧
      InTurn (channelSetup t) es ((s.joined {} hello).prepare b t s.connections.length).2 ∧
      ((s.joined {} hello).prepare b t s.connections.length).1 =
        if ((s.joined {} hello).prepare b t s.connections.length).2 then
          s.joined { hasChannel := true, isConsuming := true } (hello ++ es)
        else s.joined (({ hasChannel := true } : Connection).bear es) (hello ++ es) := by
  obtain ⟨es, hi, hes, hturn⟩ := exists_sendAll_eq_said b s.connections.length
    (Client.preparation t) (s.joined { hasChannel := true } hello)
  rw [said_joined] at hes
  unfold Client.prepare
  simp only [update_joined]
  generalize (s.joined { hasChannel := true } hello).sendAll b s.connections.length
    (Client.preparation t) = sent at hes hturn
  obtain ⟨u, isPrepared⟩ := sent
  change u = _ at hes
  cases isPrepared with
  | true =>
      have hbear := Connection.bear_of_isAnswered (c := { hasChannel := true })
        (hturn.eq_true_iff.mp rfl)
      rw [hbear] at hes
      refine ⟨es, hi, hturn, ?_⟩
      rw [hes, if_pos rfl]
      exact update_joined s _ _ _
  | false => exact ⟨es, hi, hturn, by rw [hes, if_neg Bool.false_ne_true]⟩

/-- A connection on which nothing comes and nothing has come is lost altogether. -/
theorem Connection.IsIdle.lose_eq (h : c.IsIdle) : c.lose = { isOpen := false } := by
  simp [Connection.lose, Connection.loseChannel, h.isConsuming_eq, h.arrivals_eq]

/-- What is not answered costs the channel or the connection. -/
theorem Connection.bear_of_not_isAnswered {e : Entry} (h : e.isAnswered = false) :
    ({ hasChannel := true } : Connection).bear [e] =
      if e.fault = some .closeChannel then {} else { isOpen := false } := by
  obtain ⟨i, m, fault⟩ := e
  cases fault with
  | none => cases h
  | some f =>
      cases f with
      | refuse => cases h
      | drop | closeChannel | closeConnection | garbage => rfl

theorem close_joined (b : Broker) (reason : String) (s : Client) (hc : c.IsIdle)
    (es : List Entry) :
    ∃ closing : Entry, closing.connection = s.connections.length ∧
      closing.method = .closeConnection 200 reason ∧
      (s.joined c es).close b s.connections.length reason =
        if c.isOpen then s.joined { isOpen := false } (es ++ [closing]) else s.joined c es := by
  refine ⟨⟨_, .closeConnection 200 reason,
    b.fault? (s.joined c es).log (.closeConnection 200 reason)⟩, rfl, rfl, ?_⟩
  rw [close_eq, connectionIs_joined, said_joined, update_joined, (hc.bear _).lose_eq]

/-- What comes of making a connection: it is abandoned, or set up and taken for a new session when
the old one has ended. -/
inductive Dialled (b : Broker) (t : Topology) (s : Client) : Client × Bool → Prop where
  | givenUp {es : List Entry} (hc : ∀ e ∈ es, e.connection = s.connections.length)
      (he : IsAbandoned t es) : Dialled b t s (s.joined { isOpen := false } es, false)
  | setUp {es : List Entry} (hc : ∀ e ∈ es, e.connection = s.connections.length)
      (he : IsSetUp t es) :
      Dialled b t s
        ({ (s.joined { hasChannel := true, isConsuming := true } es).endSession b with
            session := some s.connections.length, publisher := some s.connections.length }, true)

theorem dialled_dial (b : Broker) (a : Address) (t : Topology) (s : Client) :
    Dialled b t s (s.dial b a t) := by
  have hopened : { s with connections := s.connections ++ [({} : Connection)] } =
      s.joined {} [] := by
    simp [Client.joined]
  obtain ⟨hello, hhello, hgreet, hnegotiation, hgreeted⟩ :=
    exists_greet_eq_said b a s.connections.length (s.joined {} [])
  rw [said_joined, List.nil_append] at hgreet
  have hfresh : ({} : Connection).IsIdle := ⟨rfl, rfl⟩
  simp only [Client.dial, hopened]
  generalize (s.joined {} []).greet b a s.connections.length = greeted at hgreet hgreeted
  obtain ⟨s₁, isGreeted⟩ := greeted
  change s₁ = _ at hgreet
  subst hgreet
  cases isGreeted with
  | false =>
      have hunanswered : ¬∀ e ∈ hello, e.isAnswered = true :=
        fun hall => Bool.false_ne_true (hgreeted.mpr hall)
      dsimp only
      rw [update_joined, (hfresh.bear hello).lose_eq]
      exact .givenUp hhello (.unopened hnegotiation hunanswered)
  | true =>
      have hanswered := hgreeted.mp rfl
      rw [Connection.bear_of_isAnswered hanswered]
      obtain ⟨es, hes, hturn, hprepare⟩ := exists_prepare_joined b t s hello
      dsimp only
      generalize (s.joined {} hello).prepare b t s.connections.length = prepared at hturn hprepare
      obtain ⟨s₂, isPrepared⟩ := prepared
      cases hturn with
      | all hm ha =>
          rw [if_pos rfl] at hprepare
          subst hprepare
          exact .setUp (List.forall_mem_append.mpr ⟨hhello, hes⟩)
            (.intro hnegotiation hm (List.forall_mem_append.mpr ⟨hanswered, ha⟩))
      | upTo hm ha hl =>
          rename_i front last
          have hfront : ∀ e ∈ hello ++ front, e.isAnswered = true :=
            List.forall_mem_append.mpr ⟨hanswered, ha⟩
          have hsaid : ∀ e ∈ hello ++ front ++ [last], e.connection = s.connections.length := by
            rw [List.append_assoc]
            exact List.forall_mem_append.mpr ⟨hhello, hes⟩
          rw [if_neg Bool.false_ne_true, Connection.bear_append, Connection.bear_of_isAnswered ha,
            Connection.bear_of_not_isAnswered hl, ← List.append_assoc] at hprepare
          subst hprepare
          dsimp only
          by_cases hf : last.fault = some .closeChannel
          · rw [if_pos hf]
            obtain ⟨closing, hci, hcm, hclose⟩ := close_joined b "consumer setup failed" s hfresh
              (hello ++ front ++ [last])
            rw [hclose, if_pos rfl, List.append_assoc, List.singleton_append]
            refine .givenUp ?_ (.closed hnegotiation hm hfront hf hcm)
            rw [← List.singleton_append, ← List.append_assoc]
            exact List.forall_mem_append.mpr ⟨hsaid, List.forall_mem_singleton.mpr hci⟩
          · rw [if_neg hf]
            obtain ⟨closing, -, -, hclose⟩ := close_joined b "consumer setup failed" s
              (c := { isOpen := false }) ⟨rfl, rfl⟩ (hello ++ front ++ [last])
            rw [hclose, if_neg Bool.false_ne_true]
            exact .givenUp hsaid (.lost hnegotiation hm hfront hl hf)

/-- When the old session ends, nothing is said on the new connection. -/
theorem Kept.conversation_endSession (h : Kept t s)
    (hc : ∀ e ∈ es, e.connection = s.connections.length) :
    conversation ((s.joined c es).endSession b).log s.connections.length = es := by
  obtain ⟨i, fs, hfs, -, hi⟩ := exists_says_endSession b (s.joined c es)
  rcases hi with rfl | hi
  · rw [hfs.log_eq, List.append_nil, h.conversation_joined hc]
  -- the old session is one of the connections there were before
  · have hlt : i < s.connections.length := h.lt_of_uses (.session hi)
    rw [hfs.conversation_of_ne (Nat.ne_of_gt hlt), h.conversation_joined hc]

theorem Dialled.kept {p : Client × Bool} (hd : Dialled b t s p) (h : Kept t s) : Kept t p.1 := by
  cases hd with
  | givenUp hc he => exact h.joined hc (.inr he.isGivenUp) fun hne => absurd ⟨rfl, rfl⟩ hne
  | setUp hc he =>
      rename_i es
      have hset : Kept t (s.joined { hasChannel := true, isConsuming := true } es) :=
        h.joined hc (.inl he.isPrepared) fun _ => he.isPrepared
      have hnew := h.conversation_endSession (b := b) hc
        (c := { hasChannel := true, isConsuming := true })
      obtain ⟨i, fs, hfs, hphase, hi⟩ := exists_says_endSession b
        (s.joined { hasChannel := true, isConsuming := true } es)
      have hended := hset.extend hfs hphase (hi.imp_right .session)
      -- to take the new connection changes only what is used
      refine ⟨hended.connection_lt, hended.lawful, fun j hj => ?_⟩
      cases hj with
      | session hj | publisher hj =>
          cases hj
          rw [hnew]
          exact he.isPrepared
      | delivery hd h => exact hended.prepared_of_uses j (.delivery hd h)
      | arrival hc h => exact hended.prepared_of_uses j (.arrival hc h)

/-- A connection that can be used was set up, and nothing else was said on it yet. -/
theorem Dialled.isSetUp {p : Client × Bool} (hd : Dialled b t s p) (h : Kept t s)
    (hp : p.2 = true) :
    p.1.session = some s.connections.length ∧ p.1.publisher = some s.connections.length ∧
      IsSetUp t (conversation p.1.log s.connections.length) := by
  cases hd with
  | givenUp => cases hp
  | setUp hc he =>
      have hnew := h.conversation_endSession (b := b) hc
        (c := { hasChannel := true, isConsuming := true })
      refine ⟨rfl, rfl, ?_⟩
      rwa [hnew]

/-- A connection that cannot be used was given up, for something that was not answered. -/
theorem Dialled.isGivenUp {p : Client × Bool} (hd : Dialled b t s p) (h : Kept t s)
    (hp : p.2 = false) :
    IsGivenUp t (conversation p.1.log s.connections.length) ∧
      ¬∀ e ∈ conversation p.1.log s.connections.length, e.isAnswered = true := by
  cases hd with
  | givenUp hc he =>
      rw [h.conversation_joined hc]
      exact ⟨he.isGivenUp, he.not_isAnswered⟩
  | setUp => cases hp

theorem connect_eq_dial {t : Target} {a : Address} (ha : Address.read? t.address = some a)
    (hl : t.isListening a.host a.port = true) (ht : a.timeout ≠ some 0) (s : Client) :
    s.connect t = s.dial t.broker a t.topology := by
  simp [Client.connect, ha, hl, ht]

theorem connect_eq_or_dialled (t : Target) (s : Client) :
    s.connect t = (s, false) ∨ Dialled t.broker t.topology s (s.connect t) := by
  unfold Client.connect
  split
  · exact .inl rfl
  · split
    · exact .inr (dialled_dial _ _ _ _)
    · exact .inl rfl

/-! ## Every run -/

/-- The client after several actions. -/
def Client.afterAll (t : Target) (actions : List Action) : Client :=
  actions.foldl (fun s a => (s.act t a).1) {}

theorem Kept.act {t : Target} (h : Kept t.topology s) (a : Action) :
    Kept t.topology (s.act t a).1 := by
  by_cases ha : a = .connect
  · subst ha
    rcases connect_eq_or_dialled t s with he | hd
    · have hact : (s.act t .connect).1 = s := congrArg Prod.fst he
      rwa [hact]
    · exact hd.kept h
  · obtain ⟨i, es, hes, hphase, hi, -⟩ := exists_says_act t ha s
    exact h.extend hes hphase hi

theorem kept_afterAll (t : Target) (actions : List Action) :
    Kept t.topology (Client.afterAll t actions) := by
  have hrun : ∀ s, Kept t.topology s →
      Kept t.topology (actions.foldl (fun s a => (s.act t a).1) s) := by
    induction actions with
    | nil => exact fun s h => h
    | cons a actions ih => exact fun s h => ih _ (h.act a)
  exact hrun {} (kept_initial _)

/-- Where a text is split at something that is not in a first part, this part stands before it. -/
theorem exists_of_append_eq_append_cons {α : Type} {as bs cs ds : List α} {x : α}
    (h : as ++ bs = cs ++ x :: ds) (hx : x ∉ as) : ∃ m, cs = as ++ m ∧ bs = m ++ x :: ds := by
  rcases List.append_eq_append_iff.mp h with ⟨m, hm, hbs⟩ | ⟨m, has, hm⟩
  · exact ⟨m, hm, hbs⟩
  · cases m with
    | nil => exact ⟨[], by simpa using has.symm, by simpa using hm.symm⟩
    | cons y m =>
        cases hm
        exact absurd (has ▸ List.mem_append_right cs List.mem_cons_self) hx

theorem conversation_split {log before after : List Entry} {e : Entry}
    (h : log = before ++ e :: after) :
    conversation log e.connection =
      conversation before e.connection ++ e :: conversation after e.connection := by
  rw [h, conversation_append, conversation, conversation, List.filter_cons_of_pos (by simp)]
  rfl

theorem IsSetUp.phase_ne (h : IsSetUp t es) : ∀ e ∈ es, e.method.phase ≠ .use := by
  obtain ⟨hh, hm, -⟩ := h
  intro e he
  rcases List.mem_append.mp he with he | he
  · simp [hh e he]
  · simp [phase_of_mem_channelSetup (hm ▸ List.mem_map_of_mem he)]

/-- On a prepared connection every step of the setup was answered before anything is used. -/
theorem IsPrepared.exists_step_before {before after : List Entry} {e : Entry}
    (h : IsPrepared t (before ++ e :: after)) (he : e.method.phase = .use) {m : Method}
    (hm : m ∈ channelSetup t) : ∃ e' ∈ before, e'.method = m ∧ e'.isAnswered = true := by
  generalize hconv : before ++ e :: after = conv at h
  obtain ⟨hs, -⟩ := h
  rename_i es later
  have hnot : e ∉ es := fun hmem => hs.phase_ne e hmem he
  obtain ⟨front, rfl, -⟩ := exists_of_append_eq_append_cons hconv.symm hnot
  obtain ⟨e', he', hstep⟩ := hs.exists_step hm
  exact ⟨e', List.mem_append_left _ he', hstep⟩

theorem IsPrepared.isAnswered (h : IsPrepared t es) {e : Entry} (he : e ∈ es)
    (hp : e.method.phase = .setup) : e.isAnswered = true := by
  obtain ⟨hs, hl⟩ := h
  rcases List.mem_append.mp he with he | he
  · exact hs.isAnswered e he
  · have hu := hl e he
    simp [hp] at hu

/-- A connection that was given up is closed at most. -/
theorem IsGivenUp.method_eq (h : IsGivenUp t es) {e : Entry} (he : e ∈ es)
    (hp : e.method.phase = .use) :
    e.method = .closeConnection 200 "consumer setup failed" := by
  cases h with
  | early hh =>
      have hn := hh e he
      simp [hp] at hn
  | late hh hm ha hl hc =>
      rename_i hello front closing last
      rw [← List.singleton_append, List.append_assoc, ← List.append_assoc front] at he
      rcases List.mem_append.mp he with he | he
      · have hn := hh e he
        simp [hp] at hn
      · rcases List.mem_append.mp he with he | he
        · have hs := phase_of_mem_channelSetup (hm.subset (List.mem_map_of_mem he))
          simp [hp] at hs
        · exact List.mem_singleton.mp (hc.subset (List.mem_map_of_mem he))

/-- Behind a step that was not answered, a connection is closed and nothing else is said. -/
theorem IsGivenUp.closing {before after : List Entry} {e : Entry}
    (h : IsGivenUp t (before ++ e :: after)) (hp : e.method.phase = .setup)
    (he : e.isAnswered = false) :
    after.map (·.method) <+: [.closeConnection 200 "consumer setup failed"] := by
  generalize hconv : before ++ e :: after = conv at h
  cases h with
  | early hh =>
      have hn := hh e (hconv ▸ List.mem_append_right before List.mem_cons_self)
      simp [hp] at hn
  | late hh hm ha hl hc =>
      rename_i hello front closing last
      have hnot : e ∉ hello ++ front := by
        intro hmem
        rcases List.mem_append.mp hmem with hmem | hmem
        · have hn := hh e hmem
          simp [hp] at hn
        · rw [ha e hmem] at he
          cases he
      obtain ⟨between, -, hrest⟩ := exists_of_append_eq_append_cons hconv.symm hnot
      cases between with
      | nil =>
          cases hrest
          exact hc
      | cons _ between =>
          cases hrest
          have hmem : e.method ∈ [Method.closeConnection 200 "consumer setup failed"] :=
            hc.subset (List.mem_map_of_mem (List.mem_append_right between List.mem_cons_self))
          rw [List.mem_singleton.mp hmem] at hp
          cases hp

/-- What connecting comes to, and what connecting before has led to. -/
structure SetsUpInOrder (t : Target) (s : Client) : Prop where
  /-- It goes well only by a new connection on which each step of the setup was answered. -/
  connected : (s.connect t).2 = true →
    (s.connect t).1.session = some s.connections.length ∧
      (s.connect t).1.publisher = some s.connections.length ∧
      IsSetUp t.topology (conversation (s.connect t).1.log s.connections.length)
  /-- Where somebody listens, it goes well exactly if all that is said on it is answered. -/
  reached : ∀ a, Address.read? t.address = some a → t.isListening a.host a.port = true →
    a.timeout ≠ some 0 →
      ((s.connect t).2 = true ↔
        ∀ e ∈ conversation (s.connect t).1.log s.connections.length, e.isAnswered = true)
  /-- Where it fails, the new connection is given up, and the error is one of the transport. -/
  failed : (s.connect t).2 = false →
    IsGivenUp t.topology (conversation (s.connect t).1.log s.connections.length) ∧
      ∀ account, (s.act t .connect).2.error? account = some (.transport account)
  /-- Every connection there was is one or the other, whatever became of it. -/
  lawful : ∀ i, IsPrepared t.topology (conversation s.log i) ∨
    IsGivenUp t.topology (conversation s.log i)
  /-- After the first step that is not answered, the connection is closed if it is still there, and
  nothing else is said on it, ever. -/
  stopped : ∀ before e after, s.log = before ++ e :: after → e.method.phase = .setup →
    e.isAnswered = false →
      (conversation after e.connection).map (·.method) <+:
        [.closeConnection 200 "consumer setup failed"]
  /-- Where a message came or was given out, it was limited how many come at once. -/
  limited : ∀ i, ((∃ c, s.connection? i = some c ∧ c.arrivals ≠ []) ∨
      ∃ d ∈ s.deliveries, d.connection = i) →
    ∃ e ∈ s.log, e.connection = i ∧ e.method = .limitPrefetch t.topology.prefetch ∧
      e.isAnswered = true
  /-- What was published was published where confirms had been granted. -/
  confirmed : ∀ before e after queue contentType mode body, s.log = before ++ e :: after →
    e.method = .publish queue contentType mode body →
      ∃ e' ∈ before, e'.connection = e.connection ∧ e'.method = .selectConfirms ∧
        e'.isAnswered = true

/-- Whatever a broker does, and whatever is done with a client in between: it is connected only by
one connection with one channel on which the broker answered, in this order, the opening of the
channel, the declarations of both queues, the request for confirms, the limit of what comes at once
and the request for jobs; and it is connected if all is answered. The first step that is not ends
the setup with an error of the transport. So no message ever comes without the limit, and none is
published without confirms. -/
theorem channel_is_set_up_in_order (t : Target) (actions : List Action) :
    SetsUpInOrder t (Client.afterAll t actions) := by
  have hkept := kept_afterAll t actions
  generalize Client.afterAll t actions = s at hkept
  refine ⟨fun hok => ?_, fun a ha hl ht => ?_, fun hno => ?_, hkept.lawful, ?_, ?_, ?_⟩
  · rcases connect_eq_or_dialled t s with he | hd
    · rw [he] at hok
      cases hok
    · exact hd.isSetUp hkept hok
  · have hd := dialled_dial t.broker a t.topology s
    rw [connect_eq_dial ha hl ht]
    cases hok : (s.dial t.broker a t.topology).2 with
    | true => exact iff_of_true rfl (hd.isSetUp hkept hok).2.2.isAnswered
    | false => exact iff_of_false Bool.false_ne_true (hd.isGivenUp hkept hok).2
  · have herror : (s.act t .connect).2 = .done false := congrArg Effect.done hno
    refine ⟨?_, fun account => by rw [herror]; rfl⟩
    rcases connect_eq_or_dialled t s with he | hd
    · rw [he, hkept.conversation_new]
      exact .early (by simp)
    · exact (hd.isGivenUp hkept hno).1
  · intro before e after hlog hp ha
    rcases hkept.lawful e.connection with hl | hl
    · rw [conversation_split hlog] at hl
      rw [hl.isAnswered (List.mem_append_right _ List.mem_cons_self) hp] at ha
      cases ha
    · rw [conversation_split hlog] at hl
      exact hl.closing hp ha
  · intro i hi
    have huse : s.Uses i := by
      rcases hi with ⟨c, hc, hne⟩ | ⟨d, hd, rfl⟩
      · exact .arrival hc fun hidle => hne hidle.arrivals_eq
      · exact .delivery hd rfl
    exact hkept.exists_step huse (by simp [channelSetup])
  · intro before e after queue contentType mode body hlog hm
    have hp : e.method.phase = .use := by rw [hm]; rfl
    have hl := hkept.lawful e.connection
    rw [conversation_split hlog] at hl
    rcases hl with hl | hl
    · obtain ⟨e', he', hstep⟩ :=
        hl.exists_step_before hp (m := .selectConfirms) (by simp [channelSetup])
      rw [conversation, List.mem_filter, beq_iff_eq] at he'
      exact ⟨e', he'.1, he'.2, hstep⟩
    · have hclose := hl.method_eq (List.mem_append_right _ List.mem_cons_self) hp
      rw [hm] at hclose
      cases hclose

/-- A broker that closes the first channel instead of limiting what comes on it. -/
def limitlessAtFirst : Target where
  address := "amqp://127.0.0.1"
  topology := ⟨"preview_jobs", "preview_results", 4⟩
  broker := .scripted ⟨0, 131072, 0⟩ fun name =>
    if name = "basic.qos" then [some .closeChannel] else []
  isListening _ _ := true

/-- The first connection to such a broker is given up, and the second one is set up. -/
theorem channel_is_set_up_in_order_of_second :
    ∃ first second, Client.connect limitlessAtFirst {} = (first, false) ∧
      IsGivenUp limitlessAtFirst.topology (conversation first.log 0) ∧
      first.connect limitlessAtFirst = (second, true) ∧
      IsSetUp limitlessAtFirst.topology (conversation second.log 1) := by
  have hfirst : (Client.connect limitlessAtFirst {}).2 = false := by decide +kernel
  have hsecond : ((Client.afterAll limitlessAtFirst [.connect]).connect limitlessAtFirst).2 =
      true := by decide +kernel
  have hlength : (Client.afterAll limitlessAtFirst [.connect]).connections.length = 1 := by
    decide +kernel
  have hgivenUp := (channel_is_set_up_in_order limitlessAtFirst []).failed hfirst
  have hsetUp := (channel_is_set_up_in_order limitlessAtFirst [.connect]).connected hsecond
  rw [hlength] at hsetUp
  exact ⟨_, _, Prod.ext rfl hfirst, hgivenUp.1, Prod.ext rfl hsecond, hsetUp.2.2⟩

end LinkPreview.Amqp
