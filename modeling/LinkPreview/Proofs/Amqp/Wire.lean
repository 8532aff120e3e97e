import LinkPreview.Amqp.Client

/-!
# What is sent on a connection

Sending leaves two traces: the broker has received what was sent, and the connection bears what the
broker did instead of answering. `Client.said` is a client after both, and whatever is sent one
thing after another leaves a client that has said this, no more.
-/

namespace LinkPreview.Amqp

/-- What things are said for: to agree on a connection, to set up its channel, or to use this. -/
inductive Phase where
  | negotiation
  | setup
  | use
  deriving DecidableEq, Repr

/-- What something is said for. -/
def Method.phase : Method → Phase
  | header | startOk .. | tuneOk .. | openConnection .. => .negotiation
  | openChannel .. | declareQueue .. | selectConfirms | limitPrefetch .. | consume .. => .setup
  | publish .. | ack .. | reject .. | nack .. | closeConnection .. => .use

/-- Whether something closes its connection. -/
def Method.isClosing : Method → Bool
  | closeConnection .. => true
  | _ => false

/-- A connection after what the broker did instead of answering. -/
def Connection.bear (c : Connection) (es : List Entry) : Connection :=
  es.foldl (fun c e => e.fault.elim c c.suffer) c

/-- A client that has said something on a connection. -/
def Client.said (s : Client) (i : Nat) (es : List Entry) : Client :=
  { s with log := s.log ++ es, connections := s.connections.modify i (·.bear es) }

variable {b : Broker} {c : Connection} {e : Entry} {i : Nat} {es fs : List Entry} {s : Client}

theorem Connection.bear_append (c : Connection) (es fs : List Entry) :
    c.bear (es ++ fs) = (c.bear es).bear fs :=
  List.foldl_append

/-- To bear is to suffer what the broker did the first time, and then the rest. -/
theorem Connection.bear_induction {p : Connection → Prop} (hp : ∀ c f, p c → p (c.suffer f))
    (hc : p c) (es : List Entry) : p (c.bear es) := by
  induction es generalizing c with
  | nil => exact hc
  | cons e es ih =>
      refine ih ?_
      change p (e.fault.elim c c.suffer)
      cases e.fault with
      | none => exact hc
      | some f => exact hp c f hc

theorem Connection.bear_singleton_of_isAnswered (h : e.isAnswered = true) : c.bear [e] = c := by
  simp only [Entry.isAnswered, Bool.or_eq_true, beq_iff_eq] at h
  rcases h with h | h <;> simp [Connection.bear, h, Connection.suffer]

/-- An answer does nothing to a connection. -/
theorem Connection.bear_of_isAnswered (h : ∀ e ∈ es, e.isAnswered = true) : c.bear es = c := by
  induction es with
  | nil => rfl
  | cons e es ih =>
      rw [List.forall_mem_cons] at h
      rw [← List.singleton_append, Connection.bear_append,
        Connection.bear_singleton_of_isAnswered h.1, ih h.2]

theorem said_nil (s : Client) (i : Nat) : s.said i [] = s := by
  have hid : (fun c : Connection => c.bear []) = id := rfl
  simp [Client.said, hid, List.modify_id]

theorem said_said (s : Client) (i : Nat) (es fs : List Entry) :
    (s.said i es).said i fs = s.said i (es ++ fs) := by
  have hbear : (fun c : Connection => c.bear (es ++ fs)) = (·.bear fs) ∘ (·.bear es) :=
    funext fun c => c.bear_append es fs
  simp [Client.said, List.modify_modify_eq, hbear]

theorem send_fst (m : Method) :
    (s.send b i m).1 = s.said i [⟨i, m, b.fault? s.log m⟩] := by
  cases hf : b.fault? s.log m with
  | none =>
      have hid : (fun c : Connection => c.bear [⟨i, m, none⟩]) = id := rfl
      simp [Client.send, Client.said, hf, hid, List.modify_id]
  | some f => simp [Client.send, Client.said, Client.update, hf, Connection.bear]

theorem send_snd (m : Method) : (s.send b i m).2 = b.fault? s.log m := by
  simp only [Client.send]
  split <;> simp_all

/-! ## Several things -/

/-- What is said when several things are sent, each when the one before was answered: all of them,
or some of them up to the first that was not answered. -/
inductive InTurn (ms : List Method) : List Entry → Bool → Prop where
  | all {es : List Entry} (hm : es.map (·.method) = ms) (ha : ∀ e ∈ es, e.isAnswered = true) :
      InTurn ms es true
  | upTo {front : List Entry} {e : Entry} (hm : (front ++ [e]).map (·.method) <+: ms)
      (ha : ∀ e ∈ front, e.isAnswered = true) (he : e.isAnswered = false) :
      InTurn ms (front ++ [e]) false

namespace InTurn

variable {ms : List Method} {isOk : Bool}

theorem cons (h : InTurn ms es isOk) (he : e.isAnswered = true) :
    InTurn (e.method :: ms) (e :: es) isOk := by
  cases h with
  | all hm ha => exact .all (by simp [hm]) (List.forall_mem_cons.mpr ⟨he, ha⟩)
  | upTo hm ha hlast =>
      rw [← List.cons_append]
      exact .upTo (by simpa using hm) (List.forall_mem_cons.mpr ⟨he, ha⟩) hlast

theorem phase {p : Phase} (h : InTurn ms es isOk) (hm : ∀ m ∈ ms, m.phase = p) :
    ∀ e ∈ es, e.method.phase = p := by
  intro e he
  have hmem := List.mem_map_of_mem (f := (·.method)) he
  cases h with
  | all hes _ => exact hm _ (hes ▸ hmem)
  | upTo hes _ _ => exact hm _ (hes.subset hmem)

/-- It goes well exactly if all is answered. -/
theorem eq_true_iff (h : InTurn ms es isOk) :
    isOk = true ↔ ∀ e ∈ es, e.isAnswered = true := by
  cases h with
  | all _ ha => exact iff_of_true rfl ha
  | upTo _ _ he =>
      refine iff_of_false Bool.false_ne_true fun hall => ?_
      rw [hall _ (List.mem_append_right _ List.mem_cons_self)] at he
      cases he

end InTurn

theorem sendAll_cons (m : Method) (ms : List Method) (s : Client) :
    s.sendAll b i (m :: ms) =
      if (⟨i, m, b.fault? s.log m⟩ : Entry).isAnswered then (s.send b i m).1.sendAll b i ms
      else ((s.send b i m).1, false) := by
  have hsnd : (s.send b i m).2 = b.fault? s.log m := send_snd m
  rw [Client.sendAll, ← hsnd]
  rcases s.send b i m with ⟨t, fault⟩
  rcases fault with _ | f
  · rfl
  · cases f <;> rfl

/-- Several things are said in turn. -/
theorem exists_sendAll_eq_said (b : Broker) (i : Nat) (ms : List Method) (s : Client) :
    ∃ es, (∀ e ∈ es, e.connection = i) ∧ (s.sendAll b i ms).1 = s.said i es ∧
      InTurn ms es (s.sendAll b i ms).2 := by
  induction ms generalizing s with
  | nil => exact ⟨[], by simp, (said_nil s i).symm, .all rfl (by simp)⟩
  | cons m ms ih =>
      rw [sendAll_cons, send_fst]
      split
      · rename_i ha
        obtain ⟨es, hi, hes, hturn⟩ := ih (s.said i [⟨i, m, b.fault? s.log m⟩])
        refine ⟨_, List.forall_mem_cons.mpr ⟨rfl, hi⟩, ?_, hturn.cons ha⟩
        rw [hes, said_said, List.singleton_append]
      · rename_i ha
        refine ⟨_, List.forall_mem_singleton.mpr rfl, rfl,
          @InTurn.upTo _ [] _ ?_ (by simp) (by simpa using ha)⟩
        simp

/-- A connection is negotiated before anything else is said on it, and this goes well exactly if
all is answered. -/
theorem exists_greet_eq_said (b : Broker) (a : Address) (i : Nat) (s : Client) :
    ∃ es, (∀ e ∈ es, e.connection = i) ∧ (s.greet b a i).1 = s.said i es ∧
      (∀ e ∈ es, e.method.phase = .negotiation) ∧
      ((s.greet b a i).2 = true ↔ ∀ e ∈ es, e.isAnswered = true) := by
  have hgreeting : ∀ m ∈ Client.greeting a, m.phase = .negotiation := by
    simp [Client.greeting, Method.phase]
  obtain ⟨es, hi, hes, hturn⟩ := exists_sendAll_eq_said b i (Client.greeting a) s
  have hphase := hturn.phase hgreeting
  have hanswered := hturn.eq_true_iff
  unfold Client.greet
  generalize s.sendAll b i (Client.greeting a) = greeted at hes hanswered
  obtain ⟨s₁, isGreeted⟩ := greeted
  cases isGreeted with
  | false => exact ⟨es, hi, hes, hphase, hanswered⟩
  | true =>
      obtain ⟨tuning, htuning, hti, hfault, hsend⟩ : ∃ e : Entry, e.method.phase = .negotiation ∧
          e.connection = i ∧ (s₁.send b i (.tuneOk (Limits.agreed a b.offer))).2 = e.fault ∧
            (s₁.send b i (.tuneOk (Limits.agreed a b.offer))).1 = s₁.said i [e] :=
        ⟨_, rfl, rfl, send_snd _, send_fst _⟩
      have hi' : ∀ e ∈ es ++ [tuning], e.connection = i :=
        List.forall_mem_append.mpr ⟨hi, List.forall_mem_singleton.mpr hti⟩
      have hphase' : ∀ e ∈ es ++ [tuning], e.method.phase = .negotiation :=
        List.forall_mem_append.mpr ⟨hphase, List.forall_mem_singleton.mpr htuning⟩
      have hanswered' : tuning.isAnswered = true ↔ ∀ e ∈ es ++ [tuning], e.isAnswered = true := by
        rw [List.forall_mem_append, List.forall_mem_singleton]
        exact (and_iff_right (hanswered.mp rfl)).symm
      change s₁ = s.said i es at hes
      rw [hes, said_said] at hsend
      rw [← hes] at hsend
      dsimp only
      split
      · rename_i hdrop
        rw [hdrop] at hsend hfault
        refine ⟨_, hi', hsend, hphase', ?_⟩
        rw [← hanswered']
        simp [Entry.isAnswered, ← hfault]
      · rename_i s₂ tuned _ hopen
        rw [hopen] at hsend hfault
        obtain ⟨fs, hfi, hfs, hturn'⟩ :=
          exists_sendAll_eq_said b i [.openConnection a.virtualHost] s₂
        have hopening := hturn'.phase (List.forall_mem_singleton.mpr rfl)
        refine ⟨es ++ [tuning] ++ fs, List.forall_mem_append.mpr ⟨hi', hfi⟩, ?_,
          List.forall_mem_append.mpr ⟨hphase', hopening⟩, ?_⟩
        · rw [hfs]
          change s₂ = _ at hsend
          rw [hsend, said_said]
        · rw [List.forall_mem_append, ← hanswered', ← hturn'.eq_true_iff]
          simp [Entry.isAnswered, ← hfault, and_comm]

/-! ## Single things -/

theorem close_eq (b : Broker) (i : Nat) (reason : String) (s : Client) :
    s.close b i reason =
      if s.connectionIs i (·.isOpen) then
        (s.said i [⟨i, .closeConnection 200 reason,
          b.fault? s.log (.closeConnection 200 reason)⟩]).update i (·.lose)
      else s := by
  rw [Client.close, send_fst]

/-- A client whose delivery with a number is spent. -/
def Client.spend (number : Nat) (s : Client) : Client :=
  { s with deliveries := s.deliveries.modify number ({ · with isSpent := true }) }

/-- What comes of settling a delivery: that it is said on its connection, if it was not settled yet
and the channel is there; otherwise nothing is said. -/
inductive Settling (b : Broker) (number : Nat) (how : Queue.Settlement) (s : Client) :
    Client × Bool → Prop where
  | unknown (hd : s.deliveries[number]? = none) : Settling b number how s (s, false)
  | said {d : Delivery} (hd : s.deliveries[number]? = some d) (hs : d.isSpent = false)
      (hc : s.connectionIs d.connection (·.hasChannel) = true) :
      Settling b number how s
        ((s.spend number).said d.connection
          [⟨d.connection, settling d.tag how, b.fault? s.log (settling d.tag how)⟩], true)
  | missed {d : Delivery} (hd : s.deliveries[number]? = some d)
      (hm : d.isSpent = true ∨ s.connectionIs d.connection (·.hasChannel) = false) :
      Settling b number how s (s.spend number, false)

theorem settling_settle (b : Broker) (number : Nat) (how : Queue.Settlement) (s : Client) :
    Settling b number how s (s.settle b number how) := by
  unfold Client.settle
  split
  · rename_i hd
    exact .unknown hd
  · rename_i d hd
    split
    · rename_i hlive
      simp only [Bool.and_eq_true, Bool.not_eq_true'] at hlive
      change Settling b number how s
        (((s.spend number).send b d.connection (settling d.tag how)).1, true)
      rw [send_fst]
      exact .said hd hlive.1 hlive.2
    · rename_i hmissed
      refine .missed hd ?_
      cases hs : d.isSpent with
      | true => exact .inl rfl
      | false =>
          right
          simpa [hs] using hmissed

/-- What comes of asking the session for what is next: a message that has come is given out as a
further delivery, or the session learns that it has failed, or there is nothing. -/
inductive GivingOut (s : Client) : Client × Next → Prop where
  | delivery {i tag : Nat} {c : Connection} {payload : List UInt8} {rest : List Arrival}
      (hi : s.session = some i) (hc : s.connection? i = some c)
      (ha : c.arrivals = .message tag payload :: rest) :
      GivingOut s
        ({ s.update i ({ · with arrivals := rest }) with
            deliveries := s.deliveries ++ [⟨i, tag, false⟩] },
          .delivery s.deliveries.length payload)
  | failure {i : Nat} {c : Connection} {rest : List Arrival} (hi : s.session = some i)
      (hc : s.connection? i = some c) (ha : c.arrivals = .failure :: rest) :
      GivingOut s (s.update i ({ · with arrivals := rest }), .failure)
  | idle {n : Next} (hn : n = .nothing ∨ n = .ended) : GivingOut s (s, n)

theorem givingOut_next (s : Client) : GivingOut s s.next := by
  unfold Client.next
  split
  · exact .idle (.inr rfl)
  · rename_i i c hsession
    simp only [Option.bind_eq_some_iff, Option.map_eq_some_iff, Prod.mk.injEq] at hsession
    obtain ⟨i, hi, c, hc, rfl, rfl⟩ := hsession
    split
    · exact .delivery hi hc ‹_›
    · exact .failure hi hc ‹_›
    · refine .idle ?_
      split
      · exact .inl rfl
      · exact .inr rfl

/-- What comes of publishing a message: that it is said on the connection of the publisher, if the
channel is there. -/
inductive Publishing (b : Broker) (queue : String) (body : List UInt8) (s : Client) :
    Client × Publication → Prop where
  | said {i : Nat} (hi : s.publisher = some i) (hc : s.connectionIs i (·.hasChannel) = true) :
      Publishing b queue body s
        (s.said i [⟨i, message queue body, b.fault? s.log (message queue body)⟩],
          if s.hasConfirms i then .ofFault queue (b.fault? s.log (message queue body))
          else .unconfirmed)
  | missed (hm : ∀ i, s.publisher = some i → s.connectionIs i (·.hasChannel) = false) :
      Publishing b queue body s (s, .failed)

theorem publishing_publish (b : Broker) (queue : String) (body : List UInt8) (s : Client) :
    Publishing b queue body s (s.publish b queue body) := by
  unfold Client.publish
  split
  · rename_i hnone
    refine .missed fun i hi => ?_
    simpa [hi] using hnone
  · rename_i i hi
    obtain ⟨hi, hc⟩ := Option.filter_eq_some_iff.mp hi
    dsimp only
    rw [send_fst, send_snd]
    exact .said hi hc

end LinkPreview.Amqp
