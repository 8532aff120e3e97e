import LinkPreview.Proofs.Amqp.Holding

/-!
# How messages are given out

What the broker sends on a connection is given out in this order, each message as a delivery that
keeps the connection and the tag of the message. Nothing else becomes a delivery, on whatever
connections the same tags are in use.
-/

namespace LinkPreview.Amqp

/-- A message on its way: the connection on which it comes, its tag there, and what it says. -/
structure Passage where
  connection : Nat
  tag : Nat
  payload : List UInt8
  deriving DecidableEq, Repr

/-- The delivery as which a message is given out. -/
def Passage.delivery (p : Passage) : Delivery :=
  ⟨p.connection, p.tag, false⟩

/-- A delivery that may be spent. -/
def Delivery.spentIf (d : Delivery) (isTried : Bool) : Delivery :=
  { d with isSpent := d.isSpent || isTried }

/-- What comes on a connection, of several messages. -/
def comingOn (i : Nat) (ps : List Passage) : List (Nat × List UInt8) :=
  (ps.filter (·.connection == i)).map fun p => (p.tag, p.payload)

/-- The message that has come, unless it is a failure. -/
def Arrival.message? : Arrival → Option (Nat × List UInt8)
  | message tag payload => some (tag, payload)
  | failure => none

/-- The messages that have come on a connection and are not given out. -/
def Connection.messages (c : Connection) : List (Nat × List UInt8) :=
  c.arrivals.filterMap Arrival.message?

/-- The messages that have come on the connection with a number and are not given out. -/
def Client.messages (s : Client) (i : Nat) : List (Nat × List UInt8) :=
  (s.connection? i).elim [] Connection.messages

variable {t : Target} {b : Broker} {c : Connection} {i n : Nat} {es : List Entry}
  {ins ins' outs outs' : List Passage} {s u v : Client} {h : Holder} {steps : List Step}

theorem comingOn_append (i : Nat) (ps qs : List Passage) :
    comingOn i (ps ++ qs) = comingOn i ps ++ comingOn i qs := by
  simp [comingOn]

theorem comingOn_singleton (i j tag : Nat) (payload : List UInt8) :
    comingOn i [⟨j, tag, payload⟩] = if j = i then [(tag, payload)] else [] := by
  by_cases hij : j = i <;> simp [comingOn, hij]

/-! ## What changes nothing that has come -/

namespace Connection

theorem messages_loseChannel (c : Connection) : c.loseChannel.messages = c.messages := by
  unfold loseChannel messages
  cases c.isConsuming <;> simp [Arrival.message?]

theorem messages_lose (c : Connection) : c.lose.messages = c.messages :=
  messages_loseChannel c

theorem messages_suffer (c : Connection) (f : Fault) : (c.suffer f).messages = c.messages := by
  cases f with
  | refuse => rfl
  | closeChannel =>
      simp only [suffer]
      split
      · exact messages_loseChannel c
      · exact messages_lose c
  | drop | closeConnection | garbage => exact messages_lose c

theorem messages_bear (c : Connection) (es : List Entry) : (c.bear es).messages = c.messages :=
  bear_induction (p := fun d => d.messages = c.messages)
    (fun d f hd => (messages_suffer d f).trans hd) rfl es

theorem messages_receive (c : Connection) (tag : Nat) (payload : List UInt8) :
    (c.receive tag payload).messages =
      c.messages ++ if c.isConsuming then [(tag, payload)] else [] := by
  unfold receive messages
  cases c.isConsuming <;> simp [Arrival.message?]

end Connection

theorem messages_update (s : Client) (i j : Nat) (f : Connection → Connection) :
    (s.update i f).messages j =
      (s.connection? j).elim [] fun c => if i = j then (f c).messages else c.messages := by
  rw [Client.messages, connection?_update]
  cases s.connection? j with
  | none => rfl
  | some c =>
      simp only [Option.map_some, Option.elim_some]
      split <;> rfl

theorem messages_update_of_eq {f : Connection → Connection}
    (hf : ∀ c : Connection, (f c).messages = c.messages) (s : Client) (i j : Nat) :
    (s.update i f).messages j = s.messages j := by
  rw [messages_update]
  simp only [hf, ite_self]
  rfl

theorem messages_said (s : Client) (i : Nat) (es : List Entry) (j : Nat) :
    (s.said i es).messages j = s.messages j :=
  messages_update_of_eq (fun c => c.messages_bear es) s i j

theorem messages_close (b : Broker) (i : Nat) (reason : String) (s : Client) (j : Nat) :
    (s.close b i reason).messages j = s.messages j := by
  rw [close_eq]
  split
  · exact (messages_update_of_eq Connection.messages_lose _ i j).trans (messages_said s i _ j)
  · rfl

theorem messages_joined (hc : c.arrivals = []) (s : Client) (es : List Entry) (j : Nat) :
    (s.joined c es).messages j = s.messages j := by
  rw [Client.messages, connection?_joined, Client.messages]
  split
  · rename_i hj
    have hnone : s.connection? j = none := List.getElem?_eq_none (Nat.le_of_eq hj.symm)
    rw [hnone]
    simp [Connection.messages, hc]
  · rfl

/-! ## What comes and what is given out -/

/-- The message that comes in a step, if anybody consumes it. -/
def Holder.came (h : Holder) : Step → List Passage
  | .deliver k tag payload =>
    match (h.turnedTo (some k)).session with
    | none => []
    | some i => if h.client.connectionIs i (·.isConsuming) then [⟨i, tag, payload⟩] else []
  | _ => []

/-- The message that is given out in a step: on the connection of the session that gives it out,
with the tag that its delivery has. -/
def Holder.gave (t : Target) (h : Holder) (step : Step) : List Passage :=
  match step, h.act t step with
  | .next k, (after, .next (.delivery number payload)) =>
    (h.sessions[k]?).toList.flatMap fun x =>
      (after.client.deliveries[number]?).toList.map fun d => ⟨x.connection, d.tag, payload⟩
  | _, _ => []

/-- The delivery that somebody tries to settle in a step, if there is one with this number. -/
def Holder.tried (h : Holder) : Step → List Nat
  | .settle number _ => if number < h.client.deliveries.length then [number] else []
  | _ => []

/-- What comes is kept until it is given out, and what is given out becomes a delivery, which is
spent when somebody tries to settle it. -/
structure Delivers (tries : List Nat) (ins outs : List Passage) (s u : Client) : Prop where
  deliveries_eq :
    u.deliveries =
      s.deliveries.mapIdx (fun n d => d.spentIf (tries.contains n)) ++ outs.map (·.delivery)
  messages_eq : ∀ i, comingOn i outs ++ u.messages i = s.messages i ++ comingOn i ins

@[simp]
theorem Delivery.spentIf_false (d : Delivery) : d.spentIf false = d := by
  simp [spentIf]

theorem Delivery.spentIf_spentIf (d : Delivery) (isTried isTried' : Bool) :
    (d.spentIf isTried).spentIf isTried' = d.spentIf (isTried || isTried') := by
  simp [spentIf, Bool.or_assoc]

theorem mapIdx_spentIf_nil (ds : List Delivery) :
    ds.mapIdx (fun n d => d.spentIf (([] : List Nat).contains n)) = ds :=
  List.ext_getElem? fun i => by simp [List.getElem?_mapIdx]

theorem Delivers.of_eq (hd : u.deliveries = s.deliveries) (hm : ∀ i, u.messages i = s.messages i) :
    Delivers [] [] [] s u where
  deliveries_eq := by rw [hd, mapIdx_spentIf_nil, List.map_nil, List.append_nil]
  messages_eq i := by simp [comingOn, hm]

theorem messages_update_receive (s : Client) (i j tag : Nat) (payload : List UInt8) :
    (s.update i (·.receive tag payload)).messages j =
      s.messages j ++
        comingOn j (if s.connectionIs i (·.isConsuming) then [⟨i, tag, payload⟩] else []) := by
  rw [messages_update, Client.messages, Client.connectionIs]
  by_cases hij : i = j
  · subst hij
    cases s.connection? i with
    | none => rfl
    | some c => cases hc : c.isConsuming <;> simp [Connection.messages_receive, hc, comingOn]
  · have hnone : comingOn j (if (s.connection? i).any (·.isConsuming) then
        [⟨i, tag, payload⟩] else []) = [] := by
      split <;> simp [comingOn, hij]
    rw [hnone, List.append_nil]
    simp only [if_neg hij]

/-- A message that is sent to a session comes if the session consumes. -/
theorem delivers_deliver (h : Holder) (k tag : Nat) (payload : List UInt8) :
    Delivers [] (h.came (.deliver k tag payload)) [] h.client
      ((h.turnedTo (some k)).deliver tag payload) := by
  rw [Holder.came, Client.deliver]
  cases hsession : (h.turnedTo (some k)).session with
  | none => exact .of_eq rfl fun _ => rfl
  | some i =>
      exact ⟨by rw [mapIdx_spentIf_nil, List.map_nil, List.append_nil]; rfl,
        fun j => messages_update_receive (h.turnedTo (some k)) i j tag payload⟩

/-- What is given out is taken from the front of what has come on the connection. -/
theorem messages_giveOut {a : Arrival} {rest : List Arrival} (hc : s.connection? i = some c)
    (ha : c.arrivals = a :: rest) (j : Nat) :
    (if i = j then a.message?.toList else []) ++
        (s.update i ({ · with arrivals := rest })).messages j = s.messages j := by
  rw [messages_update, Client.messages]
  by_cases hij : i = j
  · subst hij
    rw [hc, if_pos rfl, Option.elim_some, Option.elim_some, if_pos rfl, Connection.messages,
      Connection.messages, ha]
    cases a <;> rfl
  · simp only [if_neg hij]
    rfl

/-- What is given out is the message that came first on the connection of the session. -/
theorem delivers_next (t : Target) (h : Holder) (k : Nat) :
    Delivers [] [] (h.gave t (.next k)) h.client (h.turnedTo (some k)).next.1 := by
  have hact : h.act t (.next k) =
      ({ h with client := (h.turnedTo (some k)).next.1 },
        .next (h.turnedTo (some k)).next.2) := rfl
  have hgiving := givingOut_next (h.turnedTo (some k))
  unfold Holder.gave
  rw [hact]
  generalize (h.turnedTo (some k)).next = given at hgiving
  cases hgiving with
  | idle hn => rcases hn with rfl | rfl <;> exact .of_eq rfl fun _ => rfl
  | @failure i c rest hi hc ha =>
      refine .of_eq rfl fun j => (?_ : _ = (h.turnedTo (some k)).messages j)
      rw [← messages_giveOut hc ha j]
      simp [Arrival.message?]
  | @delivery i tag c payload rest hi hc ha =>
      obtain ⟨_, x, hturn, hx, -, rfl⟩ := Holder.session_turnedTo hi
      cases hturn
      have hlength : (h.turnedTo (some k)).deliveries = h.client.deliveries := rfl
      simp only [hx, hlength, Option.toList_some, List.flatMap_singleton,
        List.getElem?_concat_length, List.map_singleton]
      refine ⟨by rw [mapIdx_spentIf_nil]; rfl, fun j => ?_⟩
      rw [comingOn_singleton]
      exact (messages_giveOut hc ha j).trans (List.append_nil _).symm

/-- Somebody tries to settle a delivery that is there. -/
theorem delivers_spend (hn : n < s.deliveries.length) (hd : u.deliveries = (s.spend n).deliveries)
    (hm : ∀ i, u.messages i = s.messages i) :
    Delivers (if n < s.deliveries.length then [n] else []) [] [] s u := by
  rw [if_pos hn]
  refine ⟨?_, fun i => by simp [comingOn, hm]⟩
  rw [hd, List.map_nil, List.append_nil]
  refine List.ext_getElem? fun i => ?_
  simp only [Client.spend, List.getElem?_modify, List.getElem?_mapIdx]
  congr 1
  funext d
  by_cases hin : i = n <;> simp [Delivery.spentIf, hin, Ne.symm]

/-- In each step, what comes and what is given out is this. -/
theorem delivers_act (t : Target) (h : Holder) (step : Step) :
    Delivers (h.tried step) (h.came step) (h.gave t step) h.client (h.act t step).1.client := by
  cases step with
  | deliver k tag payload => exact delivers_deliver h k tag payload
  | next k => exact delivers_next t h k
  | connect =>
      have hconnected := connected_act t h
      change Delivers [] [] [] _ _
      generalize h.act t .connect = p at hconnected
      cases hconnected with
      | unreached => exact .of_eq rfl fun _ => rfl
      | @abandoned es | @opened es => exact .of_eq rfl (messages_joined rfl (h.turnedTo none) es)
  | settle number how =>
      have hsettling := settling_settle t.broker number how (h.turnedTo none)
      change Delivers (if number < h.client.deliveries.length then [number] else []) [] [] h.client
        ((h.turnedTo none).settle t.broker number how).1
      generalize (h.turnedTo none).settle t.broker number how = settled at hsettling
      have hlt {d : Delivery} (hd : h.client.deliveries[number]? = some d) :
          number < h.client.deliveries.length := (List.getElem?_eq_some_iff.mp hd).1
      cases hsettling with
      | unknown hd =>
          have hge : ¬number < h.client.deliveries.length :=
            Nat.not_lt.mpr (List.getElem?_eq_none_iff.mp hd)
          rw [if_neg hge]
          exact .of_eq rfl fun _ => rfl
      | said hd =>
          exact delivers_spend (hlt hd) rfl (messages_said ((h.turnedTo none).spend number) _ _)
      | missed hd => exact delivers_spend (hlt hd) rfl fun _ => rfl
  | publish k queue body =>
      have hpublishing := publishing_publish t.broker queue body (h.turnedTo (some k))
      change Delivers [] [] [] _ ((h.turnedTo (some k)).publish t.broker queue body).1
      generalize (h.turnedTo (some k)).publish t.broker queue body = published at hpublishing
      cases hpublishing with
      | said => exact .of_eq rfl (messages_said (h.turnedTo (some k)) _ _)
      | missed => exact .of_eq rfl fun _ => rfl
  | fail k fault =>
      change Delivers [] [] [] _ ((h.turnedTo (some k)).suffer fault)
      unfold Client.suffer
      split
      · exact .of_eq rfl fun _ => rfl
      · split
        · exact .of_eq rfl (messages_update_of_eq (·.messages_suffer fault) (h.turnedTo (some k)) _)
        · exact .of_eq rfl fun _ => rfl
  | stopConsuming k =>
      change Delivers [] [] [] _ (h.turnedTo (some k)).stopConsuming
      unfold Client.stopConsuming
      split
      · exact .of_eq rfl fun _ => rfl
      · exact .of_eq rfl
          (messages_update_of_eq (f := (·.stopConsuming)) (fun _ => rfl) (h.turnedTo (some k)) _)
  | endSession k =>
      change Delivers [] [] [] _ ((h.turnedTo (some k)).endSession t.broker)
      unfold Client.endSession
      have hdeliveries (i : Nat) (reason : String) (s : Client) :
          (s.close t.broker i reason).deliveries = s.deliveries := by
        rw [close_eq]
        split <;> rfl
      split
      · exact .of_eq rfl fun _ => rfl
      · rename_i i _
        exact .of_eq (hdeliveries i _ _)
          (messages_close t.broker i _ { h.turnedTo (some k) with session := none })

/-! ## Whole runs -/

/-- On each connection, messages are given out as they came. -/
theorem messages_afterAll (t : Target) (steps : List Step) (i : Nat) :
    comingOn i (notes t (Holder.gave t) steps) ++ (Holder.afterAll t steps).client.messages i =
      comingOn i (notes t Holder.came steps) := by
  induction steps using List.reverseRecOn with
  | nil => rfl
  | append_singleton steps step ih =>
      rw [Holder.afterAll_concat, notes_concat, notes_concat, comingOn_append, comingOn_append,
        List.append_assoc, (delivers_act t _ step).messages_eq, ← List.append_assoc, ih]

theorem lt_of_mem_tried {step : Step} (hn : n ∈ h.tried step) : n < h.client.deliveries.length := by
  cases step with
  | settle number how =>
      simp only [Holder.tried, List.mem_ite_nil_right, List.mem_singleton] at hn
      exact hn.2 ▸ hn.1
  | _ => cases hn

/-- Only deliveries that were there can anybody have tried to settle. -/
theorem lt_of_mem_tried_concat (t : Target) (steps : List Step) (step : Step) :
    ∀ n ∈ notes t Holder.tried (steps ++ [step]),
      n < (Holder.afterAll t steps).client.deliveries.length := by
  induction steps using List.reverseRecOn generalizing step with
  | nil =>
      intro n hn
      rw [notes_concat] at hn
      exact lt_of_mem_tried (List.mem_append.mp hn |>.resolve_left nofun)
  | append_singleton steps last ih =>
      intro n hn
      rw [notes_concat] at hn
      rcases List.mem_append.mp hn with hn | hn
      · rw [Holder.afterAll_concat, (delivers_act t _ last).deliveries_eq, List.length_append,
          List.length_mapIdx]
        exact Nat.lt_add_right _ (ih last n hn)
      · exact lt_of_mem_tried hn

/-- Deliveries are numbered in the order in which their messages were given out, and those are spent
that somebody tried to settle. -/
theorem deliveries_afterAll (t : Target) (steps : List Step) :
    (Holder.afterAll t steps).client.deliveries =
      (notes t (Holder.gave t) steps).mapIdx fun n p =>
        p.delivery.spentIf ((notes t Holder.tried steps).contains n) := by
  induction steps using List.reverseRecOn with
  | nil => rfl
  | append_singleton steps step ih =>
      have hlength : (Holder.afterAll t steps).client.deliveries.length =
          (notes t (Holder.gave t) steps).length := by rw [ih, List.length_mapIdx]
      -- what is given out now, nobody can have tried to settle
      have hfresh (i : Nat) : (notes t Holder.tried (steps ++ [step])).contains
          (i + (notes t (Holder.gave t) steps).length) = false := by
        refine Bool.eq_false_iff.mpr fun hmem => ?_
        have hlt := lt_of_mem_tried_concat t steps step _ (List.contains_iff_mem.mp hmem)
        omega
      rw [Holder.afterAll_concat, (delivers_act t _ step).deliveries_eq, ih, List.mapIdx_mapIdx,
        notes_concat t (Holder.gave t), List.mapIdx_append]
      congr 1
      · refine congrArg (List.mapIdx · _) (funext fun n => funext fun p => ?_)
        simp [notes_concat, Delivery.spentIf_spentIf]
      · simp only [hfresh, Delivery.spentIf_false]
        exact List.ext_getElem? fun i => by simp [List.getElem?_mapIdx]

theorem number_eq_of_next {number : Nat} {payload : List UInt8} {k : Nat}
    (hn : (h.act t (.next k)).2 = .next (.delivery number payload)) :
    number = h.client.deliveries.length := by
  have hgiving := givingOut_next (h.turnedTo (some k))
  change Effect.next (h.turnedTo (some k)).next.2 = _ at hn
  generalize (h.turnedTo (some k)).next = given at hgiving hn
  cases hgiving with
  | delivery =>
      cases hn
      rfl
  | failure => cases hn
  | idle hidle => rcases hidle with rfl | rfl <;> cases hn

/-- Sessions keep their connections. -/
theorem isPrefix_sessions_act (t : Target) (h : Holder) (step : Step) :
    h.sessions.map (·.connection) <+: (h.act t step).1.sessions.map (·.connection) := by
  change _ <+: (h.sessionsAfter step (h.act t step).2).map _
  unfold Holder.sessionsAfter
  split
  · rw [List.map_append]
    exact List.prefix_append _ _
  · rename_i k
    have hsame := map_modify_of_eq (f := ({ · with isHeld := false })) (g := Session.connection)
      (fun _ => rfl) h.sessions k
    exact hsame ▸ List.prefix_refl _
  · exact List.prefix_refl _

/-- What is given out comes on the connection of a session. -/
theorem connection_mem_of_mem_gave {step : Step} {p : Passage} (hp : p ∈ h.gave t step) :
    p.connection ∈ h.sessions.map (·.connection) := by
  unfold Holder.gave at hp
  split at hp
  · obtain ⟨x, hx, hp⟩ := List.mem_flatMap.mp hp
    obtain ⟨d, -, rfl⟩ := List.mem_map.mp hp
    exact List.mem_map_of_mem (List.mem_of_getElem? (Option.mem_toList.mp hx))
  · cases hp

/-- Every delivery came on the connection of a session. -/
theorem exists_session_of_mem_deliveries (t : Target) (steps : List Step) {d : Delivery}
    (hd : d ∈ (Holder.afterAll t steps).client.deliveries) :
    ∃ x ∈ (Holder.afterAll t steps).sessions, x.connection = d.connection := by
  have hall : ∀ p ∈ notes t (Holder.gave t) steps,
      p.connection ∈ (Holder.afterAll t steps).sessions.map (·.connection) := by
    clear hd
    induction steps using List.reverseRecOn with
    | nil => simp [notes, Holder.gather]
    | append_singleton steps step ih =>
        rw [notes_concat, Holder.afterAll_concat]
        have hkept := (isPrefix_sessions_act t (Holder.afterAll t steps) step).subset
        exact List.forall_mem_append.mpr
          ⟨fun p hp => hkept (ih p hp), fun p hp => hkept (connection_mem_of_mem_gave hp)⟩
  rw [deliveries_afterAll] at hd
  obtain ⟨n, hn, rfl⟩ := List.mem_mapIdx.mp hd
  exact List.mem_map.mp (hall _ (List.getElem_mem hn))

end LinkPreview.Amqp
