import LinkPreview.Proofs.Amqp.Wear
import Mathlib.Data.List.Induction

/-!
# Sessions that are held

What is true of a program that holds sessions, whatever it did with them and whatever the broker
did. Its sessions have connections of their own, each of which was set up and is closed once at
most. The open connections are those of sessions that are held.
-/

namespace LinkPreview.Amqp

variable {t : Target} {b : Broker} {i j k : Nat} {c : Connection} {es : List Entry}
  {s u : Client} {h : Holder} {x : Session} {step : Step} {steps : List Step}

/-! ## Closing once -/

/-- No connection of a client is closed twice, and none that is open was closed. -/
def Client.ClosesOnce (s : Client) : Prop :=
  ∀ i, closings (conversation s.log i) = [] ∨
    (closings (conversation s.log i)).length = 1 ∧ s.connectionIs i (·.isOpen) = false

theorem Says.closings_eq (h : Says i es s u) (hes : closings es = []) (j : Nat) :
    closings (conversation u.log j) = closings (conversation s.log j) := by
  by_cases hji : j = i
  · rw [hji, h.conversation_eq, closings_append, hes, List.append_nil]
  · rw [h.conversation_of_ne hji]

/-- What closes nothing and opens nothing keeps it so. -/
theorem Client.ClosesOnce.says (h : s.ClosesOnce) (hs : Says i es s u) (hw : s.Wears u)
    (hes : closings es = []) : u.ClosesOnce := by
  intro j
  rw [hs.closings_eq hes]
  exact (h j).imp_right (And.imp_right hw.isOpen_eq_false)

/-- What is left of a connection that is closed. -/
structure IsClosed (b : Broker) (i : Nat) (reason : String) (s u : Client) : Prop where
  log_eq : u.log = if s.connectionIs i (·.isOpen) then
      s.log ++ [⟨i, .closeConnection 200 reason, b.fault? s.log (.closeConnection 200 reason)⟩]
    else s.log
  isOpen_eq : u.connectionIs i (·.isOpen) = false
  isOpen_of_ne : ∀ j, j ≠ i → u.connectionIs j (·.isOpen) = s.connectionIs j (·.isOpen)

theorem isClosed_close (b : Broker) (i : Nat) (reason : String) (s : Client) :
    IsClosed b i reason s (s.close b i reason) := by
  rw [close_eq]
  split
  · rename_i hopen
    refine ⟨(if_pos hopen).symm, ?_, fun j hj => ?_⟩
    · rw [Client.connectionIs, connection?_update]
      cases Client.connection? _ i with
      | none => rfl
      | some c => simp [Connection.lose]
    · rw [connectionIs_update_of_ne hj]
      exact connectionIs_update_of_ne hj _ _ s
  · rename_i hlost
    exact ⟨(if_neg hlost).symm, by simpa using hlost, fun _ _ => rfl⟩

theorem IsClosed.conversation_of_ne {reason : String} (h : IsClosed b i reason s u) (hj : j ≠ i) :
    conversation u.log j = conversation s.log j := by
  rw [h.log_eq]
  split
  · rw [conversation_append, conversation_eq_nil (List.forall_mem_singleton.mpr hj.symm),
      List.append_nil]
  · rfl

/-- Where an open connection is closed, this is what closes it. -/
theorem IsClosed.closings_of_isOpen {reason : String} (h : IsClosed b i reason s u)
    (ho : s.connectionIs i (·.isOpen) = true) (hs : s.ClosesOnce) :
    (closings (conversation u.log i)).length = 1 := by
  have hnone : closings (conversation s.log i) = [] :=
    (hs i).resolve_right fun hclosed => by simp [ho] at hclosed
  rw [h.log_eq, if_pos ho, conversation_append, closings_append, hnone]
  simp [conversation, closings, Method.isClosing]

theorem IsClosed.closesOnce {reason : String} (h : IsClosed b i reason s u) (hs : s.ClosesOnce) :
    u.ClosesOnce := by
  intro j
  by_cases hji : j = i
  · subst hji
    cases ho : s.connectionIs j (·.isOpen) with
    | true => exact .inr ⟨h.closings_of_isOpen ho hs, h.isOpen_eq⟩
    | false =>
        rw [h.log_eq, if_neg (by simp [ho])]
        exact (hs j).imp_right fun hclosed => ⟨hclosed.1, h.isOpen_eq⟩
  · rw [h.conversation_of_ne hji, h.isOpen_of_ne j hji]
    exact hs j

/-- A client that has a further connection, on which something was said. -/
structure Joins (s : Client) (c : Connection) (es : List Entry) (u : Client) : Prop where
  connection_eq : ∀ e ∈ es, e.connection = s.connections.length
  log_eq : u.log = s.log ++ es
  connections_eq : u.connections = s.connections ++ [c]

namespace Joins

theorem connection?_eq (h : Joins s c es u) (j : Nat) :
    u.connection? j = if j = s.connections.length then some c else s.connection? j := by
  rw [Client.connection?, h.connections_eq]
  exact connection?_joined s c es j

theorem isOpen_eq (h : Joins s c es u) (j : Nat) :
    u.connectionIs j (·.isOpen) =
      if j = s.connections.length then c.isOpen else s.connectionIs j (·.isOpen) := by
  rw [Client.connectionIs, h.connection?_eq]
  split <;> rfl

theorem conversation_eq (h : Joins s c es u) {t : Topology} (hk : Kept t s) (j : Nat) :
    conversation u.log j = if j = s.connections.length then es else conversation s.log j := by
  rw [h.log_eq]
  split
  · rename_i hj
    rw [hj]
    exact hk.conversation_joined (c := c) h.connection_eq
  · rename_i hj
    exact conversation_joined_of_ne h.connection_eq hj c

/-- A further connection is not closed unless it is lost. -/
theorem closesOnce (h : Joins s c es u) {t : Topology} (hk : Kept t s) (hs : s.ClosesOnce)
    (he : closings es = [] ∨ (closings es).length = 1 ∧ c.isOpen = false) : u.ClosesOnce := by
  intro j
  rw [h.conversation_eq hk, h.isOpen_eq]
  split
  · exact he
  · exact hs j

end Joins

/-- An abandoned connection was closed once at most. -/
theorem IsAbandoned.closings_length_le {t : Topology} (h : IsAbandoned t es) :
    (closings es).length ≤ 1 := by
  have hnone {es : List Entry} (hes : ∀ e ∈ es, e.method.phase ≠ .use) : closings es = [] :=
    closings_eq_nil fun e he => isClosing_of_phase_ne (hes e he)
  cases h.isGivenUp with
  | early hh =>
      rw [hnone fun e he => by simp [hh e he]]
      exact Nat.zero_le 1
  | @late hello front closing last hh hm _ _ hc =>
      have hbefore : closings (hello ++ (front ++ [last])) = [] := by
        refine hnone (List.forall_mem_append.mpr ⟨fun e he => by simp [hh e he], fun e he => ?_⟩)
        simp [phase_of_mem_channelSetup (hm.subset (List.mem_map_of_mem he))]
      have hsplit : hello ++ front ++ last :: closing =
          hello ++ (front ++ [last]) ++ closing := by simp
      rw [hsplit, closings_append, hbefore, List.nil_append]
      exact Nat.le_trans (List.length_filter_le _ closing) (by simpa using hc.length_le)

/-! ## What lasts -/

namespace Holder

theorem session_turnedTo {turn : Option Nat} (hi : (h.turnedTo turn).session = some i) :
    ∃ k x, turn = some k ∧ h.sessions[k]? = some x ∧ x.isHeld = true ∧ x.connection = i := by
  simp only [turnedTo, Option.map_eq_some_iff, Option.filter_eq_some_iff,
    Option.bind_eq_some_iff] at hi
  obtain ⟨x, ⟨⟨k, hk, hx⟩, hheld⟩, hi⟩ := hi
  exact ⟨k, x, hk, hx, hheld, hi⟩

/-- Only to a session that is held it turns with a session. -/
theorem session_turnedTo_eq (hk : h.sessions[k]? = some x) :
    (h.turnedTo (some k)).session = if x.isHeld then some x.connection else none := by
  simp only [turnedTo, Option.bind_some, hk, Option.filter]
  split <;> rfl

theorem publisher_turnedTo {turn : Option Nat} (hi : (h.turnedTo turn).publisher = some i) :
    ∃ x ∈ h.sessions, x.connection = i := by
  simp only [turnedTo, Option.map_eq_some_iff, Option.bind_eq_some_iff] at hi
  obtain ⟨x, ⟨k, -, hx⟩, hi⟩ := hi
  exact ⟨x, List.mem_of_getElem? hx, hi⟩

/-- Whether the broker did something to the connection of a session, other than to answer. What it
did when this was closed does not count. -/
def IsTroubled (h : Holder) (steps : List Step) (k : Nat) (x : Session) : Prop :=
  (∃ e ∈ h.client.log, e.connection = x.connection ∧ e.isAnswered = false ∧
    e.method.isClosing = false) ∨ ∃ f, .fail k f ∈ steps

/-- What the broker did, it has done. -/
theorem IsTroubled.later {h' : Holder} {x' : Session} (ht : h.IsTroubled steps k x) (step : Step)
    (hlog : h.client.log ⊆ h'.client.log) (hx : x'.connection = x.connection) :
    h'.IsTroubled (steps ++ [step]) k x' := by
  refine ht.imp (fun ⟨e, he, hrest⟩ => ⟨e, hlog he, hx.symm ▸ hrest⟩) fun ⟨f, hf⟩ => ⟨f, ?_⟩
  exact List.mem_append_left _ hf

end Holder

/-- Whether the connection of a session is as it should be: open if the session is held, and closed
once if it is not. -/
def Client.Tends (s : Client) (x : Session) : Prop :=
  if x.isHeld then s.connectionIs x.connection (·.isOpen) = true
  else (closings (conversation s.log x.connection)).length = 1

/-- What is true of a holder after any steps. -/
structure Tended (t : Target) (steps : List Step) (h : Holder) : Prop where
  kept : Kept t.topology h.client
  prepared : ∀ x ∈ h.sessions, IsPrepared t.topology (conversation h.client.log x.connection)
  distinct : (h.sessions.map (·.connection)).Nodup
  sound : ∀ i c, h.client.connection? i = some c → c.IsSound
  held : ∀ i, h.client.connectionIs i (·.isOpen) = true →
    ∃ x ∈ h.sessions, x.connection = i ∧ x.isHeld = true
  closesOnce : h.client.ClosesOnce
  tends : ∀ k x, h.sessions[k]? = some x → h.IsTroubled steps k x ∨ h.client.Tends x

theorem tended_initial (t : Target) : Tended t [] {} where
  kept := kept_initial t.topology
  prepared := by simp
  distinct := List.nodup_nil
  sound := by simp [Client.connection?]
  held := by simp [Client.connectionIs, Client.connection?]
  closesOnce _ := .inl rfl
  tends := by simp

namespace Tended

/-- A holder may turn to any session. -/
theorem turnedTo (hT : Tended t steps h) (turn : Option Nat) :
    Kept t.topology (h.turnedTo turn) := by
  refine ⟨hT.kept.connection_lt, hT.kept.lawful, fun j hj => ?_⟩
  cases hj with
  | session hj =>
      obtain ⟨k, x, -, hx, -, rfl⟩ := Holder.session_turnedTo hj
      exact hT.prepared x (List.mem_of_getElem? hx)
  | publisher hj =>
      obtain ⟨x, hx, rfl⟩ := Holder.publisher_turnedTo hj
      exact hT.prepared x hx
  | delivery hd hj => exact hT.kept.prepared_of_uses j (.delivery hd hj)
  | arrival hc hj => exact hT.kept.prepared_of_uses j (.arrival hc hj)

theorem lt_of_mem (hT : Tended t steps h) (hx : x ∈ h.sessions) :
    x.connection < h.client.connections.length := by
  obtain ⟨k, hk⟩ := List.mem_iff_getElem?.mp hx
  have huse : (h.turnedTo (some k)).Uses x.connection := .publisher (by simp [Holder.turnedTo, hk])
  exact (hT.turnedTo (some k)).lt_of_uses huse

theorem eq_of_connection_eq (hT : Tended t steps h) {k' : Nat} {x' : Session}
    (hk : h.sessions[k]? = some x) (hk' : h.sessions[k']? = some x')
    (hx : x.connection = x'.connection) : k = k' := by
  have hlt : k < (h.sessions.map (·.connection)).length := by
    rw [List.length_map]
    exact (List.getElem?_eq_some_iff.mp hk).1
  refine (List.getElem?_inj hlt hT.distinct).mp ?_
  simp [hk, hk', hx]

end Tended

/-! ## Making connections -/

theorem IsSetUp.closings_eq_nil {t : Topology} (h : IsSetUp t es) : closings es = [] :=
  Amqp.closings_eq_nil fun e he => isClosing_of_phase_ne (h.phase_ne e he)

/-- What comes of a further session: nobody listens, the connection is abandoned, or it is set up
and there is a session. -/
inductive Connected (t : Target) (h : Holder) : Holder × Effect → Prop where
  | unreached : Connected t h ({ h with client := h.turnedTo none }, .done false)
  | abandoned {es : List Entry} (hc : ∀ e ∈ es, e.connection = h.client.connections.length)
      (he : IsAbandoned t.topology es) :
      Connected t h
        ({ h with client := (h.turnedTo none).joined { isOpen := false } es }, .done false)
  | opened {es : List Entry} (hc : ∀ e ∈ es, e.connection = h.client.connections.length)
      (he : IsSetUp t.topology es) :
      Connected t h
        ({ client :=
            { (h.turnedTo none).joined { hasChannel := true, isConsuming := true } es with
              session := some h.client.connections.length
              publisher := some h.client.connections.length }
           sessions := h.sessions ++ [⟨h.client.connections.length, true⟩] }, .done true)

theorem connected_act (t : Target) (h : Holder) : Connected t h (h.act t .connect) := by
  have hact : h.act t .connect =
      ({ client := ((h.turnedTo none).connect t).1
         sessions := h.sessionsAfter .connect (.done ((h.turnedTo none).connect t).2) },
        .done ((h.turnedTo none).connect t).2) := rfl
  rw [hact]
  rcases connect_eq_or_dialled t (h.turnedTo none) with he | hd
  · rw [he]
    exact .unreached
  · generalize (h.turnedTo none).connect t = p at hd
    cases hd with
    | givenUp hc he => exact .abandoned hc he
    | setUp hc he => exact .opened hc he

namespace Tended

/-- A further connection leaves the sessions there were as they are. -/
theorem tends_of_joins (hT : Tended t steps h) (hu : Joins h.client c es u) (step : Step)
    (sessions : List Session) (hk : h.sessions[k]? = some x) :
    Holder.IsTroubled ⟨u, sessions⟩ (steps ++ [step]) k x ∨ u.Tends x := by
  have hne : x.connection ≠ h.client.connections.length :=
    Nat.ne_of_lt (hT.lt_of_mem (List.mem_of_getElem? hk))
  have hlog : h.client.log ⊆ u.log := hu.log_eq ▸ List.subset_append_left _ _
  refine (hT.tends k x hk).imp (·.later step hlog rfl) fun htends => ?_
  unfold Client.Tends at htends ⊢
  rwa [hu.isOpen_eq, hu.conversation_eq hT.kept, if_neg hne, if_neg hne]

theorem prepared_of_joins (hT : Tended t steps h) (hu : Joins h.client c es u) :
    ∀ x ∈ h.sessions, IsPrepared t.topology (conversation u.log x.connection) := by
  intro x hx
  rw [hu.conversation_eq hT.kept, if_neg (Nat.ne_of_lt (hT.lt_of_mem hx))]
  exact hT.prepared x hx

theorem sound_of_joins (hT : Tended t steps h) (hu : Joins h.client c es u) (hc : c.IsSound)
    (i : Nat) (d : Connection) (hd : u.connection? i = some d) : d.IsSound := by
  rw [hu.connection?_eq] at hd
  split at hd
  · cases hd
    exact hc
  · exact hT.sound i d hd

/-- A connection that is abandoned is not open, and was closed once at most. -/
theorem abandon (hT : Tended t steps h) (hu : Joins h.client { isOpen := false } es u)
    (hkept : Kept t.topology u) (he : IsAbandoned t.topology es) :
    Tended t (steps ++ [.connect]) { h with client := u } := by
  have hclosings := Nat.le_one_iff_eq_zero_or_eq_one.mp he.closings_length_le
  refine
    { kept := hkept
      prepared := hT.prepared_of_joins hu
      distinct := hT.distinct
      sound := hT.sound_of_joins hu (nomatch ·)
      held := fun i hi => ?_
      closesOnce := hu.closesOnce hT.kept hT.closesOnce
        (hclosings.imp List.length_eq_zero_iff.mp fun h => ⟨h, rfl⟩)
      tends := fun k x hk => hT.tends_of_joins hu _ _ hk }
  rw [hu.isOpen_eq] at hi
  split at hi
  · cases hi
  · exact hT.held i hi

/-- A connection that was set up has a session, which is held. -/
theorem hold (hT : Tended t steps h)
    (hu : Joins h.client { hasChannel := true, isConsuming := true } es u)
    (hkept : Kept t.topology u) (he : IsSetUp t.topology es) :
    Tended t (steps ++ [.connect])
      ⟨u, h.sessions ++ [⟨h.client.connections.length, true⟩]⟩ := by
  have hnew : conversation u.log h.client.connections.length = es := by
    rw [hu.conversation_eq hT.kept, if_pos rfl]
  refine
    { kept := hkept
      prepared := ?_
      distinct := ?_
      sound := hT.sound_of_joins hu fun _ => rfl
      held := fun i hi => ?_
      closesOnce := hu.closesOnce hT.kept hT.closesOnce (.inl he.closings_eq_nil)
      tends := fun k x hk => ?_ }
  · refine List.forall_mem_append.mpr
      ⟨hT.prepared_of_joins hu, List.forall_mem_singleton.mpr ?_⟩
    rw [hnew]
    exact he.isPrepared
  · rw [List.map_append, List.nodup_append]
    refine ⟨hT.distinct, by simp, fun i hi j hj => ?_⟩
    obtain ⟨x, hx, rfl⟩ := List.mem_map.mp hi
    rw [List.mem_singleton.mp hj]
    exact Nat.ne_of_lt (hT.lt_of_mem hx)
  · rw [hu.isOpen_eq] at hi
    split at hi
    · rename_i hn
      exact ⟨_, List.mem_append_right _ List.mem_cons_self, hn.symm, rfl⟩
    · obtain ⟨x, hx, hrest⟩ := hT.held i hi
      exact ⟨x, List.mem_append_left _ hx, hrest⟩
  · rw [List.getElem?_append] at hk
    split at hk
    · exact hT.tends_of_joins hu _ _ hk
    · right
      have hx := List.mem_singleton.mp (List.mem_of_getElem? hk)
      rw [hx]
      simp [Client.Tends, hu.isOpen_eq]

/-- Whatever comes of a further session, it is tended like the others. -/
theorem connect (hT : Tended t steps h) : Tended t (steps ++ [.connect]) (h.act t .connect).1 := by
  have hkept : Kept t.topology (h.act t .connect).1.client := (hT.turnedTo none).act .connect
  have hconnected := connected_act t h
  generalize h.act t .connect = p at hkept hconnected
  cases hconnected with
  | unreached =>
      exact ⟨hkept, hT.prepared, hT.distinct, hT.sound, hT.held, hT.closesOnce, fun k x hk =>
        (hT.tends k x hk).imp_left (·.later _ (List.Subset.refl _) rfl)⟩
  | abandoned hc he => exact hT.abandon ⟨hc, rfl, rfl⟩ hkept he
  | opened hc he => exact hT.hold ⟨hc, rfl, rfl⟩ hkept he

/-! ## Using and ending sessions -/

/-- What happens to a session leaves the connections of all as they were set up. -/
theorem act_of_ne (hT : Tended t steps h) (hne : step ≠ .connect) :
    Kept t.topology (h.act t step).1.client ∧
      (∀ x ∈ h.sessions,
        IsPrepared t.topology (conversation (h.act t step).1.client.log x.connection)) ∧
      (∀ i c, (h.act t step).1.client.connection? i = some c → c.IsSound) ∧
      h.client.log ⊆ (h.act t step).1.client.log := by
  obtain ⟨i, es, hes, hphase, huse, -⟩ := exists_says_step t hne (h.turnedTo step.session?)
  refine ⟨(hT.turnedTo _).extend hes hphase huse,
    fun x hx => hes.isPrepared hphase (hT.prepared x hx), fun j d hd => ?_, ?_⟩
  · obtain ⟨c, hc, hcd⟩ := wears_step t hne (h.turnedTo step.session?) j d hd
    exact hcd.isSound (hT.sound j c hc)
  · exact hes.log_eq ▸ List.subset_append_left _ _

/-- Nothing that happens to a session but its end closes a connection. -/
theorem use (hT : Tended t steps h) (hne : step ≠ .connect) (hend : ∀ k, step ≠ .endSession k) :
    Tended t (steps ++ [step]) (h.act t step).1 := by
  obtain ⟨hkept, hprepared, hsound, hlog⟩ := hT.act_of_ne hne
  obtain ⟨i, es, hes, -, -, hclosing⟩ := exists_says_step t hne (h.turnedTo step.session?)
  have hnone := hclosing hend
  have hwears := wears_step t hne (h.turnedTo step.session?)
  have hsessions : (h.act t step).1.sessions = h.sessions := by
    cases step <;> first | rfl | exact absurd rfl hne | exact absurd rfl (hend _)
  refine
    { kept := hkept
      prepared := hsessions ▸ hprepared
      distinct := hsessions ▸ hT.distinct
      sound := hsound
      held := fun i hi => hsessions ▸ hT.held i (hwears.isOpen hi)
      closesOnce := Client.ClosesOnce.says (s := h.turnedTo _) hT.closesOnce hes hwears hnone
      tends := fun k x hk => ?_ }
  rw [hsessions] at hk
  rcases hT.tends k x hk with htrouble | htends
  · exact .inl (htrouble.later step hlog rfl)
  · cases hx : x.isHeld with
    | false =>
        right
        simp only [Client.Tends, hx, Bool.false_eq_true, if_false] at htends ⊢
        exact (hes.closings_eq hnone x.connection).symm ▸ htends
    | true =>
        simp only [Client.Tends, hx, if_true] at htends ⊢
        rcases isOpen_step t hne hend hes.log_eq htends with hopen | ⟨e, he, hex, hea⟩ | hfail
        · exact .inr hopen
        · refine .inl (.inl ⟨e, hes.log_eq ▸ List.mem_append_right _ he, hex, hea, ?_⟩)
          simpa using List.filter_eq_nil_iff.mp hnone e he
        · obtain ⟨k', f, rfl, hsession⟩ := hfail
          obtain ⟨_, x', hturn, hk', -, hx'⟩ := Holder.session_turnedTo hsession
          cases hturn
          rw [hT.eq_of_connection_eq hk hk' hx'.symm]
          exact .inl (.inr ⟨f, List.mem_append_right _ List.mem_cons_self⟩)

/-- To end a session closes its connection, if the session is held; otherwise nothing happens. -/
theorem isClosed_or_eq_of_endSession (t : Target) (h : Holder) (k : Nat) :
    (∃ x, h.sessions[k]? = some x ∧ x.isHeld = true ∧
      IsClosed t.broker x.connection "consumer session ended" h.client
        (h.act t (.endSession k)).1.client) ∨
      (∀ x, h.sessions[k]? = some x → x.isHeld = false) ∧
        (h.act t (.endSession k)).1.client = h.turnedTo (some k) := by
  have hact : (h.act t (.endSession k)).1.client = (h.turnedTo (some k)).endSession t.broker := rfl
  rw [hact]
  cases hk : h.sessions[k]? with
  | none => exact .inr ⟨nofun, by simp [Client.endSession, Holder.turnedTo, hk]⟩
  | some x =>
      cases hx : x.isHeld with
      | false =>
          refine .inr ⟨fun y hy => ?_, ?_⟩
          · cases hy
            exact hx
          · rw [Client.endSession, Holder.session_turnedTo_eq hk, hx]
            rfl
      | true =>
          refine .inl ⟨x, rfl, hx, ?_⟩
          have hclosed := isClosed_close t.broker x.connection "consumer session ended"
            { h.turnedTo (some k) with session := none }
          rw [Client.endSession, Holder.session_turnedTo_eq hk, hx]
          exact ⟨hclosed.log_eq, hclosed.isOpen_eq, hclosed.isOpen_of_ne⟩

theorem sessions_endSession (t : Target) (h : Holder) (k k' : Nat) :
    (h.act t (.endSession k)).1.sessions[k']? =
      (h.sessions[k']?).map fun x => if k = k' then { x with isHeld := false } else x := by
  change (h.sessions.modify k _)[k']? = _
  simp [List.getElem?_modify]

/-- What is still open belongs to another session, which is held. -/
theorem held_endSession (hT : Tended t steps h) (k : Nat)
    (hi : (h.act t (.endSession k)).1.client.connectionIs i (·.isOpen) = true) :
    ∃ x ∈ (h.act t (.endSession k)).1.sessions, x.connection = i ∧ x.isHeld = true := by
  have hne : Step.endSession k ≠ .connect := nofun
  obtain ⟨x, hx, rfl, hheld⟩ := hT.held i ((wears_step t hne (h.turnedTo (some k))).isOpen hi)
  obtain ⟨k', hk'⟩ := List.mem_iff_getElem?.mp hx
  have hkk' : k ≠ k' := by
    rintro rfl
    rcases isClosed_or_eq_of_endSession t h k with ⟨y, hy, -, hc⟩ | ⟨hn, -⟩
    · cases hk'.symm.trans hy
      rw [hc.isOpen_eq] at hi
      cases hi
    · rw [hn x hk'] at hheld
      cases hheld
  have hsame := sessions_endSession t h k k'
  rw [hk', Option.map_some, if_neg hkk'] at hsame
  exact ⟨x, List.mem_of_getElem? hsame, rfl, hheld⟩

/-- The connection of the session that is ended was closed once, and the others are as they were. -/
theorem tends_endSession (hT : Tended t steps h) (k : Nat) {k' : Nat}
    (hx : h.sessions[k']? = some x) (htends : h.client.Tends x) :
    (h.act t (.endSession k)).1.client.Tends
      (if k = k' then { x with isHeld := false } else x) := by
  rcases isClosed_or_eq_of_endSession t h k with ⟨y, hy, hheld, hc⟩ | ⟨hn, he⟩
  · split
    · rename_i hkk
      cases (hkk ▸ hy).symm.trans hx
      simp only [Client.Tends, hheld, if_true] at htends
      exact hc.closings_of_isOpen htends hT.closesOnce
    · rename_i hkk
      have hne : x.connection ≠ y.connection := fun hxy =>
        hkk (hT.eq_of_connection_eq hy hx hxy.symm)
      unfold Client.Tends at htends ⊢
      rwa [hc.isOpen_of_ne _ hne, hc.conversation_of_ne hne]
  · rw [he]
    split
    · rename_i hkk
      have hended : x.isHeld = false := hn x (hkk ▸ hx)
      simp only [Client.Tends, hended] at htends ⊢
      exact htends
    · exact htends

/-- A session that is ended is held no longer, and its connection is closed. -/
theorem endSession (hT : Tended t steps h) (k : Nat) :
    Tended t (steps ++ [.endSession k]) (h.act t (.endSession k)).1 := by
  have hne : Step.endSession k ≠ .connect := nofun
  obtain ⟨hkept, hprepared, hsound, hlog⟩ := hT.act_of_ne hne
  have hconn : (h.act t (.endSession k)).1.sessions.map (·.connection) =
      h.sessions.map (·.connection) :=
    map_modify_of_eq (f := ({ · with isHeld := false })) (fun _ => rfl) h.sessions k
  refine
    { kept := hkept
      prepared := fun x' hx' => ?_
      distinct := hconn ▸ hT.distinct
      sound := hsound
      held := fun i hi => hT.held_endSession k hi
      closesOnce := ?_
      tends := fun k' x' hk' => ?_ }
  · have hmem := List.mem_map_of_mem (f := (·.connection)) hx'
    rw [hconn, List.mem_map] at hmem
    obtain ⟨x, hx, hxx⟩ := hmem
    exact hxx ▸ hprepared x hx
  · rcases isClosed_or_eq_of_endSession t h k with ⟨x, -, -, hc⟩ | ⟨-, he⟩
    · exact hc.closesOnce hT.closesOnce
    · rw [he]
      exact hT.closesOnce
  · rw [sessions_endSession, Option.map_eq_some_iff] at hk'
    obtain ⟨x, hx, rfl⟩ := hk'
    have hconnection : (if k = k' then { x with isHeld := false } else x).connection =
        x.connection := by split <;> rfl
    exact (hT.tends k' x hx).imp (·.later _ hlog hconnection) (hT.tends_endSession k hx)

theorem act (hT : Tended t steps h) (step : Step) :
    Tended t (steps ++ [step]) (h.act t step).1 := by
  by_cases hne : step = .connect
  · rw [hne]
    exact hT.connect
  · by_cases hend : ∃ k, step = .endSession k
    · obtain ⟨k, rfl⟩ := hend
      exact hT.endSession k
    · exact hT.use hne fun k hk => hend ⟨k, hk⟩

end Tended

/-! ## Whole runs -/

theorem Holder.afterAll_concat (t : Target) (steps : List Step) (step : Step) :
    Holder.afterAll t (steps ++ [step]) = ((Holder.afterAll t steps).act t step).1 := by
  simp [Holder.afterAll]

/-- What is true at first and kept by every step is true after all steps. -/
theorem tended_afterAll (t : Target) (steps : List Step) :
    Tended t steps (Holder.afterAll t steps) := by
  induction steps using List.reverseRecOn with
  | nil => exact tended_initial t
  | append_singleton steps step ih =>
      rw [Holder.afterAll_concat]
      exact ih.act step

/-- What is noted of several steps, one after another, by what is noted of each. -/
def Holder.gather {α : Type} (t : Target) (note : Holder → Step → List α) :
    Holder → List Step → List α
  | _, [] => []
  | h, step :: steps => note h step ++ (h.act t step).1.gather t note steps

theorem Holder.gather_append {α : Type} (t : Target) (note : Holder → Step → List α) (h : Holder)
    (steps later : List Step) :
    h.gather t note (steps ++ later) =
      h.gather t note steps ++
        (steps.foldl (fun h step => (h.act t step).1) h).gather t note later := by
  induction steps generalizing h with
  | nil => rfl
  | cons step steps ih => simp [Holder.gather, ih]

/-- What is noted of all that was done since there was no session. -/
def notes {α : Type} (t : Target) (note : Holder → Step → List α) (steps : List Step) : List α :=
  Holder.gather t note {} steps

theorem notes_concat {α : Type} (t : Target) (note : Holder → Step → List α) (steps : List Step)
    (step : Step) :
    notes t note (steps ++ [step]) = notes t note steps ++ note (Holder.afterAll t steps) step := by
  simp [notes, Holder.gather_append, Holder.gather, Holder.afterAll]

/-! ## What the broker receives -/

/-- What the broker receives in a step. -/
def Holder.received (t : Target) (h : Holder) (step : Step) : List Entry :=
  (h.act t step).1.client.log.drop h.client.log.length

theorem Holder.received_eq (hlog : (h.act t step).1.client.log = h.client.log ++ es) :
    h.received t step = es := by
  rw [Holder.received, hlog, List.drop_left]

/-- What may be sent in a step. -/
def Step.Sends : Step → Method → Prop
  | .connect, m => m.phase ≠ .use ∨ m.isClosing = true
  | .settle _ how, m => ∃ tag, m = settling tag how
  | .publish _ queue body, m => m = message queue body
  | .endSession _, m => m.isClosing = true
  | .deliver .., _ | .next _, _ | .fail .., _ | .stopConsuming _, _ => False

/-- On an abandoned connection nothing is used, but it may be closed. -/
theorem IsAbandoned.phase_ne_or {t : Topology} (h : IsAbandoned t es) :
    ∀ e ∈ es, e.method.phase ≠ .use ∨ e.method.isClosing = true := by
  intro e he
  by_cases hp : e.method.phase = .use
  · exact .inr (by rw [h.isGivenUp.method_eq he hp]; rfl)
  · exact .inl hp

/-- To get, to lose or to give out messages is to send nothing. -/
theorem log_step_eq (hsends : ∀ m, ¬step.Sends m) (hne : step ≠ .connect) (s : Client) :
    (s.step t step).1.log = s.log := by
  cases step with
  | connect => exact absurd rfl hne
  | settle number how => exact absurd ⟨0, rfl⟩ (hsends (settling 0 how))
  | publish k queue body => exact absurd rfl (hsends (message queue body))
  | endSession k => exact absurd rfl (hsends (.closeConnection 200 ""))
  | deliver k tag payload =>
      simp only [Client.step, Client.deliver]
      split <;> rfl
  | next k =>
      change s.next.1.log = s.log
      have hgiving := givingOut_next s
      generalize s.next = given at hgiving
      cases hgiving <;> rfl
  | fail k fault =>
      simp only [Client.step, Client.act, Client.suffer]
      split
      · rfl
      · split <;> rfl
  | stopConsuming k =>
      simp only [Client.step, Client.act, Client.stopConsuming]
      split <;> rfl

/-- In each step the broker receives what may be sent in it. -/
theorem exists_received (t : Target) (h : Holder) (step : Step) :
    ∃ es, (h.act t step).1.client.log = h.client.log ++ es ∧ ∀ e ∈ es, step.Sends e.method := by
  have hsilent (hsends : ∀ m, ¬step.Sends m) (hne : step ≠ .connect) :
      ∃ es, (h.act t step).1.client.log = h.client.log ++ es ∧ ∀ e ∈ es, step.Sends e.method :=
    ⟨[], (log_step_eq hsends hne (h.turnedTo _)).trans (List.append_nil _).symm, by simp⟩
  cases step with
  | deliver | next | fail | stopConsuming => exact hsilent (fun _ => id) nofun
  | connect =>
      have hconnected := connected_act t h
      generalize h.act t .connect = p at hconnected
      cases hconnected with
      | unreached => exact ⟨[], (List.append_nil _).symm, by simp⟩
      | abandoned hc he => exact ⟨_, rfl, he.phase_ne_or⟩
      | opened hc he => exact ⟨_, rfl, fun e hmem => .inl (he.phase_ne e hmem)⟩
  | settle number how =>
      change ∃ es, ((h.turnedTo none).settle t.broker number how).1.log = _ ∧ _
      have hsettling := settling_settle t.broker number how (h.turnedTo none)
      generalize (h.turnedTo none).settle t.broker number how = settled at hsettling
      cases hsettling with
      | unknown | missed => exact ⟨[], (List.append_nil _).symm, by simp⟩
      | said => exact ⟨_, rfl, List.forall_mem_singleton.mpr ⟨_, rfl⟩⟩
  | publish k queue body =>
      change ∃ es, ((h.turnedTo (some k)).publish t.broker queue body).1.log = _ ∧ _
      have hpublishing := publishing_publish t.broker queue body (h.turnedTo (some k))
      generalize (h.turnedTo (some k)).publish t.broker queue body = published at hpublishing
      cases hpublishing with
      | said => exact ⟨_, rfl, List.forall_mem_singleton.mpr rfl⟩
      | missed => exact ⟨[], (List.append_nil _).symm, by simp⟩
  | endSession k =>
      rcases Tended.isClosed_or_eq_of_endSession t h k with ⟨x, -, -, hc⟩ | ⟨-, he⟩
      · rw [hc.log_eq]
        split
        · exact ⟨_, rfl, List.forall_mem_singleton.mpr rfl⟩
        · exact ⟨[], (List.append_nil _).symm, by simp⟩
      · rw [he]
        exact ⟨[], (List.append_nil _).symm, by simp⟩

theorem Holder.log_act (t : Target) (h : Holder) (step : Step) :
    (h.act t step).1.client.log = h.client.log ++ h.received t step := by
  obtain ⟨es, hes, -⟩ := exists_received t h step
  rw [Holder.received_eq hes, hes]

theorem sends_of_mem_received {e : Entry} (he : e ∈ h.received t step) : step.Sends e.method := by
  obtain ⟨es, hes, hsends⟩ := exists_received t h step
  exact hsends e (Holder.received_eq hes ▸ he)

end LinkPreview.Amqp
