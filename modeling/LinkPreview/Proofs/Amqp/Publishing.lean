import LinkPreview.Proofs.Amqp.Holding

/-!
# How messages are published

A message counts as published exactly if the broker has stored it and confirmed that. Every session
has a channel on which confirms were granted, so nothing is published without waiting for one: what
is refused, or never answered, is reported as an error. Over a whole run, what the broker stored and
confirmed is what was reported, one message after another.
-/

namespace LinkPreview.Amqp

variable {t : Target} {i k : Nat} {queue : String} {body : List UInt8} {h : Holder} {x : Session}
  {es : List Entry} {step : Step} {steps : List Step}

/-- Whether something is a message for a queue. -/
def Method.isMessage : Method → Bool
  | publish .. => true
  | _ => false

/-- The messages that the broker stored and confirmed, of what it received. -/
def stored (log : List Entry) : List Entry :=
  log.filter fun e => e.method.isMessage && e.fault.isNone

theorem stored_append (es fs : List Entry) : stored (es ++ fs) = stored es ++ stored fs :=
  List.filter_append es fs

theorem stored_eq_nil (h : ∀ e ∈ es, e.method.isMessage = false) : stored es = [] :=
  List.filter_eq_nil_iff.mpr fun e he => by simp [h e he]

/-- What comes of publishing a message, by what the broker received on the connection and did. -/
inductive Published (i : Nat) (queue : String) (body : List UInt8) :
    List Entry → Effect → Prop where
  /-- The broker has stored the message and confirmed that. -/
  | stored : Published i queue body [⟨i, message queue body, none⟩] (.publication .confirmed)
  /-- It has refused the message. -/
  | refused :
      Published i queue body [⟨i, message queue body, some .refuse⟩]
        (.publication (.refused queue))
  /-- The channel or the connection was lost before the message was confirmed. -/
  | lost {fault : Fault} (hf : fault ≠ .refuse) :
      Published i queue body [⟨i, message queue body, some fault⟩] (.publication .failed)
  /-- The channel was gone before, so there was nothing to send the message on. -/
  | gone : Published i queue body [] (.publication .failed)

namespace Published

variable {effect : Effect}

/-- No error is reported exactly if the broker has stored the message and confirmed that. -/
theorem error?_eq_none_iff (h : Published i queue body es effect) (account : String) :
    effect.error? account = none ↔ es = [⟨i, message queue body, none⟩] := by
  cases h with
  | stored => exact iff_of_true rfl rfl
  | refused | lost | gone => exact iff_of_false nofun nofun

/-- What the broker did instead gives an error of the transport. -/
theorem error?_of_fault {fault : Fault}
    (h : Published i queue body [⟨i, message queue body, some fault⟩] effect) (account : String) :
    effect.error? account =
      some (.transport (if fault = .refuse then "broker refused message for queue " ++ queue
        else account)) := by
  cases h with
  | refused => rfl
  | lost hf =>
      rw [if_neg hf]
      rfl

theorem error?_of_nil (h : Published i queue body [] effect) (account : String) :
    effect.error? account = some (.transport account) := by
  cases h
  rfl

theorem ne_unconfirmed (h : Published i queue body es effect) :
    effect ≠ .publication .unconfirmed := by
  cases h <;> nofun

end Published

/-! ## Publishing on a session -/

/-- Confirms were granted on the connection of every session. -/
theorem Tended.hasConfirms (hT : Tended t steps h) (hx : x ∈ h.sessions) :
    h.client.hasConfirms x.connection = true := by
  obtain ⟨k, hk⟩ := List.mem_iff_getElem?.mp hx
  have huse : (h.turnedTo (some k)).Uses x.connection := .publisher (by simp [Holder.turnedTo, hk])
  obtain ⟨e, he, hi, hm, ha⟩ :=
    (hT.turnedTo (some k)).exists_step huse (m := .selectConfirms) (by simp [channelSetup])
  exact List.any_eq_true.mpr ⟨e, he, by simp [hi, hm, ha]⟩

theorem published_ofFault (i : Nat) (queue : String) (body : List UInt8) (fault : Option Fault) :
    Published i queue body [⟨i, message queue body, fault⟩]
      (.publication (.ofFault queue fault)) := by
  cases fault with
  | none => exact .stored
  | some f =>
      cases f with
      | refuse => exact .refused
      | drop | closeChannel | closeConnection | garbage => exact .lost nofun

/-- A message is sent on the connection of its session, if the channel is there. -/
theorem Tended.published (hT : Tended t steps h) (hk : h.sessions[k]? = some x) (queue : String)
    (body : List UInt8) :
    Published x.connection queue body (h.received t (.publish k queue body))
        (h.act t (.publish k queue body)).2 ∧
      (h.received t (.publish k queue body) = [] ↔
        h.client.connectionIs x.connection (·.hasChannel) = false) := by
  have hpublisher : (h.turnedTo (some k)).publisher = some x.connection := by
    simp [Holder.turnedTo, hk]
  have hpublishing := publishing_publish t.broker queue body (h.turnedTo (some k))
  have hreceived : h.received t (.publish k queue body) =
      ((h.turnedTo (some k)).publish t.broker queue body).1.log.drop h.client.log.length := rfl
  have heffect : (h.act t (.publish k queue body)).2 =
      .publication ((h.turnedTo (some k)).publish t.broker queue body).2 := rfl
  rw [hreceived, heffect]
  generalize (h.turnedTo (some k)).publish t.broker queue body = p at hpublishing
  cases hpublishing with
  | said hi hc =>
      cases hpublisher.symm.trans hi
      have hconfirms : (h.turnedTo (some k)).hasConfirms x.connection = true :=
        hT.hasConfirms (List.mem_of_getElem? hk)
      change Published _ _ _ ((h.client.log ++ _).drop _) _ ∧ ((h.client.log ++ _).drop _ = [] ↔ _)
      rw [List.drop_left, if_pos hconfirms]
      exact ⟨published_ofFault .., iff_of_false (List.cons_ne_nil _ _) fun hn =>
        Bool.false_ne_true (hn.symm.trans hc)⟩
  | missed hm =>
      change Published _ _ _ (h.client.log.drop _) _ ∧ (h.client.log.drop _ = [] ↔ _)
      rw [List.drop_length]
      exact ⟨.gone, iff_of_true rfl (hm _ hpublisher)⟩

/-- Without a session, nothing is published. -/
theorem published_of_none (hk : h.sessions[k]? = none) (queue : String) (body : List UInt8) :
    h.received t (.publish k queue body) = [] ∧
      (h.act t (.publish k queue body)).2 = .publication .failed := by
  have hact : h.act t (.publish k queue body) =
      ({ h with client := h.turnedTo (some k) }, .publication .failed) := by
    simp [Holder.act, Client.step, Client.act, Client.publish, Step.session?, Holder.turnedTo, hk,
      Holder.sessionsAfter]
  refine ⟨Holder.received_eq ?_, by rw [hact]⟩
  rw [hact, List.append_nil]
  rfl

/-! ## Whole runs -/

/-- The message that was reported as published in a step, as the broker stores it. -/
def Holder.reported (t : Target) (h : Holder) (step : Step) : List Entry :=
  match step, (h.act t step).2 with
  | .publish k queue body, .publication p =>
    if p.isOk then (h.sessions[k]?).toList.map (⟨·.connection, message queue body, none⟩) else []
  | _, _ => []

theorem Step.Sends.isMessage_eq_false {m : Method} (h : step.Sends m)
    (hne : ∀ k queue body, step ≠ .publish k queue body) : m.isMessage = false := by
  cases step with
  | publish k queue body => exact absurd rfl (hne k queue body)
  | deliver | next | fail | stopConsuming => exact h.elim
  | connect =>
      cases m with
      | publish => exact absurd h (by simp [Step.Sends, Method.phase, Method.isClosing])
      | _ => rfl
  | settle number how =>
      obtain ⟨tag, rfl⟩ := h
      cases how <;> rfl
  | endSession k =>
      cases m with
      | publish => cases h
      | _ => rfl

theorem stored_singleton (i : Nat) (queue : String) (body : List UInt8) (fault : Option Fault) :
    stored [⟨i, message queue body, fault⟩] =
      if fault = none then [⟨i, message queue body, fault⟩] else [] := by
  cases fault <;> rfl

/-- In each step the broker stores what is reported as published, no more and no less. -/
theorem Tended.stored_received (hT : Tended t steps h) (step : Step) :
    stored (h.received t step) = h.reported t step := by
  have hother (hne : ∀ k queue body, step ≠ .publish k queue body) :
      stored (h.received t step) = [] :=
    stored_eq_nil fun e he => (sends_of_mem_received he).isMessage_eq_false hne
  cases step with
  | connect | deliver | next | settle | fail | stopConsuming | endSession => exact hother nofun
  | publish k queue body =>
      cases hk : h.sessions[k]? with
      | none =>
          obtain ⟨hreceived, heffect⟩ := published_of_none (t := t) hk queue body
          unfold Holder.reported
          rw [hreceived, heffect]
          rfl
      | some x =>
          have hpublished := (hT.published hk queue body).1
          unfold Holder.reported
          generalize (h.act t (.publish k queue body)).2 = effect at hpublished
          generalize h.received t (.publish k queue body) = es at hpublished
          cases hpublished with
          | stored => simp [hk, Publication.isOk, stored_singleton]
          | refused | lost | gone => rfl

/-- Over a whole run, the broker has stored what was reported. -/
theorem stored_afterAll (t : Target) (steps : List Step) :
    stored (Holder.afterAll t steps).client.log = notes t (Holder.reported t) steps := by
  induction steps using List.reverseRecOn with
  | nil => rfl
  | append_singleton steps step ih =>
      rw [Holder.afterAll_concat, Holder.log_act, stored_append, ih,
        (tended_afterAll t steps).stored_received, notes_concat]

/-- What comes of publishing on the sessions there are after some steps, and what came of it. -/
structure PublishesWhatIsStored (t : Target) (steps : List Step) (h : Holder) : Prop where
  /-- Confirms were granted on the connection of every session, so no message goes without. -/
  granted : ∀ x ∈ h.sessions, h.client.hasConfirms x.connection = true
  awaited : ∀ k queue body, (h.act t (.publish k queue body)).2 ≠ .publication .unconfirmed
  /-- It goes well exactly if the broker receives the message for this queue, as one that survives a
  restart and is in JSON, and confirms it. -/
  stored : ∀ k x queue body account, h.sessions[k]? = some x →
    ((h.act t (.publish k queue body)).2.error? account = none ↔
      h.received t (.publish k queue body) =
        [⟨x.connection, .publish queue "application/json" 2 body, none⟩])
  /-- What the broker does instead, at whatever time, gives an error of the transport. -/
  failed : ∀ k x queue body account, h.sessions[k]? = some x →
    ∀ fault, h.received t (.publish k queue body) =
        [⟨x.connection, .publish queue "application/json" 2 body, some fault⟩] →
      (h.act t (.publish k queue body)).2.error? account =
        some (.transport (if fault = .refuse then "broker refused message for queue " ++ queue
          else account))
  /-- So does a channel that was lost before; the broker receives nothing then. -/
  gone : ∀ k x queue body account, h.sessions[k]? = some x →
    h.client.connectionIs x.connection (·.hasChannel) = false →
      h.received t (.publish k queue body) = [] ∧
        (h.act t (.publish k queue body)).2.error? account = some (.transport account)
  /-- What the broker stored and confirmed so far is what was reported as published. -/
  ledger : Amqp.stored h.client.log = notes t (Holder.reported t) steps

/-- Whatever the broker does, and whatever is done with how many sessions: a message is reported as
published exactly if the broker has stored it and confirmed that. -/
theorem published_exactly_if_stored (t : Target) (steps : List Step) :
    PublishesWhatIsStored t steps (Holder.afterAll t steps) := by
  have hT := tended_afterAll t steps
  have hledger := stored_afterAll t steps
  generalize Holder.afterAll t steps = h at hT hledger
  refine
    { granted := fun x hx => hT.hasConfirms hx
      awaited := fun k queue body => ?_
      stored := fun k x queue body account hk =>
        (hT.published hk queue body).1.error?_eq_none_iff account
      failed := fun k x queue body account hk fault hf => ?_
      gone := fun k x queue body account hk hc => ?_
      ledger := hledger }
  · cases hk : h.sessions[k]? with
    | none =>
        rw [(published_of_none hk queue body).2]
        nofun
    | some x => exact (hT.published hk queue body).1.ne_unconfirmed
  · have hpublished := (hT.published hk queue body).1
    rw [hf] at hpublished
    exact hpublished.error?_of_fault account
  · obtain ⟨hpublished, hnone⟩ := hT.published hk queue body
    rw [hnone.mpr hc] at hpublished
    exact ⟨hnone.mpr hc, hpublished.error?_of_nil account⟩

/-- A broker that refuses the first message, and drops the connection at the third. -/
def moody : Target where
  address := "amqp://127.0.0.1"
  topology := ⟨"preview_jobs", "preview_results", 4⟩
  broker := .scripted ⟨0, 131072, 0⟩ fun name =>
    if name = "basic.publish" then [some .refuse, none, some .drop] else []
  isListening _ _ := true

/-- Of the messages to such a broker only the second is stored. Behind the third, the session
publishes nothing. -/
theorem published_exactly_if_stored_of_second :
    stored (Holder.afterAll moody [.connect, .publish 0 "preview_results" [1],
        .publish 0 "preview_results" [2], .publish 0 "preview_results" [3]]).client.log =
      [⟨0, message "preview_results" [2], none⟩] ∧
    ∀ body account, ((Holder.afterAll moody [.connect, .publish 0 "preview_results" [1],
        .publish 0 "preview_results" [2], .publish 0 "preview_results" [3]]).act moody
          (.publish 0 "preview_results" body)).2.error? account = some (.transport account) := by
  have hpublishes := published_exactly_if_stored moody [.connect,
    .publish 0 "preview_results" [1], .publish 0 "preview_results" [2],
    .publish 0 "preview_results" [3]]
  refine ⟨hpublishes.ledger.trans (by decide +kernel), fun body account => ?_⟩
  exact (hpublishes.gone 0 ⟨0, true⟩ _ body account (by decide +kernel) (by decide +kernel)).2

end LinkPreview.Amqp
