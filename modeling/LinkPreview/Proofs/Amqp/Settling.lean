import LinkPreview.Proofs.Amqp.Deliveries
import Mathlib.Data.List.Basic

/-!
# How deliveries are settled

To settle a delivery is to send one method, about this delivery and no other, on the channel that
brought it; where this channel is gone, or the delivery was settled before, nothing is sent. So
what is left of an ended session settles nothing, also where its tag is in use on another
connection. Over a whole run, what the broker received is what was settled, one delivery after
another and none twice.
-/

namespace LinkPreview.Amqp

variable {t : Target} {k n : Nat} {how : Queue.Settlement} {d : Delivery} {h : Holder}
  {x : Session} {step : Step} {steps : List Step}

/-- Whether something settles a delivery. -/
def Method.isSettling : Method → Bool
  | ack .. | reject .. | nack .. => true
  | _ => false

/-- What settles deliveries, of what the broker received. -/
def settlements (log : List Entry) : List Entry :=
  log.filter (·.method.isSettling)

/-- The delivery that is settled in a step, and how, if this goes well. -/
def Holder.settled (t : Target) (h : Holder) (step : Step) : List (Nat × Queue.Settlement) :=
  match step, (h.act t step).2 with
  | .settle number how, .done true => [(number, how)]
  | _, _ => []

theorem settlements_append (es fs : List Entry) :
    settlements (es ++ fs) = settlements es ++ settlements fs :=
  List.filter_append es fs

/-! ## Settling one delivery -/

/-- What comes of settling a delivery, by what the broker received. -/
inductive Settled (d : Delivery) (how : Queue.Settlement) (isOpen : Bool) :
    List Entry → Effect → Prop where
  | sent {fault : Option Fault} (hs : d.isSpent = false) (hc : isOpen = true) :
      Settled d how isOpen [⟨d.connection, settling d.tag how, fault⟩] (.done true)
  | missed (hm : d.isSpent = true ∨ isOpen = false) : Settled d how isOpen [] (.done false)

theorem settled_act (t : Target) (hd : h.client.deliveries[n]? = some d)
    (how : Queue.Settlement) :
    Settled d how (h.client.connectionIs d.connection (·.hasChannel))
      (h.received t (.settle n how)) (h.act t (.settle n how)).2 := by
  have hsettling := settling_settle t.broker n how (h.turnedTo none)
  have hreceived : h.received t (.settle n how) =
      ((h.turnedTo none).settle t.broker n how).1.log.drop h.client.log.length := rfl
  have heffect : (h.act t (.settle n how)).2 =
      .done ((h.turnedTo none).settle t.broker n how).2 := rfl
  rw [hreceived, heffect]
  generalize (h.turnedTo none).settle t.broker n how = p at hsettling
  cases hsettling with
  | unknown hn => cases hn.symm.trans hd
  | said hd' hs hc =>
      cases hd'.symm.trans hd
      change Settled d how _ ((h.client.log ++ _).drop _) _
      rw [List.drop_left]
      exact .sent hs hc
  | missed hd' hm =>
      cases hd'.symm.trans hd
      change Settled d how _ (h.client.log.drop _) _
      rw [List.drop_length]
      exact .missed hm

theorem Settled.of_missed {isOpen : Bool} {es : List Entry} {effect : Effect}
    (h : Settled d how isOpen es effect) (hm : d.isSpent = true ∨ isOpen = false)
    (account : String) : effect.error? account = some (.transport account) ∧ es = [] := by
  cases h with
  | sent hs hc => simp [hs, hc] at hm
  | missed => exact ⟨rfl, rfl⟩

theorem Settled.connection_eq {isOpen : Bool} {es : List Entry} {effect : Effect} {e : Entry}
    (h : Settled d how isOpen es effect) (he : e ∈ es) : e.connection = d.connection := by
  cases h with
  | sent => rw [List.mem_singleton.mp he]
  | missed => cases he

theorem Settled.of_isOpen {isOpen : Bool} {es : List Entry} {effect : Effect}
    (h : Settled d how isOpen es effect) (hs : d.isSpent = false) (hc : isOpen = true) :
    effect = .done true ∧ ∃ fault, es = [⟨d.connection, settling d.tag how, fault⟩] := by
  cases h with
  | sent => exact ⟨rfl, _, rfl⟩
  | missed hm => simp [hs, hc] at hm

/-- The channel of a session that is not held is gone. -/
theorem Tended.hasChannel_eq_false (hT : Tended t steps h) (hk : h.sessions[k]? = some x)
    (hx : x.isHeld = false) : h.client.connectionIs x.connection (·.hasChannel) = false := by
  refine Bool.eq_false_iff.mpr fun hc => ?_
  obtain ⟨c, hc, hchannel⟩ := (Option.any_eq_true ..).mp hc
  have hopen : h.client.connectionIs x.connection (·.isOpen) = true := by
    rw [Client.connectionIs, hc]
    exact hT.sound _ c hc hchannel
  obtain ⟨y, hy, hyx, hheld⟩ := hT.held _ hopen
  obtain ⟨k', hk'⟩ := List.mem_iff_getElem?.mp hy
  cases hT.eq_of_connection_eq hk' hk hyx
  cases hk'.symm.trans hk
  rw [hx] at hheld
  cases hheld

/-! ## Steps -/

theorem Step.Sends.isSettling_eq_false {m : Method} (h : step.Sends m)
    (hne : ∀ number how, step ≠ .settle number how) : m.isSettling = false := by
  cases step with
  | settle number how => exact absurd rfl (hne number how)
  | deliver | next | fail | stopConsuming => exact h.elim
  | connect =>
      cases m with
      | ack | reject | nack => exact absurd h (by simp [Step.Sends, Method.phase, Method.isClosing])
      | _ => rfl
  | publish k queue body =>
      cases h
      rfl
  | endSession k =>
      cases m with
      | closeConnection => rfl
      | _ => cases h

theorem settled_of_none (hd : h.client.deliveries[n]? = none) (how : Queue.Settlement) :
    h.received t (.settle n how) = [] ∧ (h.act t (.settle n how)).2 = .done false := by
  have hact : h.act t (.settle n how) = ({ h with client := h.turnedTo none }, .done false) := by
    have hsettle : (h.turnedTo none).settle t.broker n how = (h.turnedTo none, false) := by
      simp [Client.settle, Holder.turnedTo, hd]
    simp [Holder.act, Client.step, Client.act, Step.session?, Holder.sessionsAfter, hsettle]
  refine ⟨Holder.received_eq ?_, by rw [hact]⟩
  rw [hact, List.append_nil]
  rfl

/-- In each step one delivery at most is settled, and nothing is sent that would settle another. -/
theorem settled_cases (t : Target) (h : Holder) (step : Step) :
    h.settled t step = [] ∧ settlements (h.received t step) = [] ∨
      ∃ n how d fault, step = .settle n how ∧ h.client.deliveries[n]? = some d ∧
        d.isSpent = false ∧ h.settled t step = [(n, how)] ∧
        h.received t step = [⟨d.connection, settling d.tag how, fault⟩] := by
  have hother (hne : ∀ number how, step ≠ .settle number how) :
      settlements (h.received t step) = [] :=
    List.filter_eq_nil_iff.mpr fun e he => by
      simp [(sends_of_mem_received he).isSettling_eq_false hne]
  cases step with
  | connect | deliver | next | publish | fail | stopConsuming | endSession =>
      exact .inl ⟨rfl, hother nofun⟩
  | settle n how =>
      unfold Holder.settled
      cases hd : h.client.deliveries[n]? with
      | none =>
          obtain ⟨hreceived, heffect⟩ := settled_of_none (t := t) hd how
          rw [hreceived, heffect]
          exact .inl ⟨rfl, rfl⟩
      | some d =>
          have hsettled := settled_act t hd how
          generalize (h.act t (.settle n how)).2 = effect at hsettled
          generalize h.received t (.settle n how) = es at hsettled
          cases hsettled with
          | sent hs => exact .inr ⟨n, how, d, _, rfl, hd, hs, rfl, rfl⟩
          | missed => exact .inl ⟨rfl, rfl⟩

/-! ## Whole runs -/

/-- What settles the delivery with a number in a way, and where it is sent. -/
def Client.settling? (s : Client) (a : Nat × Queue.Settlement) : Option (Nat × Method) :=
  (s.deliveries[a.1]?).map fun d => (d.connection, settling d.tag a.2)

/-- A delivery keeps where it came from. -/
theorem settling?_act (t : Target) (h : Holder) (step : Step) {a : Nat × Queue.Settlement}
    (ha : a.1 < h.client.deliveries.length) :
    (h.act t step).1.client.settling? a = h.client.settling? a := by
  rw [Client.settling?, (delivers_act t h step).deliveries_eq,
    List.getElem?_append_left (by rwa [List.length_mapIdx]), List.getElem?_mapIdx,
    Option.map_map]
  rfl

theorem isSpent_eq (hd : (Holder.afterAll t steps).client.deliveries[n]? = some d) :
    d.isSpent = (notes t Holder.tried steps).contains n := by
  rw [deliveries_afterAll, List.getElem?_mapIdx, Option.map_eq_some_iff] at hd
  obtain ⟨p, -, rfl⟩ := hd
  exact Bool.false_or _

/-- What was settled, somebody has tried to settle. -/
theorem mem_tried_of_mem_settled (t : Target) (steps : List Step) :
    ∀ a ∈ notes t (Holder.settled t) steps, a.1 ∈ notes t Holder.tried steps := by
  induction steps using List.reverseRecOn with
  | nil => exact fun a ha => nomatch ha
  | append_singleton steps step ih =>
      intro a ha
      rw [notes_concat] at ha ⊢
      rcases List.mem_append.mp ha with ha | ha
      · exact List.mem_append_left _ (ih a ha)
      · refine List.mem_append_right _ ?_
        rcases settled_cases t (Holder.afterAll t steps) step with ⟨hnone, -⟩ |
          ⟨n, how, d, -, rfl, hd, -, hone, -⟩
        · rw [hnone] at ha
          cases ha
        · rw [hone, List.mem_singleton] at ha
          rw [ha, Holder.tried, if_pos (List.getElem?_eq_some_iff.mp hd).1]
          exact List.mem_singleton_self n

/-- No delivery is settled twice. -/
theorem settled_nodup (t : Target) (steps : List Step) :
    ((notes t (Holder.settled t) steps).map (·.1)).Nodup := by
  induction steps using List.reverseRecOn with
  | nil => exact List.nodup_nil
  | append_singleton steps step ih =>
      rw [notes_concat, List.map_append]
      rcases settled_cases t (Holder.afterAll t steps) step with ⟨hnone, -⟩ |
        ⟨n, how, d, -, -, hd, hs, hone, -⟩
      · rwa [hnone, List.map_nil, List.append_nil]
      · have hnew : n ∉ (notes t (Holder.settled t) steps).map (·.1) := by
          intro hmem
          obtain ⟨a, ha, rfl⟩ := List.mem_map.mp hmem
          have htried := mem_tried_of_mem_settled t steps a ha
          rw [isSpent_eq hd, List.contains_iff_mem.mpr htried] at hs
          cases hs
        rw [hone]
        refine List.nodup_append.mpr ⟨ih, by simp, fun m hm n' hn' hmn => hnew ?_⟩
        have hn : n' = n := List.mem_singleton.mp hn'
        rwa [← hn, ← hmn]

/-- What the broker received to settle deliveries is what was settled, in this order. -/
theorem settlements_afterAll (t : Target) (steps : List Step) :
    (settlements (Holder.afterAll t steps).client.log).map (fun e => (e.connection, e.method)) =
      (notes t (Holder.settled t) steps).filterMap (Holder.afterAll t steps).client.settling? := by
  induction steps using List.reverseRecOn with
  | nil => rfl
  | append_singleton steps step ih =>
      have hlt : ∀ a ∈ notes t (Holder.settled t) (steps ++ [step]),
          a.1 < (Holder.afterAll t steps).client.deliveries.length := fun a ha =>
        lt_of_mem_tried_concat t steps step a.1 (mem_tried_of_mem_settled t _ a ha)
      rw [Holder.afterAll_concat,
        List.filterMap_congr fun a ha => settling?_act t _ step (hlt a ha), Holder.log_act,
        settlements_append, List.map_append, ih, notes_concat, List.filterMap_append]
      congr 1
      rcases settled_cases t (Holder.afterAll t steps) step with ⟨hnone, hreceived⟩ |
        ⟨n, how, d, fault, -, hd, -, hone, hreceived⟩
      · rw [hnone, hreceived]
        rfl
      · rw [hone, hreceived]
        cases how <;> simp [settlements, settling, Method.isSettling, Client.settling?, hd]

/-- Which deliveries there are after some steps, what comes of settling one of them, and what was
settled so far. -/
structure SettlesOnlyItsOwn (t : Target) (steps : List Step) (h : Holder) : Prop where
  /-- The delivery with a number is the message that was given out as the one with this number, on
  the connection of the session that gave it out. It is spent when somebody tried to settle it. -/
  numbered : h.client.deliveries =
    (notes t (Holder.gave t) steps).mapIdx fun n p =>
      ⟨p.connection, p.tag, (notes t Holder.tried steps).contains n⟩
  /-- The next one that is given out has the next number. -/
  next : ∀ k number payload, (h.act t (.next k)).2 = .next (.delivery number payload) →
    number = h.client.deliveries.length
  /-- On each connection, the messages are given out that the broker sent, in this order. -/
  inOrder : ∀ i, comingOn i (notes t (Holder.gave t) steps) ++ h.client.messages i =
    comingOn i (notes t Holder.came steps)
  /-- To settle a delivery that nobody tried to settle sends one method, with the tag of this
  delivery and about no other, on its channel, if this is there. -/
  sent : ∀ n d how, h.client.deliveries[n]? = some d → n ∉ notes t Holder.tried steps →
    h.client.connectionIs d.connection (·.hasChannel) = true →
      (h.act t (.settle n how)).2 = .done true ∧
        ∃ fault, h.received t (.settle n how) =
          [⟨d.connection,
            match how with
            | .ack => .ack d.tag false
            | .reject => .reject d.tag false
            | .requeue => .nack d.tag false true, fault⟩]
  /-- If the channel is gone, this gives an error of the transport, and nothing is sent. -/
  gone : ∀ n d how account, h.client.deliveries[n]? = some d →
    h.client.connectionIs d.connection (·.hasChannel) = false →
      (h.act t (.settle n how)).2.error? account = some (.transport account) ∧
        h.received t (.settle n how) = []
  /-- So does a delivery that somebody tried to settle before. -/
  again : ∀ n d how account, h.client.deliveries[n]? = some d → n ∈ notes t Holder.tried steps →
    (h.act t (.settle n how)).2.error? account = some (.transport account) ∧
      h.received t (.settle n how) = []
  /-- Every delivery belongs to a session, and the channel of one that has ended is gone. -/
  owned : ∀ d ∈ h.client.deliveries, ∃ x ∈ h.sessions, x.connection = d.connection
  stale : ∀ n d how account x, h.client.deliveries[n]? = some d → x ∈ h.sessions →
    x.connection = d.connection → x.isHeld = false →
      (h.act t (.settle n how)).2.error? account = some (.transport account) ∧
        h.received t (.settle n how) = []
  /-- Nothing is sent to another session, where the same tag may be in use. -/
  apart : ∀ n d how x, h.client.deliveries[n]? = some d → x ∈ h.sessions →
    x.connection ≠ d.connection → ∀ e ∈ h.received t (.settle n how), e.connection ≠ x.connection
  /-- What the broker received so far to settle deliveries is what was settled, and none twice. -/
  ledger : (settlements h.client.log).map (fun e => (e.connection, e.method)) =
    (notes t (Holder.settled t) steps).filterMap h.client.settling?
  once : ((notes t (Holder.settled t) steps).map (·.1)).Nodup

/-- Whatever the broker does, whatever tags it chooses, and whatever is done with how many sessions:
a delivery is settled by one method about this delivery alone, on the channel that brought it, or
nothing is sent. What is left of a session that has ended settles nothing. -/
theorem settlements_hit_their_own (t : Target) (steps : List Step) :
    SettlesOnlyItsOwn t steps (Holder.afterAll t steps) := by
  have hT := tended_afterAll t steps
  have hspent {n : Nat} {d : Delivery}
      (hd : (Holder.afterAll t steps).client.deliveries[n]? = some d) :
      d.isSpent = true ↔ n ∈ notes t Holder.tried steps := by
    rw [isSpent_eq hd, List.contains_iff_mem]
  exact
    { numbered := by
        rw [deliveries_afterAll]
        simp [Passage.delivery, Delivery.spentIf]
      next := fun _ _ _ hn => number_eq_of_next hn
      inOrder := messages_afterAll t steps
      sent := fun n d how hd hn hc => by
        have hs := Bool.eq_false_iff.mpr fun hs => hn ((hspent hd).mp hs)
        obtain ⟨heffect, fault, hreceived⟩ := (settled_act t hd how).of_isOpen hs hc
        refine ⟨heffect, fault, ?_⟩
        rw [hreceived]
        cases how <;> rfl
      gone := fun n d how account hd hc => (settled_act t hd how).of_missed (.inr hc) account
      again := fun n d how account hd hn =>
        (settled_act t hd how).of_missed (.inl ((hspent hd).mpr hn)) account
      owned := fun d hd => exists_session_of_mem_deliveries t steps hd
      stale := fun n d how account x hd hx hxd hheld => by
        obtain ⟨k, hk⟩ := List.mem_iff_getElem?.mp hx
        have hc := hxd ▸ hT.hasChannel_eq_false hk hheld
        exact (settled_act t hd how).of_missed (.inr hc) account
      apart := fun n d how x hd _ hne e he =>
        ((settled_act t hd how).connection_eq he).symm ▸ hne.symm
      ledger := settlements_afterAll t steps
      once := settled_nodup t steps }

/-- A broker that answers everything. -/
def answering : Target where
  address := "amqp://127.0.0.1"
  topology := ⟨"preview_jobs", "preview_results", 4⟩
  broker := .scripted ⟨0, 131072, 0⟩ fun _ => []
  isListening _ _ := true

/-- Two sessions, one after the other, on which the broker uses the same tag. -/
def reusing : List Step :=
  [.connect, .deliver 0 1 [7], .next 0, .endSession 0, .connect, .deliver 1 1 [8], .next 1]

/-- What is left of the first session settles nothing, though its tag is in use on the second, where
one message is acknowledged. -/
theorem settlements_hit_their_own_of_reused :
    (Holder.afterAll answering reusing).client.deliveries = [⟨0, 1, false⟩, ⟨1, 1, false⟩] ∧
      (∀ how, (Holder.afterAll answering reusing).received answering (.settle 0 how) = []) ∧
      ∃ fault, (Holder.afterAll answering reusing).received answering (.settle 1 .ack) =
        [⟨1, .ack 1 false, fault⟩] := by
  have hdeliveries : (Holder.afterAll answering reusing).client.deliveries =
      [⟨0, 1, false⟩, ⟨1, 1, false⟩] := by decide +kernel
  have hsessions : (Holder.afterAll answering reusing).sessions = [⟨0, false⟩, ⟨1, true⟩] := by
    decide +kernel
  have hsettles := settlements_hit_their_own answering reusing
  refine ⟨hdeliveries, fun how => ?_, ?_⟩
  · exact (hsettles.stale 0 ⟨0, 1, false⟩ how "" ⟨0, false⟩ (by rw [hdeliveries]; rfl)
      (by simp [hsessions]) rfl rfl).2
  · exact (hsettles.sent 1 ⟨1, 1, false⟩ .ack (by rw [hdeliveries]; rfl) (by decide +kernel)
      (by decide +kernel)).2

end LinkPreview.Amqp
