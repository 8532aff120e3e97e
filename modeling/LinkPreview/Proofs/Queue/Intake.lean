import LinkPreview.Proofs.Queue.History

/-!
# Intake

What was taken from the broker and what was not yet taken are together what the broker has
sent, in this order. Deliveries are numbered as they are sent, so no two have the same
number, and the number of a delivery tells its payload.
-/

namespace LinkPreview.Queue

open LinkPreview.Queue.System

/-- The payload that a move sends. -/
def Move.payload? : Move → Option (List UInt8)
  | .input (.deliver payload) => some payload
  | _ => none

/-- The payloads that moves send, in their order. -/
def payloads (ms : List Move) : List (List UInt8) :=
  ms.filterMap Move.payload?

/-- What a move makes the broker send behind so many deliveries. -/
def Move.items (sent : Nat) : Move → List Inbound
  | .input (.deliver payload) => [.delivery (sent + 1) payload]
  | .input .drop => [.lost]
  | .input .close => [.closed]
  | _ => []

/-- What moves make the broker send behind so many deliveries. -/
def sentItems (sent : Nat) : List Move → List Inbound
  | [] => []
  | m :: ms => m.items sent ++ sentItems (sent + m.payload?.toList.length) ms

/-- The payload and the number of a delivery. -/
def Inbound.delivery? : Inbound → Option (List UInt8 × Nat)
  | delivery tag payload => some (payload, tag)
  | lost | closed => none

/-- The deliveries among what a broker sends. -/
def deliveries (items : List Inbound) : List (List UInt8 × Nat) :=
  items.filterMap Inbound.delivery?

theorem mem_deliveries {items : List Inbound} {tag : Nat} {payload : List UInt8} :
    (payload, tag) ∈ deliveries items ↔ .delivery tag payload ∈ items := by
  simp only [deliveries, List.mem_filterMap]
  constructor
  · rintro ⟨item, hm, hi⟩
    cases item with
    | delivery tag' payload' =>
        cases hi
        exact hm
    | lost => cases hi
    | closed => cases hi
  · intro hm
    exact ⟨_, hm, rfl⟩

theorem deliveries_append (is js : List Inbound) :
    deliveries (is ++ js) = deliveries is ++ deliveries js :=
  List.filterMap_append

@[simp]
theorem payloads_append (ms ns : List Move) : payloads (ms ++ ns) = payloads ms ++ payloads ns :=
  List.filterMap_append

theorem payloads_singleton (m : Move) : payloads [m] = m.payload?.toList := by
  cases h : m.payload? <;> simp [payloads, h]

theorem sentItems_append (sent : Nat) (ms ns : List Move) :
    sentItems sent (ms ++ ns) =
      sentItems sent ms ++ sentItems (sent + (payloads ms).length) ns := by
  induction ms generalizing sent with
  | nil => rfl
  | cons m ms ih =>
      have hl : (payloads (m :: ms)).length = m.payload?.toList.length + (payloads ms).length := by
        rw [← List.singleton_append, payloads_append, payloads_singleton, List.length_append]
      simp only [List.cons_append, sentItems, ih, List.append_assoc, hl, Nat.add_assoc]

/-- Deliveries are numbered one after the other. -/
theorem deliveries_sentItems (sent : Nat) (ms : List Move) :
    deliveries (sentItems sent ms) = (payloads ms).zipIdx (sent + 1) := by
  induction ms generalizing sent with
  | nil => rfl
  | cons m ms ih =>
      have hm : deliveries (m.items sent) = m.payload?.toList.zipIdx (sent + 1) := by
        cases m with
        | input i => cases i <;> rfl
        | consumer => rfl
        | job tag => rfl
        | wait span => rfl
      have hp : payloads (m :: ms) = m.payload?.toList ++ payloads ms := by
        rw [← List.singleton_append, payloads_append, payloads_singleton]
      rw [sentItems, deliveries_append, ih, hm, hp, List.zipIdx_append, Nat.add_right_comm]

variable {c : Setup} {s t : System}

/-- What a job does takes nothing from the broker. -/
theorem Advance.item?_eq {before : List Running} {r : Running} {stage : Stage}
    {es : List Event} {released : List String} (h : Advance c s before r stage es released) :
    ∀ e ∈ es, e.item? = none := by
  cases h <;> simp [Event.item?]

theorem Advance.takenItems_append {before : List Running} {r : Running} {stage : Stage}
    {es : List Event} {released : List String} (h : Advance c s before r stage es released) :
    takenItems (es.map (⟨s.time, ·⟩) ++ s.log) = takenItems s.log := by
  have hnil : es.reverse.filterMap Event.item? = [] :=
    List.filterMap_eq_nil_iff.mpr fun e he => h.item?_eq e (List.mem_reverse.mp he)
  rw [takenItems, events_append_log, List.filterMap_append, hnil, List.append_nil, ← takenItems]

theorem input_items (i : Input) :
    (s.input i).inbound = s.inbound ++ (Move.input i).items s.sent ∧ (s.input i).log = s.log ∧
      (s.input i).sent = s.sent + (Move.input i).payload?.toList.length := by
  cases i with
  | start =>
      rcases input_start s with ⟨-, he⟩ | ⟨-, he⟩ <;> rw [he] <;>
        exact ⟨(List.append_nil _).symm, rfl, rfl⟩
  | deliver payload => exact ⟨rfl, rfl, rfl⟩
  | drop => exact ⟨rfl, rfl, rfl⟩
  | close => exact ⟨rfl, rfl, rfl⟩
  | _ => exact ⟨(List.append_nil _).symm, rfl, rfl⟩

/-- A move adds at the end of what is to be taken, and takes from its front. -/
theorem Transition.items_eq {m : Move} (h : Transition c s m t) :
    takenItems t.log ++ t.inbound = takenItems s.log ++ s.inbound ++ m.items s.sent := by
  cases h with
  | input i =>
      obtain ⟨hi, hl, -⟩ := input_items (s := s) i
      rw [hi, hl, List.append_assoc]
  | begin | stop | connect | retry | leave | wait => simp [Move.items]
  | attempt => simp [Move.items, Event.item?]
  | fail => simp [Move.items, disconnect, Event.item?]
  | take hp hc hj hl hi => simp [Move.items, Event.item?, hi]
  | finish hp hc hj hl hi => simp [Move.items, disconnect, Event.item?, hi]
  | work hp ha hw =>
      rw [log_worked, hw.takenItems_append]
      simp [Move.items, worked]

/-- Only what is sent counts. -/
theorem Transition.sent_eq {m : Move} (h : Transition c s m t) :
    t.sent = s.sent + m.payload?.toList.length := by
  cases h with
  | input i => exact (input_items i).2.2
  | begin | stop | connect | retry => simp [Move.payload?]
  | fail | finish => simp [Move.payload?, disconnect, note]
  | attempt | leave | take | work | wait => rfl

/-- What was taken from the broker and what is still to be taken is all that was sent, in the
order in which it was sent. -/
theorem items_of_run? {ms : List Move} (h : System.run? c {} ms = some t) :
    takenItems t.log ++ t.inbound = sentItems 0 ms ∧ t.sent = (payloads ms).length := by
  refine run?_induction (P := fun ms t =>
    takenItems t.log ++ t.inbound = sentItems 0 ms ∧ t.sent = (payloads ms).length)
    ⟨rfl, rfl⟩ ?_ h
  intro ms m t u _ ih hstep
  constructor
  · rw [hstep.items_eq, ih.1, sentItems_append, ih.2]
    simp [sentItems]
  · rw [hstep.sent_eq, ih.2, payloads_append, payloads_singleton, List.length_append]

/-- The deliveries are the payloads that were sent, numbered one after the other. -/
theorem deliveries_of_run? {ms : List Move} (h : System.run? c {} ms = some t) :
    deliveries (takenItems t.log ++ t.inbound) = (payloads ms).zipIdx 1 := by
  rw [(items_of_run? h).1, deliveries_sentItems]

end LinkPreview.Queue
