import Mvision.Library.Machine
import Mvision.Library.Table
import Mvision.Live.Protocol

/-!
# The event queue of the worker: `LiveWorkerEventQueue`

Four queues behind one mutex: control events in order, the newest evidence of
each tracker with the order of the trackers beside it, one metrics event, and
the latest operations.  The history keeps what became of every accepted event.
-/

namespace Mvision.Live

open Mvision.Library

structure LiveWorkerEventQueue where
  control : List LiveMessage := []
  /-- `unordered_map` from a tracker to its evidence -/
  evidence : Table TrackEvidenceEvent.trackerId := .empty
  evidenceOrder : List Nat := []
  metrics : Option MetricsEvent := none
  operations : List NativeOperationEvent := []
  droppedEvents : UInt64 := 0
  closed : Bool := false
deriving DecidableEq

/-- What a call of `pop` comes to. -/
inductive Popped where
  | event (message : LiveMessage)
  | nullopt
  /-- `std::move(found->second)` with `found == end()`, which is undefined -/
  | missing (trackerId : Nat)
deriving DecidableEq

structure LiveWorkerQueueStats where
  control : Nat
  evidence : Nat
  metrics : Nat
  operations : Nat
  dropped : UInt64
deriving DecidableEq

namespace LiveWorkerEventQueue

variable (q : LiveWorkerEventQueue)

def pushEvidence (e : TrackEvidenceEvent) : LiveWorkerEventQueue :=
  match q.evidence.get e.trackerId with
  | some found =>
      if e.evidenceRevision > found.evidenceRevision then
        { q with evidence := q.evidence.replace e }
      else q
  | none =>
      if q.evidence.rows.length < 256 then
        { q with
          evidenceOrder := q.evidenceOrder ++ [e.trackerId]
          evidence := q.evidence.insert e }
      else { q with droppedEvents := q.droppedEvents + 1 }

def pushOperation (e : NativeOperationEvent) : LiveWorkerEventQueue :=
  let q :=
    if q.operations.length = 64 then
      { q with
        operations := q.operations.tail
        droppedEvents := q.droppedEvents + 1 }
    else q
  { q with operations := q.operations ++ [e] }

/-- `LiveWorkerEventQueue::push` -/
def push (event : LiveMessage) : Bool × LiveWorkerEventQueue :=
  if q.closed then (false, q)
  else
    match event with
    | .trackEvidence e => (true, q.pushEvidence e)
    | .metrics e => (true, { q with metrics := some e })
    | .nativeOperation e => (true, q.pushOperation e)
    | event =>
        if q.control.length = 32 then (false, q)
        else (true, { q with control := q.control ++ [event] })

/-- `LiveWorkerEventQueue::pop`, once it need not wait any more -/
def pop : Popped × LiveWorkerEventQueue :=
  match q.control with
  | event :: control => (.event event, { q with control := control })
  | [] =>
      match q.evidenceOrder with
      | trackerId :: order =>
          match q.evidence.get trackerId with
          | some e =>
              (.event (.trackEvidence e),
                { q with evidenceOrder := order, evidence := q.evidence.erase trackerId })
          | none => (.missing trackerId, q)
      | [] =>
          match q.metrics with
          | some e => (.event (.metrics e), { q with metrics := none })
          | none =>
              match q.operations with
              | e :: operations =>
                  (.event (.nativeOperation e), { q with operations := operations })
              | [] => (.nullopt, q)

def close : LiveWorkerEventQueue := { q with closed := true }

def empty : Bool :=
  q.control.isEmpty && q.evidence.rows.isEmpty && q.metrics.isNone && q.operations.isEmpty

def stats : LiveWorkerQueueStats where
  control := q.control.length
  evidence := q.evidence.rows.length
  metrics := if q.metrics.isSome then 1 else 0
  operations := q.operations.length
  dropped := q.droppedEvents

end LiveWorkerEventQueue

namespace LiveMessage

def evidence? : LiveMessage → Option TrackEvidenceEvent
  | .trackEvidence e => some e
  | _ => none

def operation? : LiveMessage → Option NativeOperationEvent
  | .nativeOperation e => some e
  | _ => none

/-- The events that go to the control queue. -/
def isControl : LiveMessage → Bool
  | .trackEvidence _ | .metrics _ | .nativeOperation _ => false
  | _ => true

theorem evidence?_of_isControl {event : LiveMessage} (h : event.isControl = true) :
    event.evidence? = none := by
  cases event <;> first | rfl | cases h

theorem operation?_of_isControl {event : LiveMessage} (h : event.isControl = true) :
    event.operation? = none := by
  cases event <;> first | rfl | cases h

end LiveMessage

namespace LiveWorkerEventQueue

variable (q : LiveWorkerEventQueue)

/-- The evidence that gives way to a push, with the one it gives way to. -/
def superseded : LiveMessage → List (TrackEvidenceEvent × TrackEvidenceEvent)
  | .trackEvidence e =>
      match q.evidence.get e.trackerId with
      | some found =>
          if e.evidenceRevision > found.evidenceRevision then [(found, e)] else [(e, found)]
      | none => []
  | _ => []

/-- The event that a push drops. -/
def dropped : LiveMessage → List LiveMessage
  | .trackEvidence e =>
      if q.evidence.get e.trackerId = none ∧ 256 ≤ q.evidence.rows.length then
        [.trackEvidence e]
      else []
  | .nativeOperation _ =>
      if q.operations.length = 64 then q.operations.head?.toList.map .nativeOperation else []
  | _ => []

end LiveWorkerEventQueue

/-- The queue and its history. -/
structure WorkerQueue where
  queue : LiveWorkerEventQueue := {}
  /-- the events whose push returned true -/
  accepted : List LiveMessage := []
  /-- what the pops have returned -/
  popped : List Popped := []
  superseded : List (TrackEvidenceEvent × TrackEvidenceEvent) := []
  dropped : List LiveMessage := []
deriving DecidableEq

inductive WorkerQueueStep where
  | push (event : LiveMessage)
  | pop
  | close
deriving DecidableEq

def WorkerQueue.push (s : WorkerQueue) (event : LiveMessage) : WorkerQueue :=
  if (s.queue.push event).1 then
    { queue := (s.queue.push event).2
      accepted := s.accepted ++ [event]
      popped := s.popped
      superseded := s.superseded ++ s.queue.superseded event
      dropped := s.dropped ++ s.queue.dropped event }
  else { s with queue := (s.queue.push event).2 }

def WorkerQueue.pop (s : WorkerQueue) : WorkerQueue :=
  { s with
    queue := s.queue.pop.2
    popped := s.popped ++ [s.queue.pop.1] }

/-- Pushes, pops and closes in any order; a pop waits until there is something to return. -/
def workerQueue : Machine WorkerQueue WorkerQueueStep where
  init s := s = {}
  enabled s
    | .push _ | .close => True
    | .pop => s.queue.closed = true ∨ s.queue.empty = false
  next s
    | .push event => s.push event
    | .pop => s.pop
    | .close => { s with queue := s.queue.close }

instance (s : WorkerQueue) (step : WorkerQueueStep) : Decidable (workerQueue.enabled s step) :=
  match step with
  | .push _ | .close => inferInstanceAs (Decidable True)
  | .pop => inferInstanceAs (Decidable (_ ∨ _))

/-! ## What is still queued -/

namespace Popped

/-- A returned value, or `std::nullopt`. -/
def of : Option LiveMessage → Popped
  | some message => .event message
  | none => .nullopt

def event? : Popped → Option LiveMessage
  | .event message => some message
  | _ => none

end Popped

namespace LiveWorkerEventQueue

variable {q : LiveWorkerEventQueue}

/-- The order of the trackers lists the keys of the evidence, each once. -/
def Coherent (q : LiveWorkerEventQueue) : Prop :=
  q.evidenceOrder.Perm (q.evidence.rows.map TrackEvidenceEvent.trackerId)

/-- The queued events in the order in which they are popped. -/
def remaining (q : LiveWorkerEventQueue) : List LiveMessage :=
  q.control ++
    ((q.evidenceOrder.filterMap q.evidence.get).map .trackEvidence ++
      (q.metrics.toList.map .metrics ++ q.operations.map .nativeOperation))

/-- What `n` pops return when nothing is pushed any more. -/
def drained (q : LiveWorkerEventQueue) (n : Nat) : List Popped :=
  (List.range n).map fun i => Popped.of q.remaining[i]?

theorem Coherent.get (h : q.Coherent) {trackerId : Nat} (ht : trackerId ∈ q.evidenceOrder) :
    ∃ e, q.evidence.get trackerId = some e := by
  obtain ⟨e, he, rfl⟩ := List.mem_map.mp (h.mem_iff.mp ht)
  exact ⟨e, Table.get_eq_some_iff.mpr ⟨he, rfl⟩⟩

theorem Coherent.nodup (h : q.Coherent) : q.evidenceOrder.Nodup :=
  h.nodup_iff.mpr q.evidence.nodup

/-- A tracker without queued evidence is in no row. -/
theorem fresh {trackerId : Nat} (hg : q.evidence.get trackerId = none) :
    trackerId ∉ q.evidence.rows.map TrackEvidenceEvent.trackerId := by
  rw [List.mem_map]
  rintro ⟨e, he, hk⟩
  exact Table.get_eq_none_iff.mp hg e he hk

/-- What a pop does: one case for each of the four queues, and nothing to return. -/
theorem pop_cases (h : q.Coherent) :
    (∃ event control, q.control = event :: control ∧
      q.pop = (.event event, { q with control := control })) ∨
    (q.control = [] ∧ ∃ trackerId order e, q.evidenceOrder = trackerId :: order ∧
      q.evidence.get trackerId = some e ∧
      q.pop = (.event (.trackEvidence e),
        { q with evidenceOrder := order, evidence := q.evidence.erase trackerId })) ∨
    (q.control = [] ∧ q.evidenceOrder = [] ∧ ∃ e, q.metrics = some e ∧
      q.pop = (.event (.metrics e), { q with metrics := none })) ∨
    (q.control = [] ∧ q.evidenceOrder = [] ∧ q.metrics = none ∧
      ∃ e operations, q.operations = e :: operations ∧
        q.pop = (.event (.nativeOperation e), { q with operations := operations })) ∨
    (q.control = [] ∧ q.evidenceOrder = [] ∧ q.metrics = none ∧ q.operations = [] ∧
      q.pop = (.nullopt, q)) := by
  cases hc : q.control with
  | cons event control => exact .inl ⟨event, control, rfl, by simp [pop, hc]⟩
  | nil =>
      cases ho : q.evidenceOrder with
      | cons trackerId order =>
          obtain ⟨e, he⟩ := h.get (ho ▸ List.mem_cons_self)
          exact .inr (.inl ⟨rfl, trackerId, order, e, rfl, he, by simp [pop, hc, ho, he]⟩)
      | nil =>
          cases hm : q.metrics with
          | some e => exact .inr (.inr (.inl ⟨rfl, rfl, e, rfl, by simp [pop, hc, ho, hm]⟩))
          | none =>
              cases hp : q.operations with
              | cons e operations =>
                  refine .inr (.inr (.inr (.inl ⟨rfl, rfl, rfl, e, operations, rfl, ?_⟩)))
                  simp [pop, hc, ho, hm, hp]
              | nil =>
                  refine .inr (.inr (.inr (.inr ⟨rfl, rfl, rfl, rfl, ?_⟩)))
                  simp [pop, hc, ho, hm, hp]

theorem drained_succ {q' : LiveWorkerEventQueue} (h : q'.remaining = q.remaining.tail) (n : Nat) :
    q.drained (n + 1) = Popped.of q.remaining.head? :: q'.drained n := by
  have hhead : q.remaining[0]? = q.remaining.head? := List.head?_eq_getElem?.symm
  simp only [drained, List.range_succ_eq_map, List.map_cons, List.map_map, hhead, h]
  congr 1
  refine List.map_congr_left fun i _ => ?_
  rw [List.getElem?_tail]
  rfl

/-- A pop returns the first remaining event and leaves the others. -/
theorem pop_remaining (h : q.Coherent) :
    q.pop.1 = Popped.of q.remaining.head? ∧ q.pop.2.remaining = q.remaining.tail := by
  rcases pop_cases h with ⟨event, control, hc, hp⟩ | ⟨hc, trackerId, order, e, ho, he, hp⟩ |
    ⟨hc, ho, e, hm, hp⟩ | ⟨hc, ho, hm, e, operations, hop, hp⟩ | ⟨hc, ho, hm, hop, hp⟩
  · rw [hp]
    simp [remaining, hc, Popped.of]
  · rw [hp]
    -- the trackers that are left are not the popped one
    have hleft : order.filterMap (q.evidence.erase trackerId).get =
        order.filterMap q.evidence.get := by
      have hnd := h.nodup
      rw [ho, List.nodup_cons] at hnd
      refine List.filterMap_congr fun t ht => Table.get_erase_of_ne ?_
      rintro rfl
      exact hnd.1 ht
    simp [remaining, hc, ho, he, hleft, Popped.of]
  · rw [hp]
    simp [remaining, hc, ho, hm, Popped.of]
  · rw [hp]
    simp [remaining, hc, ho, hm, hop, Popped.of]
  · rw [hp]
    simp [remaining, hc, ho, hm, hop, Popped.of]

/-- What a pop takes from the control queue. -/
theorem pop_control (h : q.Coherent) (hc : ∀ event ∈ q.control, event.isControl = true) :
    q.pop.1.event?.toList.filter LiveMessage.isControl ++ q.pop.2.control = q.control := by
  rcases pop_cases h with ⟨event, control, hq, hp⟩ | ⟨-, trackerId, order, e, -, -, hp⟩ |
    ⟨-, -, e, -, hp⟩ | ⟨-, -, -, e, operations, -, hp⟩ | ⟨-, -, -, -, hp⟩ <;> rw [hp]
  · have hevent := hc event (hq ▸ List.mem_cons_self)
    simp [Popped.event?, hevent, hq]
  · simp [Popped.event?, LiveMessage.isControl]
  · simp [Popped.event?, LiveMessage.isControl]
  · simp [Popped.event?, LiveMessage.isControl]
  · simp [Popped.event?]

/-- What a pop takes from the queued evidence. -/
theorem pop_evidence (h : q.Coherent) (hc : ∀ event ∈ q.control, event.isControl = true) :
    q.evidence.rows.Perm
      (q.pop.1.event?.toList.filterMap LiveMessage.evidence? ++ q.pop.2.evidence.rows) := by
  rcases pop_cases h with ⟨event, control, hq, hp⟩ | ⟨-, trackerId, order, e, -, hg, hp⟩ |
    ⟨-, -, e, -, hp⟩ | ⟨-, -, -, e, operations, -, hp⟩ | ⟨-, -, -, -, hp⟩ <;> rw [hp]
  · have hevent := LiveMessage.evidence?_of_isControl (hc event (hq ▸ List.mem_cons_self))
    simp [Popped.event?, hevent]
  · exact Table.perm_erase hg
  · exact List.Perm.refl _
  · exact List.Perm.refl _
  · exact List.Perm.refl _

/-- What a pop takes from the queued operations. -/
theorem pop_operations (h : q.Coherent) (hc : ∀ event ∈ q.control, event.isControl = true) :
    q.pop.1.event?.toList.filterMap LiveMessage.operation? ++ q.pop.2.operations =
      q.operations := by
  rcases pop_cases h with ⟨event, control, hq, hp⟩ | ⟨-, trackerId, order, e, -, -, hp⟩ |
    ⟨-, -, e, -, hp⟩ | ⟨-, -, -, e, operations, hq, hp⟩ | ⟨-, -, -, -, hp⟩ <;> rw [hp]
  · have hevent := LiveMessage.operation?_of_isControl (hc event (hq ▸ List.mem_cons_self))
    simp [Popped.event?, hevent]
  · simp [Popped.event?, LiveMessage.operation?]
  · simp [Popped.event?, LiveMessage.operation?]
  · simp [Popped.event?, LiveMessage.operation?, hq]
  · simp [Popped.event?]

theorem pop_head {event : LiveMessage} (h : q.control.head? = some event) :
    q.pop.1 = .event event := by
  obtain ⟨control, hq⟩ := List.head?_eq_some_iff.mp h
  simp [pop, hq]

theorem pop_coherent (h : q.Coherent) : q.pop.2.Coherent := by
  rcases pop_cases h with ⟨event, control, -, hp⟩ | ⟨-, trackerId, order, e, ho, hg, hp⟩ |
    ⟨-, -, e, -, hp⟩ | ⟨-, -, -, e, operations, -, hp⟩ | ⟨-, -, -, -, hp⟩ <;> rw [hp]
  · exact h
  · -- the popped tracker leaves the order and the evidence
    have hkeys := (Table.perm_erase hg).map TrackEvidenceEvent.trackerId
    have hall : (trackerId :: order).Perm _ := ho ▸ h.trans hkeys
    rw [List.map_cons, (Table.get_eq_some_iff.mp hg).2] at hall
    exact hall.cons_inv
  · exact h
  · exact h
  · exact h

@[simp] theorem pop_droppedEvents : q.pop.2.droppedEvents = q.droppedEvents := by
  unfold pop
  repeat' split
  all_goals rfl

@[simp] theorem pop_closed : q.pop.2.closed = q.closed := by
  unfold pop
  repeat' split
  all_goals rfl

/-! ## What a push does -/

@[simp] theorem remaining_close : q.close.remaining = q.remaining := rfl

theorem push_evidence (h : q.closed = false) (e : TrackEvidenceEvent) :
    q.push (.trackEvidence e) = (true, q.pushEvidence e) := by
  simp [push, h]

theorem push_operation (h : q.closed = false) (e : NativeOperationEvent) :
    q.push (.nativeOperation e) = (true, q.pushOperation e) := by
  simp [push, h]

theorem push_control (h : q.closed = false) {event : LiveMessage}
    (hc : event.isControl = true) :
    q.push event =
      if q.control.length = 32 then (false, q)
      else (true, { q with control := q.control ++ [event] }) := by
  cases event <;> simp_all [push, LiveMessage.isControl]

/-- A closed queue refuses every event, an open one a control event if it is full. -/
theorem push_refused {event : LiveMessage} (h : (q.push event).1 = false) :
    (q.push event).2 = q := by
  by_cases hclosed : q.closed = true
  · simp [push, hclosed]
  · have hopen : q.closed = false := by simpa using hclosed
    by_cases hc : event.isControl = true
    · rw [push_control hopen hc] at h ⊢
      split
      · rfl
      · rename_i hlen
        rw [if_neg hlen] at h
        cases h
    · cases event <;> simp_all [push, LiveMessage.isControl]

theorem open_of_accepted {event : LiveMessage} (h : (q.push event).1 = true) :
    q.closed = false := by
  by_contra hclosed
  have hclosed : q.closed = true := by simpa using hclosed
  simp [push, hclosed] at h

/-- What a push of evidence does: replace the queued one, give way to it, queue up or be
dropped. -/
theorem pushEvidence_cases (e : TrackEvidenceEvent) :
    (∃ found, q.evidence.get e.trackerId = some found ∧
      found.evidenceRevision < e.evidenceRevision ∧
      q.pushEvidence e = { q with evidence := q.evidence.replace e } ∧
      q.superseded (.trackEvidence e) = [(found, e)] ∧ q.dropped (.trackEvidence e) = []) ∨
    (∃ found, q.evidence.get e.trackerId = some found ∧
      e.evidenceRevision ≤ found.evidenceRevision ∧ q.pushEvidence e = q ∧
      q.superseded (.trackEvidence e) = [(e, found)] ∧ q.dropped (.trackEvidence e) = []) ∨
    (q.evidence.get e.trackerId = none ∧ q.evidence.rows.length < 256 ∧
      q.pushEvidence e =
        { q with
          evidenceOrder := q.evidenceOrder ++ [e.trackerId]
          evidence := q.evidence.insert e } ∧
      q.superseded (.trackEvidence e) = [] ∧ q.dropped (.trackEvidence e) = []) ∨
    (q.evidence.get e.trackerId = none ∧ 256 ≤ q.evidence.rows.length ∧
      q.pushEvidence e = { q with droppedEvents := q.droppedEvents + 1 } ∧
      q.superseded (.trackEvidence e) = [] ∧
      q.dropped (.trackEvidence e) = [.trackEvidence e]) := by
  cases hg : q.evidence.get e.trackerId with
  | some found =>
      by_cases hlt : found.evidenceRevision < e.evidenceRevision
      · exact .inl ⟨found, rfl, hlt, by simp [pushEvidence, superseded, dropped, hg, hlt]⟩
      · exact .inr (.inl ⟨found, rfl, not_lt.mp hlt, by
          simp [pushEvidence, superseded, dropped, hg, hlt]⟩)
  | none =>
      by_cases hlt : q.evidence.rows.length < 256
      · exact .inr (.inr (.inl ⟨rfl, hlt, by
          simp [pushEvidence, superseded, dropped, hg, hlt]⟩))
      · exact .inr (.inr (.inr ⟨rfl, not_lt.mp hlt, by
          simp [pushEvidence, superseded, dropped, hg, hlt, not_lt.mp hlt]⟩))

/-- Evidence that takes the place of another has its tracker; new evidence queues up last. -/
theorem pushEvidence_coherent (h : q.Coherent) (e : TrackEvidenceEvent) :
    (q.pushEvidence e).Coherent := by
  rcases pushEvidence_cases (q := q) e with ⟨found, -, -, hq, -⟩ | ⟨found, -, -, hq, -⟩ |
    ⟨hg, -, hq, -⟩ | ⟨-, -, hq, -⟩ <;> rw [hq]
  · show q.evidenceOrder.Perm ((q.evidence.replace e).rows.map _)
    rw [Table.replace, Table.mapRows_keys]
    exact h
  · exact h
  · show (q.evidenceOrder ++ [e.trackerId]).Perm ((q.evidence.insert e).rows.map _)
    rw [Table.insert_rows (fresh hg), List.map_append]
    exact h.append_right _
  · exact h

theorem pushEvidence_bounded (hle : q.evidence.rows.length ≤ 256)
    (e : TrackEvidenceEvent) : (q.pushEvidence e).evidence.rows.length ≤ 256 := by
  rcases pushEvidence_cases (q := q) e with ⟨found, -, -, hq, -⟩ | ⟨found, -, -, hq, -⟩ |
    ⟨hg, hlt, hq, -⟩ | ⟨-, -, hq, -⟩ <;> rw [hq]
  · show (q.evidence.replace e).rows.length ≤ 256
    rw [Table.replace, Table.mapRows_rows, List.length_map]
    exact hle
  · exact hle
  · show (q.evidence.insert e).rows.length ≤ 256
    rw [Table.insert_rows (fresh hg), List.length_append]
    exact hlt
  · exact hle

/-- What a push of an operation does: the oldest gives way if there are 64. -/
theorem pushOperation_cases (e : NativeOperationEvent) :
    (∃ oldest operations, q.operations = oldest :: operations ∧ q.operations.length = 64 ∧
      q.pushOperation e =
        { q with
          operations := operations ++ [e]
          droppedEvents := q.droppedEvents + 1 } ∧
      q.dropped (.nativeOperation e) = [.nativeOperation oldest]) ∨
    (q.operations.length ≠ 64 ∧
      q.pushOperation e = { q with operations := q.operations ++ [e] } ∧
      q.dropped (.nativeOperation e) = []) := by
  by_cases hlen : q.operations.length = 64
  · cases hop : q.operations with
    | nil =>
        rw [hop] at hlen
        cases hlen
    | cons oldest operations =>
        rw [hop] at hlen
        refine .inl ⟨oldest, operations, rfl, hlen, ?_⟩
        simp [pushOperation, dropped, hlen, hop]
  · exact .inr ⟨hlen, by simp [pushOperation, dropped, hlen]⟩

/-! ## What a push leaves alone -/

@[simp] theorem pushEvidence_control (e : TrackEvidenceEvent) :
    (q.pushEvidence e).control = q.control := by
  rcases pushEvidence_cases (q := q) e with ⟨_, _, _, hq, _⟩ | ⟨_, _, _, hq, _⟩ |
    ⟨_, _, hq, _⟩ | ⟨_, _, hq, _⟩ <;> rw [hq]

@[simp] theorem pushEvidence_operations (e : TrackEvidenceEvent) :
    (q.pushEvidence e).operations = q.operations := by
  rcases pushEvidence_cases (q := q) e with ⟨_, _, _, hq, _⟩ | ⟨_, _, _, hq, _⟩ |
    ⟨_, _, hq, _⟩ | ⟨_, _, hq, _⟩ <;> rw [hq]

@[simp] theorem pushOperation_control (e : NativeOperationEvent) :
    (q.pushOperation e).control = q.control := by
  rcases pushOperation_cases (q := q) e with ⟨_, _, _, _, hq, _⟩ | ⟨_, hq, _⟩ <;> rw [hq]

@[simp] theorem pushOperation_evidence (e : NativeOperationEvent) :
    (q.pushOperation e).evidence = q.evidence := by
  rcases pushOperation_cases (q := q) e with ⟨_, _, _, _, hq, _⟩ | ⟨_, hq, _⟩ <;> rw [hq]

@[simp] theorem pushOperation_evidenceOrder (e : NativeOperationEvent) :
    (q.pushOperation e).evidenceOrder = q.evidenceOrder := by
  rcases pushOperation_cases (q := q) e with ⟨_, _, _, _, hq, _⟩ | ⟨_, hq, _⟩ <;> rw [hq]

/-- An accepted event joins the control queue if it is a control event. -/
theorem push_control_queue {event : LiveMessage} (h : (q.push event).1 = true) :
    (q.push event).2.control = q.control ++ [event].filter LiveMessage.isControl ∧
      (q.control.length ≤ 32 → (q.push event).2.control.length ≤ 32) := by
  have hopen := open_of_accepted h
  by_cases hc : event.isControl = true
  · rw [push_control hopen hc] at h ⊢
    split at h
    · cases h
    · rename_i hlen
      rw [if_neg hlen]
      refine ⟨by simp [hc], fun hle => ?_⟩
      have hlt : q.control.length < 32 := lt_of_le_of_ne hle hlen
      simpa using Nat.succ_le_of_lt hlt
  · have hkept : (q.push event).2.control = q.control := by
      cases event <;> simp_all [push, LiveMessage.isControl]
    rw [hkept]
    exact ⟨by simp [hc], id⟩

/-- An event that is no evidence leaves the queued evidence alone. -/
theorem push_evidence_queue {event : LiveMessage} (he : event.evidence? = none) :
    (q.push event).2.evidence = q.evidence ∧ (q.push event).2.evidenceOrder = q.evidenceOrder ∧
      q.superseded event = [] ∧ (q.dropped event).filterMap LiveMessage.evidence? = [] := by
  cases event with
  | trackEvidence e => cases he
  | nativeOperation e =>
      refine ⟨?_, ?_, rfl, ?_⟩
      · simp only [push]
        split <;> simp
      · simp only [push]
        split <;> simp
      · simp only [dropped]
        split
        · cases q.operations <;> rfl
        · rfl
  | _ =>
      refine ⟨?_, ?_, rfl, rfl⟩
      · simp only [push]
        split_ifs <;> rfl
      · simp only [push]
        split_ifs <;> rfl

/-- An event that is no operation leaves the queued operations alone. -/
theorem push_operation_queue {event : LiveMessage} (ho : event.operation? = none) :
    (q.push event).2.operations = q.operations ∧
      (q.dropped event).filterMap LiveMessage.operation? = [] := by
  cases event with
  | nativeOperation e => cases ho
  | trackEvidence e =>
      constructor
      · simp only [push]
        split <;> simp
      · simp only [dropped]
        split <;> rfl
  | _ =>
      refine ⟨?_, rfl⟩
      simp only [push]
      split_ifs <;> rfl

/-- The dropped events are counted. -/
theorem push_droppedEvents {event : LiveMessage} (h : (q.push event).1 = true) :
    (q.push event).2.droppedEvents =
      q.droppedEvents + UInt64.ofNat (q.dropped event).length := by
  have hopen := open_of_accepted h
  cases event with
  | trackEvidence e =>
      rw [push_evidence hopen]
      rcases pushEvidence_cases (q := q) e with ⟨_, _, _, hq, _, hd⟩ | ⟨_, _, _, hq, _, hd⟩ |
        ⟨_, _, hq, _, hd⟩ | ⟨_, _, hq, _, hd⟩ <;> rw [hq, hd] <;> simp
  | nativeOperation e =>
      rw [push_operation hopen]
      rcases pushOperation_cases (q := q) e with ⟨_, _, _, _, hq, hd⟩ | ⟨_, hq, hd⟩ <;>
        rw [hq, hd] <;> simp
  | _ =>
      simp only [push, dropped]
      split_ifs <;> simp

/-- The event that a push gives way to is queued after it. -/
theorem superseded_queued (h : q.closed = false) {event : LiveMessage}
    {p : TrackEvidenceEvent × TrackEvidenceEvent} (hp : p ∈ q.superseded event) :
    p.1.trackerId = p.2.trackerId ∧ p.1.evidenceRevision ≤ p.2.evidenceRevision ∧
      p.2 ∈ (q.push event).2.evidence.rows := by
  cases event with
  | trackEvidence e =>
      rw [push_evidence h]
      rcases pushEvidence_cases (q := q) e with ⟨found, hg, hlt, hq, hs, -⟩ |
        ⟨found, hg, hle, hq, hs, -⟩ | ⟨-, -, -, hs, -⟩ | ⟨-, -, -, hs, -⟩
      · rw [hs, List.mem_singleton] at hp
        rw [hq, hp]
        have hput := Table.get_eq_some_iff.mp (Table.get_replace_self hg)
        exact ⟨(Table.get_eq_some_iff.mp hg).2, hlt.le, hput.1⟩
      · rw [hs, List.mem_singleton] at hp
        rw [hq, hp]
        have hfound := Table.get_eq_some_iff.mp hg
        exact ⟨hfound.2.symm, hle, hfound.1⟩
      · rw [hs] at hp
        cases hp
      · rw [hs] at hp
        cases hp
  | _ => cases hp

end LiveWorkerEventQueue

/-! ## Where the accepted events are -/

namespace WorkerQueue

/-- The events that have been popped. -/
def poppedEvents (s : WorkerQueue) : List LiveMessage := s.popped.filterMap Popped.event?

/-- The control events come out in the order in which they went in. -/
structure ControlKept (s : WorkerQueue) : Prop where
  bounded : s.queue.control.length ≤ 32
  ordered : s.poppedEvents.filter LiveMessage.isControl ++ s.queue.control =
    s.accepted.filter LiveMessage.isControl

/-- Accepted evidence is popped, queued, superseded or dropped. -/
structure EvidenceKept (s : WorkerQueue) : Prop where
  coherent : s.queue.Coherent
  bounded : s.queue.evidence.rows.length ≤ 256
  accounted : (s.accepted.filterMap LiveMessage.evidence?).Perm
    (s.poppedEvents.filterMap LiveMessage.evidence? ++ (s.queue.evidence.rows ++
      (s.superseded.map Prod.fst ++ s.dropped.filterMap LiveMessage.evidence?)))
  superseded : ∀ p ∈ s.superseded, p.1.trackerId = p.2.trackerId ∧
    p.1.evidenceRevision ≤ p.2.evidenceRevision

/-- Accepted operations are popped in order, queued or dropped. -/
structure OperationsKept (s : WorkerQueue) : Prop where
  bounded : s.queue.operations.length ≤ 64
  ordered : (s.poppedEvents.filterMap LiveMessage.operation? ++ s.queue.operations).Sublist
    (s.accepted.filterMap LiveMessage.operation?)
  accounted : (s.accepted.filterMap LiveMessage.operation?).Perm
    (s.poppedEvents.filterMap LiveMessage.operation? ++ (s.queue.operations ++
      s.dropped.filterMap LiveMessage.operation?))

/-- Nothing else is counted as dropped. -/
def Counted (s : WorkerQueue) : Prop :=
  s.queue.droppedEvents = UInt64.ofNat s.dropped.length

variable {s : WorkerQueue}

theorem push_accepted {event : LiveMessage} (h : (s.queue.push event).1 = true) :
    s.push event =
      { queue := (s.queue.push event).2
        accepted := s.accepted ++ [event]
        popped := s.popped
        superseded := s.superseded ++ s.queue.superseded event
        dropped := s.dropped ++ s.queue.dropped event } := by
  simp [push, h]

theorem push_refused {event : LiveMessage} (h : (s.queue.push event).1 = false) :
    s.push event = s := by
  simp [push, h, LiveWorkerEventQueue.push_refused h]

/-- A push keeps what an accepted push keeps. -/
theorem push_of_accepted {P : WorkerQueue → Prop} (h : P s) {event : LiveMessage}
    (ha : (s.queue.push event).1 = true → P (s.push event)) : P (s.push event) := by
  cases hacc : (s.queue.push event).1 with
  | true => exact ha hacc
  | false => rwa [push_refused hacc]

theorem controlKept_push (h : s.ControlKept) (event : LiveMessage) :
    (s.push event).ControlKept := by
  refine push_of_accepted h fun hacc => ?_
  obtain ⟨hq, hle⟩ := LiveWorkerEventQueue.push_control_queue hacc
  rw [push_accepted hacc]
  refine ⟨hle h.bounded, ?_⟩
  show s.poppedEvents.filter _ ++ (s.queue.push event).2.control = _
  rw [hq, List.filter_append, ← h.ordered, List.append_assoc]

/-- A push that leaves the queued evidence alone. -/
theorem evidenceKept_frame (h : s.EvidenceKept) {event : LiveMessage}
    (hacc : (s.queue.push event).1 = true) (he : event.evidence? = none) :
    (s.push event).EvidenceKept := by
  obtain ⟨hrows, horder, hs, hd⟩ := LiveWorkerEventQueue.push_evidence_queue (q := s.queue) he
  rw [push_accepted hacc, hs]
  refine ⟨?_, ?_, ?_, ?_⟩
  · show (s.queue.push event).2.evidenceOrder.Perm _
    rw [horder, hrows]
    exact h.coherent
  · show (s.queue.push event).2.evidence.rows.length ≤ 256
    rw [hrows]
    exact h.bounded
  · simp only [List.filterMap_append, hd, hrows, List.append_nil, List.filterMap_cons, he,
      List.filterMap_nil]
    exact h.accounted
  · simpa using h.superseded

/-- After a push of `e`, with the rows it leaves and what it supersedes or drops. -/
theorem accounted_push (h : s.EvidenceKept) {e : TrackEvidenceEvent}
    {rows : List TrackEvidenceEvent} {replaced : List (TrackEvidenceEvent × TrackEvidenceEvent)}
    {lost : List LiveMessage}
    (hp : (e :: s.queue.evidence.rows).Perm
      (rows ++ (replaced.map Prod.fst ++ lost.filterMap LiveMessage.evidence?))) :
    ((s.accepted ++ [LiveMessage.trackEvidence e]).filterMap LiveMessage.evidence?).Perm
      (s.poppedEvents.filterMap LiveMessage.evidence? ++ (rows ++
        ((s.superseded ++ replaced).map Prod.fst ++
          (s.dropped ++ lost).filterMap LiveMessage.evidence?))) := by
  have hsplit : (s.accepted ++ [LiveMessage.trackEvidence e]).filterMap LiveMessage.evidence? =
      s.accepted.filterMap LiveMessage.evidence? ++ [e] := by
    rw [List.filterMap_append]
    rfl
  rw [hsplit, List.perm_iff_count]
  intro a
  have hbefore := h.accounted.count_eq a
  have hrows := hp.count_eq a
  simp only [List.map_append, List.filterMap_append, List.count_append, List.count_cons,
    List.count_nil] at hbefore hrows ⊢
  omega

theorem evidenceKept_push (h : s.EvidenceKept) (event : LiveMessage) :
    (s.push event).EvidenceKept := by
  refine push_of_accepted h fun hacc => ?_
  cases event with
  | trackEvidence e =>
      have hopen := LiveWorkerEventQueue.open_of_accepted hacc
      have hsuper : ∀ p ∈ s.superseded ++ s.queue.superseded (.trackEvidence e),
          p.1.trackerId = p.2.trackerId ∧ p.1.evidenceRevision ≤ p.2.evidenceRevision := by
        intro p hp
        rcases List.mem_append.mp hp with hp | hp
        · exact h.superseded p hp
        · have hqueued := LiveWorkerEventQueue.superseded_queued hopen hp
          exact ⟨hqueued.1, hqueued.2.1⟩
      rw [push_accepted hacc, LiveWorkerEventQueue.push_evidence hopen]
      refine ⟨LiveWorkerEventQueue.pushEvidence_coherent h.coherent e,
        LiveWorkerEventQueue.pushEvidence_bounded h.bounded e, accounted_push h ?_, hsuper⟩
      rcases LiveWorkerEventQueue.pushEvidence_cases (q := s.queue) e with
        ⟨found, hg, -, hq, hs, hd⟩ | ⟨found, -, -, hq, hs, hd⟩ | ⟨hg, -, hq, hs, hd⟩ |
        ⟨-, -, hq, hs, hd⟩ <;> rw [hq, hs, hd]
      · -- the newer evidence takes the place of the queued one
        exact (Table.perm_replace hg).symm.trans (List.perm_append_singleton _ _).symm
      · -- the older evidence gives way to the queued one
        exact (List.perm_append_singleton _ _).symm
      · show (e :: s.queue.evidence.rows).Perm ((s.queue.evidence.insert e).rows ++ [])
        rw [Table.insert_rows (LiveWorkerEventQueue.fresh hg), List.append_nil]
        exact (List.perm_append_singleton _ _).symm
      · exact (List.perm_append_singleton _ _).symm
  | _ => exact evidenceKept_frame h hacc rfl

/-- A push that leaves the queued operations alone. -/
theorem operationsKept_frame (h : s.OperationsKept) {event : LiveMessage}
    (hacc : (s.queue.push event).1 = true) (ho : event.operation? = none) :
    (s.push event).OperationsKept := by
  obtain ⟨hop, hd⟩ := LiveWorkerEventQueue.push_operation_queue (q := s.queue) ho
  have hsame : (s.accepted ++ [event]).filterMap LiveMessage.operation? =
      s.accepted.filterMap LiveMessage.operation? := by
    simp [List.filterMap_append, ho]
  rw [push_accepted hacc]
  refine ⟨?_, ?_, ?_⟩
  · show (s.queue.push event).2.operations.length ≤ 64
    rw [hop]
    exact h.bounded
  · rw [hop, hsame]
    exact h.ordered
  · rw [hop, hsame, List.filterMap_append, hd, List.append_nil]
    exact h.accounted

theorem operationsKept_push (h : s.OperationsKept) (event : LiveMessage) :
    (s.push event).OperationsKept := by
  refine push_of_accepted h fun hacc => ?_
  cases event with
  | nativeOperation e =>
      have hopen := LiveWorkerEventQueue.open_of_accepted hacc
      have hsplit : (s.accepted ++ [LiveMessage.nativeOperation e]).filterMap
          LiveMessage.operation? = s.accepted.filterMap LiveMessage.operation? ++ [e] := by
        rw [List.filterMap_append]
        rfl
      rw [push_accepted hacc, LiveWorkerEventQueue.push_operation hopen]
      have hbefore := h.accounted.count_eq
      rcases LiveWorkerEventQueue.pushOperation_cases (q := s.queue) e with
        ⟨oldest, operations, hold, hlen, hq, hd⟩ | ⟨hlen, hq, hd⟩ <;> rw [hq, hd]
      · -- the oldest operation leaves the middle of the order
        have hshort : (s.poppedEvents.filterMap LiveMessage.operation? ++ operations).Sublist
            (s.accepted.filterMap LiveMessage.operation?) := by
          refine List.Sublist.trans ?_ h.ordered
          rw [hold]
          exact (List.sublist_cons_self oldest operations).append_left _
        rw [hold] at hlen
        refine ⟨?_, ?_, ?_⟩
        · show (operations ++ [e]).length ≤ 64
          rw [List.length_append]
          exact hlen.le
        · rw [hsplit]
          show (s.poppedEvents.filterMap _ ++ (operations ++ [e])).Sublist _
          rw [← List.append_assoc]
          exact hshort.append_right [e]
        · rw [hsplit, List.perm_iff_count]
          intro a
          have ha := hbefore a
          simp only [hold, List.filterMap_append, List.filterMap_cons, LiveMessage.operation?,
            List.filterMap_nil, List.count_append, List.count_cons, List.count_nil,
            poppedEvents] at ha ⊢
          omega
      · refine ⟨?_, ?_, ?_⟩
        · show (s.queue.operations ++ [e]).length ≤ 64
          rw [List.length_append]
          exact Nat.lt_of_le_of_ne h.bounded hlen
        · rw [hsplit]
          show (s.poppedEvents.filterMap _ ++ (s.queue.operations ++ [e])).Sublist _
          rw [← List.append_assoc]
          exact h.ordered.append_right [e]
        · rw [hsplit, List.perm_iff_count]
          intro a
          have ha := hbefore a
          simp only [List.filterMap_append, List.filterMap_nil, List.count_append,
            List.count_cons, List.count_nil, poppedEvents] at ha ⊢
          omega
  | _ => exact operationsKept_frame h hacc rfl

theorem counted_push (h : s.Counted) (event : LiveMessage) : (s.push event).Counted := by
  refine push_of_accepted h fun hacc => ?_
  rw [push_accepted hacc]
  have h : s.queue.droppedEvents = UInt64.ofNat s.dropped.length := h
  show (s.queue.push event).2.droppedEvents = UInt64.ofNat (s.dropped ++ _).length
  rw [LiveWorkerEventQueue.push_droppedEvents hacc, h, List.length_append, UInt64.ofNat_add]

/-! ## Pops -/

theorem poppedEvents_pop :
    s.pop.poppedEvents = s.poppedEvents ++ s.queue.pop.1.event?.toList := by
  simp only [poppedEvents, pop, List.filterMap_append, List.filterMap_cons, List.filterMap_nil]
  cases s.queue.pop.1.event? <;> rfl

theorem ControlKept.isControl (h : s.ControlKept) {event : LiveMessage}
    (he : event ∈ s.queue.control) : event.isControl = true := by
  have hmem := List.mem_append_right (s.poppedEvents.filter LiveMessage.isControl) he
  rw [h.ordered] at hmem
  exact (List.mem_filter.mp hmem).2

theorem controlKept_pop (h : s.ControlKept) (hq : s.queue.Coherent) : s.pop.ControlKept := by
  have hkept := LiveWorkerEventQueue.pop_control hq fun _ => h.isControl
  refine ⟨?_, ?_⟩
  · have hle := h.bounded
    rw [← hkept, List.length_append] at hle
    show s.queue.pop.2.control.length ≤ 32
    omega
  · rw [poppedEvents_pop, List.filter_append, List.append_assoc]
    show _ ++ (_ ++ s.queue.pop.2.control) = s.accepted.filter LiveMessage.isControl
    rw [hkept, h.ordered]

theorem evidenceKept_pop (h : s.EvidenceKept)
    (hc : ∀ event ∈ s.queue.control, event.isControl = true) : s.pop.EvidenceKept := by
  have hkept := LiveWorkerEventQueue.pop_evidence h.coherent hc
  refine ⟨LiveWorkerEventQueue.pop_coherent h.coherent, ?_, ?_, h.superseded⟩
  · have hle := h.bounded
    rw [hkept.length_eq, List.length_append] at hle
    show s.queue.pop.2.evidence.rows.length ≤ 256
    omega
  · rw [poppedEvents_pop, List.filterMap_append, List.append_assoc]
    refine h.accounted.trans (List.Perm.append_left _ ?_)
    show (s.queue.evidence.rows ++ _).Perm (_ ++ (s.queue.pop.2.evidence.rows ++ _))
    rw [← List.append_assoc (List.filterMap _ _) s.queue.pop.2.evidence.rows]
    exact hkept.append_right _

theorem operationsKept_pop (h : s.OperationsKept) (hq : s.queue.Coherent)
    (hc : ∀ event ∈ s.queue.control, event.isControl = true) : s.pop.OperationsKept := by
  have hkept := LiveWorkerEventQueue.pop_operations hq hc
  refine ⟨?_, ?_, ?_⟩
  · have hle := h.bounded
    rw [← hkept, List.length_append] at hle
    show s.queue.pop.2.operations.length ≤ 64
    omega
  · rw [poppedEvents_pop, List.filterMap_append, List.append_assoc]
    show (_ ++ (_ ++ s.queue.pop.2.operations)).Sublist _
    rw [hkept]
    exact h.ordered
  · rw [poppedEvents_pop, List.filterMap_append, List.append_assoc]
    show (s.accepted.filterMap LiveMessage.operation?).Perm
      (_ ++ (_ ++ (s.queue.pop.2.operations ++ _)))
    rw [← List.append_assoc (List.filterMap _ _) s.queue.pop.2.operations, hkept]
    exact h.accounted

theorem counted_pop (h : s.Counted) : s.pop.Counted := by
  show s.queue.pop.2.droppedEvents = _
  rw [LiveWorkerEventQueue.pop_droppedEvents]
  exact h

/-! ## Runs -/

/-- What every step keeps. -/
structure Conserves (s : WorkerQueue) : Prop where
  control : s.ControlKept
  evidence : s.EvidenceKept
  operations : s.OperationsKept
  counted : s.Counted

theorem conserves_step : workerQueue.Preserved Conserves := by
  intro s step _ h
  cases step with
  | push event =>
      exact ⟨controlKept_push h.control event, evidenceKept_push h.evidence event,
        operationsKept_push h.operations event, counted_push h.counted event⟩
  | pop =>
      have hq := h.evidence.coherent
      have hc := fun event (he : event ∈ s.queue.control) => h.control.isControl he
      exact ⟨controlKept_pop h.control hq, evidenceKept_pop h.evidence hc,
        operationsKept_pop h.operations hq hc, counted_pop h.counted⟩
  | close =>
      exact ⟨{ h.control with }, { h.evidence with }, { h.operations with }, h.counted⟩

theorem conserves_init : ({} : WorkerQueue).Conserves :=
  have hnone : ∀ p ∈ ({} : WorkerQueue).superseded, p.1.trackerId = p.2.trackerId ∧
      p.1.evidenceRevision ≤ p.2.evidenceRevision := fun p hp => absurd hp List.not_mem_nil
  ⟨⟨by decide, rfl⟩, ⟨List.Perm.refl _, by decide, List.Perm.refl _, hnone⟩,
    ⟨by decide, List.Sublist.refl _, List.Perm.refl _⟩, rfl⟩

/-- A closed queue takes nothing in and gives out what remains. -/
theorem closed_step (h : s.Conserves) (hclosed : s.queue.closed = true) (step : WorkerQueueStep) :
    (workerQueue.next s step).queue.closed = true ∧
      ((workerQueue.next s step).popped =
        s.popped ++ (if step = .pop then [Popped.of s.queue.remaining.head?] else [])) ∧
      (workerQueue.next s step).queue.remaining =
        if step = .pop then s.queue.remaining.tail else s.queue.remaining := by
  cases step with
  | push event =>
      have hrefused : (s.queue.push event).1 = false := by
        simp [LiveWorkerEventQueue.push, hclosed]
      show (s.push event).queue.closed = true ∧ (s.push event).popped = _ ∧
        (s.push event).queue.remaining = _
      rw [push_refused hrefused]
      exact ⟨hclosed, by simp, by simp⟩
  | pop =>
      obtain ⟨hreturned, hleft⟩ := LiveWorkerEventQueue.pop_remaining h.evidence.coherent
      refine ⟨?_, ?_, ?_⟩
      · show s.queue.pop.2.closed = true
        rw [LiveWorkerEventQueue.pop_closed, hclosed]
      · show s.popped ++ [s.queue.pop.1] = _
        rw [hreturned, if_pos rfl]
      · show s.queue.pop.2.remaining = _
        rw [hleft, if_pos rfl]
  | close => exact ⟨rfl, by simp [workerQueue], by simp [workerQueue]⟩

/-- After a close, the pops return the remaining events and then nullopt. -/
theorem closed_run {steps : List WorkerQueueStep} (h : s.Conserves)
    (hclosed : s.queue.closed = true) (hv : workerQueue.Valid s steps) :
    (workerQueue.run s steps).popped = s.popped ++ s.queue.drained (steps.count .pop) := by
  induction steps generalizing s with
  | nil => simp [LiveWorkerEventQueue.drained]
  | cons step steps ih =>
      obtain ⟨hnext, hpopped, hleft⟩ := closed_step h hclosed step
      rw [Machine.run_cons, ih (conserves_step s step hv.1 h) hnext hv.2, hpopped]
      by_cases hstep : step = .pop
      · subst hstep
        rw [if_pos rfl] at hleft
        rw [if_pos rfl, List.append_assoc, List.singleton_append, List.count_cons_self,
          LiveWorkerEventQueue.drained_succ hleft]
      · rw [if_neg hstep] at hleft
        rw [if_neg hstep, List.append_nil, List.count_cons_of_ne hstep]
        simp only [LiveWorkerEventQueue.drained, hleft]

end WorkerQueue

/-- The laws of the queue, in one state. -/
structure WorkerQueue.Lawful (s : WorkerQueue) : Prop where
  orderNodup : s.queue.evidenceOrder.Nodup
  orderKeys : ∀ trackerId, trackerId ∈ s.queue.evidenceOrder ↔
    ∃ e ∈ s.queue.evidence.rows, e.trackerId = trackerId
  bounded : s.queue.stats.control ≤ 32 ∧ s.queue.stats.evidence ≤ 256 ∧
    s.queue.stats.metrics ≤ 1 ∧ s.queue.stats.operations ≤ 64
  found : ∀ trackerId, s.queue.pop.1 ≠ .missing trackerId
  controlFirst : ∀ event, s.queue.control.head? = some event → s.queue.pop.1 = .event event
  controlOrder : s.poppedEvents.filter LiveMessage.isControl ++ s.queue.control =
    s.accepted.filter LiveMessage.isControl
  evidence : (s.accepted.filterMap LiveMessage.evidence?).Perm
    (s.poppedEvents.filterMap LiveMessage.evidence? ++ (s.queue.evidence.rows ++
      (s.superseded.map Prod.fst ++ s.dropped.filterMap LiveMessage.evidence?)))
  superseded : ∀ p ∈ s.superseded, p.1.trackerId = p.2.trackerId ∧
    p.1.evidenceRevision ≤ p.2.evidenceRevision
  supersededQueued : s.queue.closed = false → ∀ event, ∀ p ∈ s.queue.superseded event,
    p.2 ∈ (s.queue.push event).2.evidence.rows
  operationsOrder : (s.poppedEvents.filterMap LiveMessage.operation? ++
    s.queue.operations).Sublist (s.accepted.filterMap LiveMessage.operation?)
  operations : (s.accepted.filterMap LiveMessage.operation?).Perm
    (s.poppedEvents.filterMap LiveMessage.operation? ++ (s.queue.operations ++
      s.dropped.filterMap LiveMessage.operation?))
  counted : s.queue.droppedEvents = UInt64.ofNat s.dropped.length

/-- Whatever is pushed, popped and closed in whatever order, no accepted event is lost
without being counted, and a closed queue gives out all that remains. -/
theorem worker_queue_conserves {s : WorkerQueue} (hr : workerQueue.Reachable s) :
    s.Lawful ∧ (s.queue.closed = true → ∀ steps, workerQueue.Valid s steps →
      (workerQueue.run s steps).popped = s.popped ++ s.queue.drained (steps.count .pop)) := by
  have h : s.Conserves := WorkerQueue.conserves_step.reachable
    (by rintro _ rfl; exact WorkerQueue.conserves_init) hr
  refine ⟨?_, fun hclosed steps hv => WorkerQueue.closed_run h hclosed hv⟩
  have hq := h.evidence.coherent
  constructor
  · exact hq.nodup
  · intro trackerId
    rw [hq.mem_iff, List.mem_map]
  · refine ⟨h.control.bounded, h.evidence.bounded, ?_, h.operations.bounded⟩
    show (if s.queue.metrics.isSome then 1 else 0) ≤ 1
    split <;> omega
  · intro trackerId
    rw [(LiveWorkerEventQueue.pop_remaining hq).1]
    cases s.queue.remaining.head? <;> nofun
  · exact fun event he => LiveWorkerEventQueue.pop_head he
  · exact h.control.ordered
  · exact h.evidence.accounted
  · exact h.evidence.superseded
  · exact fun hopen event p hp => (LiveWorkerEventQueue.superseded_queued hopen hp).2.2
  · exact h.operations.ordered
  · exact h.operations.accounted
  · exact h.counted

def queueHeader (messageType : MessageType) : ProtocolHeader :=
  ⟨1, messageType, "s", "c", "r", 1, 0, 1, "", none⟩

/-- Two evidence events of one tracker and a control event, then a close. -/
def queueSteps : List WorkerQueueStep :=
  [.push (.trackEvidence ⟨queueHeader .trackEvidence, 7, 1, 0, 10, [], []⟩),
    .push (.trackEvidence ⟨queueHeader .trackEvidence, 7, 2, 0, 20, [], []⟩),
    .push (.stopped ⟨queueHeader .stopped, 5, 1, 0, true, "requested"⟩), .close]

theorem worker_queue_conserves_sample :
    (workerQueue.run {} queueSteps).superseded.length = 1 ∧
      (workerQueue.run (workerQueue.run {} queueSteps) [.pop, .pop, .pop]).popped =
        [.event (.stopped ⟨queueHeader .stopped, 5, 1, 0, true, "requested"⟩),
          .event (.trackEvidence ⟨queueHeader .trackEvidence, 7, 2, 0, 20, [], []⟩), .nullopt] :=
  have h := worker_queue_conserves ⟨{}, queueSteps, rfl, by decide, rfl⟩
  ⟨rfl, (h.2 rfl [.pop, .pop, .pop] (by decide)).trans rfl⟩

end Mvision.Live
