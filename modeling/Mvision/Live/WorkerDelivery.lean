import Mvision.Live.WorkerQueue

/-!
# What the writer of the worker delivers

The pipeline threads and the command loop of `main` push their events and ignore
the result; the writer takes one event after the other, numbers it and writes it
to the supervisor, however long that takes.  A control queue that is full refuses
a failed or stopped event like any other.
-/

namespace Mvision.Live

open Mvision.Library

namespace LiveMessage

def mapHeader (f : ProtocolHeader → ProtocolHeader) : LiveMessage → LiveMessage
  | .start c => .start { c with header := f c.header }
  | .identityAssignment c => .identityAssignment { c with header := f c.header }
  | .stop c => .stop { c with header := f c.header }
  | .hello e => .hello { e with header := f e.header }
  | .state e => .state { e with header := f e.header }
  | .outputReady e => .outputReady { e with header := f e.header }
  | .trackEvidence e => .trackEvidence { e with header := f e.header }
  | .trackExpired e => .trackExpired { e with header := f e.header }
  | .metrics e => .metrics { e with header := f e.header }
  | .failed e => .failed { e with header := f e.header }
  | .stopped e => .stopped { e with header := f e.header }
  | .nativeOperation e => .nativeOperation { e with header := f e.header }

/-- `value.header.sequence = output_sequence` -/
def withSequence (sequence : UInt64) : LiveMessage → LiveMessage :=
  mapHeader fun header => { header with sequence := sequence.toNat }

/-- Failed and stopped events end a run. -/
def isTerminal : LiveMessage → Bool
  | .failed _ | .stopped _ => true
  | _ => false

theorem isControl_of_isTerminal {event : LiveMessage} (h : event.isTerminal = true) :
    event.isControl = true := by
  cases event <;> first | rfl | cases h

@[simp] theorem isTerminal_withSequence (sequence : UInt64) (event : LiveMessage) :
    (event.withSequence sequence).isTerminal = event.isTerminal := by
  cases event <;> rfl

@[simp] theorem withSequence_withSequence (new old : UInt64) (event : LiveMessage) :
    (event.withSequence old).withSequence new = event.withSequence new := by
  cases event <;> rfl

end LiveMessage

structure WorkerDelivery where
  events : WorkerQueue := {}
  /-- what the writer has popped and not written yet -/
  outbound : Option LiveMessage := none
  outputSequence : UInt64 := 100
  /-- the frames on the pipe to the supervisor -/
  written : List LiveMessage := []
  /-- the loop of the writer has ended -/
  drained : Bool := false
  /-- history: the terminal events that were pushed before the close -/
  terminal : List LiveMessage := []
deriving DecidableEq

inductive DeliveryStep where
  | push (event : LiveMessage)
  | close
  | pop
  | write
deriving DecidableEq

namespace WorkerDelivery

/-- The writer goes on with the popped event, or leaves its loop at nullopt. -/
def pop (s : WorkerDelivery) : WorkerDelivery :=
  { s with
    events := s.events.pop
    outbound := s.events.queue.pop.1.event?
    drained := decide (s.events.queue.pop.1 = .nullopt) }

def write (s : WorkerDelivery) : WorkerDelivery :=
  match s.outbound with
  | some event =>
      { s with
        outbound := none
        outputSequence := s.outputSequence + 1
        written := s.written ++ [event.withSequence s.outputSequence] }
  | none => s

end WorkerDelivery

/-- The threads of the worker around its queue, in any order. -/
def workerDelivery : Machine WorkerDelivery DeliveryStep where
  init s := s = {}
  enabled s
    | .push _ | .close => True
    | .pop => s.drained = false ∧ s.outbound = none ∧
        (s.events.queue.closed = true ∨ s.events.queue.empty = false)
    | .write => s.outbound.isSome = true
  next s
    | .push event =>
        { s with
          events := s.events.push event
          terminal :=
            if s.events.queue.closed = false ∧ event.isTerminal = true then s.terminal ++ [event]
            else s.terminal }
    | .close => { s with events := { s.events with queue := s.events.queue.close } }
    | .pop => s.pop
    | .write => s.write

instance (s : WorkerDelivery) (step : DeliveryStep) :
    Decidable (workerDelivery.enabled s step) :=
  match step with
  | .push _ | .close => inferInstanceAs (Decidable True)
  | .pop => inferInstanceAs (Decidable (_ ∧ _ ∧ (_ ∨ _)))
  | .write => inferInstanceAs (Decidable (_ = _))

namespace WorkerDelivery

/-- Each terminal event that was pushed before the close has been written exactly once,
under a sequence number of the writer. -/
def Delivered (s : WorkerDelivery) : Prop :=
  (s.written.filter LiveMessage.isTerminal).map (LiveMessage.withSequence 0) =
    s.terminal.map (LiveMessage.withSequence 0)

instance (s : WorkerDelivery) : Decidable s.Delivered := inferInstanceAs (Decidable (_ = _))

/-- A terminal event that is pushed before the close finds room. -/
def RoomLeft (s : WorkerDelivery) : DeliveryStep → Prop
  | .push event => event.isTerminal = true → s.events.queue.closed = false →
      s.events.queue.control.length < 32
  | _ => True

instance (s : WorkerDelivery) (step : DeliveryStep) : Decidable (s.RoomLeft step) :=
  match step with
  | .push _ => inferInstanceAs (Decidable (_ → _ → _))
  | .close | .pop | .write => inferInstanceAs (Decidable True)

/-! ## One step -/

/-- The accepted terminal events. -/
def acceptedTerminal (s : WorkerDelivery) : List LiveMessage :=
  s.events.accepted.filter LiveMessage.isTerminal

/-- What every step keeps: the popped events are the written ones and the one in between,
and once the writer has left its loop, the control queue is empty for good. -/
structure Tracked (s : WorkerDelivery) : Prop where
  conserves : s.events.Conserves
  taken : s.events.poppedEvents.map (LiveMessage.withSequence 0) =
    (s.written ++ s.outbound.toList).map (LiveMessage.withSequence 0)
  terminal : s.acceptedTerminal.Sublist s.terminal
  drained : s.drained = true →
    s.events.queue.closed = true ∧ s.events.queue.control = [] ∧ s.outbound = none

variable {s : WorkerDelivery}

theorem acceptedTerminal_push (event : LiveMessage) :
    (workerDelivery.next s (.push event)).acceptedTerminal =
      s.acceptedTerminal ++
        if (s.events.queue.push event).1 = true ∧ event.isTerminal = true then [event] else [] := by
  show (s.events.push event).accepted.filter LiveMessage.isTerminal = _
  cases hacc : (s.events.queue.push event).1 with
  | true =>
      rw [WorkerQueue.push_accepted hacc, List.filter_append]
      cases ht : event.isTerminal <;> simp [acceptedTerminal, ht]
  | false =>
      rw [WorkerQueue.push_refused hacc]
      simp [acceptedTerminal]

/-- An open queue accepts a terminal event exactly if there is room. -/
theorem accepts_iff (h : s.Tracked) {event : LiveMessage} (ht : event.isTerminal = true)
    (hopen : s.events.queue.closed = false) :
    (s.events.queue.push event).1 = true ↔ s.events.queue.control.length < 32 := by
  have hle := h.conserves.control.bounded
  rw [LiveWorkerEventQueue.push_control hopen (LiveMessage.isControl_of_isTerminal ht)]
  by_cases hlen : s.events.queue.control.length = 32
  · simp [hlen]
  · simp only [hlen, if_false, true_iff]
    omega

/-- A terminal event that is pushed before the close is accepted exactly if there is room. -/
theorem push_cases (h : s.Tracked) (event : LiveMessage) :
    (∃ more, (workerDelivery.next s (.push event)).acceptedTerminal = s.acceptedTerminal ++ more ∧
        (workerDelivery.next s (.push event)).terminal = s.terminal ++ more ∧
        s.RoomLeft (.push event)) ∨
      ((workerDelivery.next s (.push event)).acceptedTerminal = s.acceptedTerminal ∧
        (workerDelivery.next s (.push event)).terminal = s.terminal ++ [event] ∧
        ¬ s.RoomLeft (.push event)) := by
  have hafter : (workerDelivery.next s (.push event)).terminal =
      if s.events.queue.closed = false ∧ event.isTerminal = true then s.terminal ++ [event]
      else s.terminal := rfl
  rw [acceptedTerminal_push, hafter]
  by_cases ht : event.isTerminal = true
  · cases hopen : s.events.queue.closed with
    | true =>
        have hrefused : (s.events.queue.push event).1 = false := by
          simp [LiveWorkerEventQueue.push, hopen]
        refine .inl ⟨[], by simp [hrefused], by simp, fun _ hc => ?_⟩
        rw [hopen] at hc
        cases hc
    | false =>
        have hiff := accepts_iff h ht hopen
        by_cases hroom : s.events.queue.control.length < 32
        · refine .inl ⟨[event], ?_, by simp [ht], fun _ _ => hroom⟩
          rw [if_pos ⟨hiff.mpr hroom, ht⟩]
        · refine .inr ⟨?_, by simp [ht], fun hleft => hroom (hleft ht hopen)⟩
          rw [if_neg fun hacc => hroom (hiff.mp hacc.1), List.append_nil]
  · exact .inl ⟨[], by simp [ht], by simp [ht], fun ht' => absurd ht' ht⟩

/-- A pop that returns nothing found a closed and empty queue. -/
theorem nullopt_closed (h : s.Tracked)
    (he : s.events.queue.closed = true ∨ s.events.queue.empty = false)
    (hp : s.events.queue.pop.1 = .nullopt) :
    s.events.queue.closed = true ∧ s.events.queue.pop.2.control = [] := by
  have hq := h.conserves.evidence.coherent
  rcases LiveWorkerEventQueue.pop_cases hq with ⟨event, control, -, heq⟩ |
    ⟨-, trackerId, order, e, -, -, heq⟩ | ⟨-, -, e, -, heq⟩ | ⟨-, -, -, e, rest, -, heq⟩ |
    ⟨hc, ho, hm, hop, heq⟩ <;> rw [heq] at hp
  · cases hp
  · cases hp
  · cases hp
  · cases hp
  · rw [heq]
    refine ⟨he.resolve_right fun hempty => ?_, hc⟩
    have hrows : s.events.queue.evidence.rows = [] := by
      have hkeys : s.events.queue.evidenceOrder.Perm _ := hq
      rw [ho] at hkeys
      exact List.map_eq_nil_iff.mp hkeys.nil_eq.symm
    simp [LiveWorkerEventQueue.empty, hc, hm, hop, hrows] at hempty

theorem tracked_init : ({} : WorkerDelivery).Tracked where
  conserves := WorkerQueue.conserves_init
  taken := rfl
  terminal := List.Sublist.refl _
  drained := nofun

theorem conserves_next (h : s.events.Conserves) (step : WorkerQueueStep)
    (he : workerQueue.enabled s.events step) : (workerQueue.next s.events step).Conserves :=
  WorkerQueue.conserves_step s.events step he h

theorem tracked_push (h : s.Tracked) (event : LiveMessage) :
    (workerDelivery.next s (.push event)).Tracked := by
  have hpopped : (s.events.push event).poppedEvents = s.events.poppedEvents := by
    cases hacc : (s.events.queue.push event).1 with
    | true =>
        rw [WorkerQueue.push_accepted hacc]
        rfl
    | false => rw [WorkerQueue.push_refused hacc]
  refine ⟨conserves_next h.conserves (.push event) trivial, ?_, ?_, fun hd => ?_⟩
  · show (s.events.push event).poppedEvents.map _ = _
    rw [hpopped]
    exact h.taken
  · rcases push_cases h event with ⟨more, ha, ht, -⟩ | ⟨ha, ht, -⟩
    · rw [ha, ht]
      exact h.terminal.append_right more
    · rw [ha, ht]
      exact h.terminal.trans (List.sublist_append_left _ _)
  · obtain ⟨hclosed, hcontrol, hout⟩ := h.drained hd
    have hrefused : (s.events.queue.push event).1 = false := by
      simp [LiveWorkerEventQueue.push, hclosed]
    show (s.events.push event).queue.closed = true ∧ (s.events.push event).queue.control = [] ∧ _
    rw [WorkerQueue.push_refused hrefused]
    exact ⟨hclosed, hcontrol, hout⟩

theorem tracked_pop (h : s.Tracked) (hout : s.outbound = none)
    (he : s.events.queue.closed = true ∨ s.events.queue.empty = false) : s.pop.Tracked := by
  refine ⟨conserves_next h.conserves .pop he, ?_, h.terminal, fun hnow => ?_⟩
  · show s.events.pop.poppedEvents.map _ =
      (s.written ++ s.events.queue.pop.1.event?.toList).map _
    have htaken := h.taken
    rw [hout, Option.toList_none, List.append_nil] at htaken
    rw [WorkerQueue.poppedEvents_pop, List.map_append, htaken, List.map_append]
  · have hnull : s.events.queue.pop.1 = .nullopt := of_decide_eq_true hnow
    obtain ⟨hclosed, hcontrol⟩ := nullopt_closed h he hnull
    refine ⟨?_, hcontrol, ?_⟩
    · show s.events.queue.pop.2.closed = true
      rw [LiveWorkerEventQueue.pop_closed, hclosed]
    · show s.events.queue.pop.1.event? = none
      rw [hnull]
      rfl

theorem tracked_write (h : s.Tracked) : s.write.Tracked := by
  unfold write
  split
  · rename_i event hout
    refine ⟨h.conserves, ?_, h.terminal, fun hd => ?_⟩
    · rw [h.taken, hout]
      simp
    · obtain ⟨hclosed, hcontrol, hnone⟩ := h.drained hd
      exact ⟨hclosed, hcontrol, rfl⟩
  · exact h

theorem tracked_step : workerDelivery.Preserved Tracked := by
  intro s step he h
  cases step with
  | push event => exact tracked_push h event
  | close =>
      refine ⟨conserves_next h.conserves .close trivial, h.taken, h.terminal, ?_⟩
      exact fun hd => ⟨rfl, (h.drained hd).2⟩
  | pop => exact tracked_pop h he.2.1 he.2.2
  | write => exact tracked_write h

/-! ## Whole runs -/

/-- Renumbering keeps the terminal events. -/
theorem terminal_withSequence (events : List LiveMessage) :
    (events.filter LiveMessage.isTerminal).map (LiveMessage.withSequence 0) =
      (events.map (LiveMessage.withSequence 0)).filter LiveMessage.isTerminal := by
  have hsame : LiveMessage.isTerminal ∘ LiveMessage.withSequence 0 = LiveMessage.isTerminal :=
    funext fun event => LiveMessage.isTerminal_withSequence 0 event
  rw [List.filter_map, hsame]

/-- Terminal events are control events. -/
theorem terminal_control (events : List LiveMessage) :
    (events.filter LiveMessage.isControl).filter LiveMessage.isTerminal =
      events.filter LiveMessage.isTerminal := by
  rw [List.filter_filter]
  refine List.filter_congr fun event _ => ?_
  cases ht : event.isTerminal with
  | true => rw [LiveMessage.isControl_of_isTerminal ht, Bool.and_true]
  | false => rw [Bool.false_and]

/-- A drained writer has written what the queue accepted. -/
theorem delivered_iff (h : s.Tracked) (hd : s.drained = true) :
    s.Delivered ↔ s.acceptedTerminal = s.terminal := by
  obtain ⟨-, hcontrol, hout⟩ := h.drained hd
  have hwritten : (s.written.filter LiveMessage.isTerminal).map (LiveMessage.withSequence 0) =
      s.acceptedTerminal.map (LiveMessage.withSequence 0) := by
    have htaken := h.taken
    have hordered := h.conserves.control.ordered
    rw [hout, Option.toList_none, List.append_nil] at htaken
    rw [hcontrol, List.append_nil] at hordered
    rw [terminal_withSequence, ← htaken, ← terminal_withSequence, ← terminal_control, hordered,
      terminal_control]
    rfl
  rw [Delivered, hwritten]
  constructor
  · intro heq
    have hlen := congrArg List.length heq
    rw [List.length_map, List.length_map] at hlen
    exact h.terminal.eq_of_length hlen
  · exact congrArg _

end WorkerDelivery

/-- Every terminal event that is pushed before the close reaches the supervisor exactly if
each of them finds room in the control queue. -/
theorem terminal_delivered_iff (steps : List DeliveryStep) (hv : workerDelivery.Valid {} steps)
    (hd : (workerDelivery.run {} steps).drained = true) :
    (workerDelivery.run {} steps).Delivered ↔
      workerDelivery.Meets WorkerDelivery.RoomLeft {} steps := by
  have hlast := WorkerDelivery.tracked_step.run hv WorkerDelivery.tracked_init
  rw [WorkerDelivery.delivered_iff hlast hd]
  have hrun := Machine.run_iff_meets (M := workerDelivery) (I := WorkerDelivery.Tracked)
    (P := fun s => s.acceptedTerminal = s.terminal) (E := workerDelivery.enabled)
    (C := WorkerDelivery.RoomLeft) (fun s step he h => WorkerDelivery.tracked_step s step he h)
    (fun s step he h => ?_) hv WorkerDelivery.tracked_init
  · rw [hrun]
    exact and_iff_right rfl
  · cases step with
    | push event =>
        rcases WorkerDelivery.push_cases h event with ⟨more, ha, ht, hroom⟩ | ⟨ha, ht, hroom⟩
        · rw [ha, ht, List.append_left_inj]
          exact (and_iff_left hroom).symm
        · rw [ha, ht]
          refine iff_of_false (fun heq => ?_) fun hboth => hroom hboth.2
          have hle := h.terminal.length_le
          rw [heq, List.length_append] at hle
          exact Nat.not_succ_le_self _ hle
    | close => exact (and_iff_left trivial).symm
    | pop => exact (and_iff_left trivial).symm
    | write =>
        have hsame : s.write.acceptedTerminal = s.acceptedTerminal ∧
            s.write.terminal = s.terminal := by
          unfold WorkerDelivery.write
          split <;> exact ⟨rfl, rfl⟩
        show s.write.acceptedTerminal = s.write.terminal ↔ _
        rw [hsame.1, hsame.2]
        exact (and_iff_left trivial).symm

def stateEvent (state : LiveRuntimeState) : LiveMessage :=
  .state ⟨queueHeader .state, state, none⟩

def stoppedEvent : LiveMessage :=
  .stopped ⟨queueHeader .stopped, 5, 1, 0, true, "requested"⟩

/-- The writer takes and writes `n` events and then finds the queue closed. -/
def drain (n : Nat) : List DeliveryStep :=
  (List.replicate n [DeliveryStep.pop, .write]).flatten ++ [.pop]

theorem terminal_delivered_prompt :
    (workerDelivery.run {} ([.push (stateEvent .starting), .push stoppedEvent, .close] ++
      drain 2)).Delivered :=
  (terminal_delivered_iff _ (by decide) (by decide)).mpr (by decide)

/-- Sixteen outages come and go while the pipe is full, then the pipeline stops. -/
def reconnectStorm : List DeliveryStep :=
  (List.replicate 16
      [DeliveryStep.push (stateEvent .active), .push (stateEvent .reconnecting)]).flatten ++
    [.push stoppedEvent, .close] ++ drain 32

theorem terminal_event_lost :
    ¬ ∀ steps, workerDelivery.Valid {} steps → (workerDelivery.run {} steps).drained = true →
      (workerDelivery.run {} steps).Delivered := by
  intro h
  have hlost := h reconnectStorm (by decide +kernel) (by decide +kernel)
  revert hlost
  decide +kernel

end Mvision.Live
