import Mvision.Library.Mailbox
import Mvision.Library.Table
import Mvision.Live.Protocol

/-!
# The command queue of the supervisor: `LiveCommandQueue`

Stop commands wait in a queue, assignments in an ordered dictionary that holds
one assignment for each tracker.  Seen from one tracker the queue is a mailbox
that keeps the newest letter, as long as nothing is evicted and the revisions
that are put grow.
-/

namespace Mvision.Live

open Mvision.Library

inductive LiveCommand where
  | assignment (command : IdentityAssignment)
  | stop (command : StopCommand)
deriving DecidableEq

structure LiveCommandQueue where
  assignmentCapacity : Nat
  controls : List StopCommand
  assignments : Table IdentityAssignment.trackerId
  capacity_pos : 1 ≤ assignmentCapacity

namespace LiveCommandQueue

/-- `LiveCommandQueue.__init__` -/
def create (assignmentCapacity : Nat) : Except String LiveCommandQueue :=
  if h : assignmentCapacity < 1 then .error "LIVE_COMMAND_CAPACITY_INVALID"
  else .ok ⟨assignmentCapacity, [], .empty, Nat.not_lt.mp h⟩

/-- `LiveCommandQueue.put_nowait` -/
def putNowait (q : LiveCommandQueue) : LiveCommand → Bool × LiveCommandQueue
  | .stop command => (true, { q with controls := q.controls ++ [command] })
  | .assignment command =>
      match q.assignments.get command.trackerId with
      | some previous =>
          if command.assignmentRevision ≤ previous.assignmentRevision then (false, q)
          else (true, { q with assignments := q.assignments.replace command })
      | none =>
          let assignments :=
            if q.assignments.rows.length ≥ q.assignmentCapacity then q.assignments.tail
            else q.assignments
          (true, { q with assignments := assignments.insert command })

/-- `LiveCommandQueue.get_nowait`, `none` for `asyncio.QueueEmpty` -/
def getNowait (q : LiveCommandQueue) : Option (LiveCommand × LiveCommandQueue) :=
  match q.controls with
  | command :: controls => some (.stop command, { q with controls := controls })
  | [] =>
      match q.assignments.rows.head? with
      | some command => some (.assignment command, { q with assignments := q.assignments.tail })
      | none => none

/-- The assignment that waits for a tracker. -/
def waiting (q : LiveCommandQueue) (tracker : Nat) : Option IdentityAssignment :=
  q.assignments.get tracker

end LiveCommandQueue

/-- The queue and the commands the writer has taken from it. -/
structure QueueRun where
  queue : LiveCommandQueue
  out : List LiveCommand

inductive QueueOp where
  | put (command : LiveCommand)
  | get
deriving DecidableEq

/-- Producer and writer, one call at a time. -/
def commandQueue : Machine QueueRun QueueOp where
  init r := (∃ capacity, LiveCommandQueue.create capacity = .ok r.queue) ∧ r.out = []
  enabled _ _ := True
  next r
    | .put command => { r with queue := (r.queue.putNowait command).2 }
    | .get =>
        match r.queue.getNowait with
        | some (command, queue) => ⟨queue, r.out ++ [command]⟩
        | none => r

/-- The put has to push out the oldest assignment. -/
def Evicts (r : QueueRun) : QueueOp → Prop
  | .put (.assignment a) =>
      r.queue.waiting a.trackerId = none ∧
        r.queue.assignmentCapacity ≤ r.queue.assignments.rows.length
  | _ => False

instance (r : QueueRun) (op : QueueOp) : Decidable (Evicts r op) :=
  match op with
  | .put (.assignment _) => inferInstanceAs (Decidable (_ ∧ _))
  | .put (.stop _) => inferInstanceAs (Decidable False)
  | .get => inferInstanceAs (Decidable False)

def LiveCommand.forTracker (tracker : Nat) : LiveCommand → Option IdentityAssignment
  | .assignment a => if a.trackerId = tracker then some a else none
  | .stop _ => none

def QueueOp.putFor (tracker : Nat) : QueueOp → Option IdentityAssignment
  | .put command => command.forTracker tracker
  | .get => none

/-- The assignments of a tracker that the run puts into the queue. -/
def putsFor (tracker : Nat) (ops : List QueueOp) : List IdentityAssignment :=
  ops.filterMap (QueueOp.putFor tracker)

@[simp] theorem putsFor_get (tracker : Nat) (ops : List QueueOp) :
    putsFor tracker (.get :: ops) = putsFor tracker ops := rfl

@[simp] theorem putsFor_put (tracker : Nat) (command : LiveCommand) (ops : List QueueOp) :
    putsFor tracker (.put command :: ops) =
      (command.forTracker tracker).toList ++ putsFor tracker ops := by
  cases hf : command.forTracker tracker <;> simp [putsFor, QueueOp.putFor, hf]

/-- The assignments of a tracker that have come out of the queue. -/
def QueueRun.delivered (tracker : Nat) (r : QueueRun) : List IdentityAssignment :=
  r.out.filterMap (LiveCommand.forTracker tracker)

/-- A put that finds an assignment of the same tracker waiting finds none of kind `D`. -/
def Spares (tracker : Nat) (D : IdentityAssignment → Prop) (r : QueueRun) (op : QueueOp) : Prop :=
  ∀ a, op.putFor tracker = some a → ∀ p, r.queue.waiting tracker = some p → ¬ D p

/-! ## One tracker sees a mailbox -/

section Tracker

variable {tracker : Nat}

def QueueRun.mailbox (tracker : Nat) (r : QueueRun) : Mailbox IdentityAssignment :=
  ⟨r.queue.waiting tracker, r.delivered tracker⟩

/-- What a call on the queue means to the mailbox of the tracker. -/
def letters (tracker : Nat) (r : QueueRun) : QueueOp → List (Mailbox.Op IdentityAssignment)
  | .put command =>
      match command.forTracker tracker with
      | some a => [.put a]
      | none => []
  | .get =>
      match r.queue.getNowait.bind (fun got => got.1.forTracker tracker) with
      | some _ => [.take]
      | none => []

/-- Nothing is evicted, and a waiting assignment of the tracker is older. -/
def Smooth (tracker : Nat) (r : QueueRun) (op : QueueOp) : Prop :=
  ¬ Evicts r op ∧ ∀ a, op.putFor tracker = some a →
    ∀ p, r.queue.waiting tracker = some p → p.assignmentRevision < a.assignmentRevision

section Put

variable {q : LiveCommandQueue} {a p : IdentityAssignment}

theorem putNowait_stale (hp : q.waiting a.trackerId = some p)
    (h : a.assignmentRevision ≤ p.assignmentRevision) :
    q.putNowait (.assignment a) = (false, q) := by
  have hp' : q.assignments.get a.trackerId = some p := hp
  simp [LiveCommandQueue.putNowait, hp', h]

theorem putNowait_replace (hp : q.waiting a.trackerId = some p)
    (h : p.assignmentRevision < a.assignmentRevision) :
    q.putNowait (.assignment a) = (true, { q with assignments := q.assignments.replace a }) := by
  have hp' : q.assignments.get a.trackerId = some p := hp
  simp [LiveCommandQueue.putNowait, hp', Nat.not_le.mpr h]

theorem putNowait_insert (hp : q.waiting a.trackerId = none)
    (hroom : ¬ q.assignmentCapacity ≤ q.assignments.rows.length) :
    q.putNowait (.assignment a) = (true, { q with assignments := q.assignments.insert a }) := by
  have hp' : q.assignments.get a.trackerId = none := hp
  simp [LiveCommandQueue.putNowait, hp', hroom]

/-- A put that evicts nothing leaves its own assignment waiting. -/
theorem waiting_put (hroom : ¬ (q.waiting a.trackerId = none ∧
      q.assignmentCapacity ≤ q.assignments.rows.length))
    (hnew : ∀ p, q.waiting a.trackerId = some p →
      p.assignmentRevision < a.assignmentRevision) :
    (q.putNowait (.assignment a)).2.waiting a.trackerId = some a := by
  cases hp : q.waiting a.trackerId with
  | some p =>
      rw [putNowait_replace hp (hnew p hp)]
      exact Table.get_replace_self hp
  | none =>
      rw [putNowait_insert hp fun h => hroom ⟨hp, h⟩]
      exact Table.get_insert_self hp

theorem waiting_put_of_ne (hne : a.trackerId ≠ tracker)
    (hroom : ¬ (q.waiting a.trackerId = none ∧
      q.assignmentCapacity ≤ q.assignments.rows.length)) :
    (q.putNowait (.assignment a)).2.waiting tracker = q.waiting tracker := by
  cases hp : q.waiting a.trackerId with
  | some p =>
      by_cases hle : a.assignmentRevision ≤ p.assignmentRevision
      · rw [putNowait_stale hp hle]
      · rw [putNowait_replace hp (Nat.not_le.mp hle)]
        exact Table.get_replace_of_ne hne.symm
  | none =>
      rw [putNowait_insert hp fun h => hroom ⟨hp, h⟩]
      exact Table.get_insert_of_ne hne

end Put

/-- A get hands the tracker what waited for it, or leaves it alone. -/
theorem mailbox_get (r : QueueRun) :
    (Mailbox.machine _).run (r.mailbox tracker) (letters tracker r .get) =
      (commandQueue.next r .get).mailbox tracker := by
  show _ = QueueRun.mailbox tracker (match r.queue.getNowait with
    | some (command, queue) => ⟨queue, r.out ++ [command]⟩
    | none => r)
  rw [letters]
  unfold LiveCommandQueue.getNowait
  cases hc : r.queue.controls with
  | cons command controls =>
      simp [LiveCommand.forTracker, QueueRun.mailbox, QueueRun.delivered,
        LiveCommandQueue.waiting]
  | nil =>
      cases hh : r.queue.assignments.rows.head? with
      | none => simp
      | some a =>
          by_cases ha : a.trackerId = tracker
          · subst ha
            simp [LiveCommand.forTracker, QueueRun.mailbox, QueueRun.delivered,
              LiveCommandQueue.waiting, Mailbox.kept, Table.get_head hh, Table.get_tail_head hh]
          · simp [LiveCommand.forTracker, QueueRun.mailbox, QueueRun.delivered,
              LiveCommandQueue.waiting, ha, Table.get_tail_of_ne hh ha]

theorem mailbox_put {r : QueueRun} {command : LiveCommand}
    (h : Smooth tracker r (.put command)) :
    (Mailbox.machine _).run (r.mailbox tracker) (letters tracker r (.put command)) =
      (commandQueue.next r (.put command)).mailbox tracker := by
  cases command with
  | stop command => rfl
  | assignment a =>
      obtain ⟨hroom, hnew⟩ := h
      show _ = Mailbox.mk ((r.queue.putNowait (.assignment a)).2.waiting tracker)
        (r.delivered tracker)
      by_cases ha : a.trackerId = tracker
      · subst ha
        have hfor : (LiveCommand.assignment a).forTracker a.trackerId = some a := if_pos rfl
        rw [waiting_put hroom (hnew a hfor)]
        simp [letters, hfor, QueueRun.mailbox]
      · have hfor : (LiveCommand.assignment a).forTracker tracker = none := if_neg ha
        rw [waiting_put_of_ne ha hroom]
        simp [letters, hfor, QueueRun.mailbox]

/-- Each call on the queue is the mailbox calls that `letters` lists. -/
theorem mailbox_next (r : QueueRun) (op : QueueOp) (h : Smooth tracker r op) :
    (Mailbox.machine _).run (r.mailbox tracker) (letters tracker r op) =
      (commandQueue.next r op).mailbox tracker := by
  cases op with
  | put command => exact mailbox_put h
  | get => exact mailbox_get r

theorem puts_letters (r : QueueRun) (ops : List QueueOp) :
    Mailbox.puts (commandQueue.trace (letters tracker) r ops) = putsFor tracker ops := by
  induction ops generalizing r with
  | nil => rfl
  | cons op ops ih =>
      show Mailbox.puts (letters tracker r op ++
        commandQueue.trace (letters tracker) (commandQueue.next r op) ops) = _
      cases op with
      | put command =>
          cases hf : command.forTracker tracker with
          | none => simp [letters, hf, ih]
          | some a => simp [letters, hf, ih, Mailbox.puts]
      | get =>
          cases hg : r.queue.getNowait.bind (fun got => got.1.forTracker tracker) with
          | none => simp [letters, hg, ih]
          | some a => simp [letters, hg, ih, Mailbox.puts]

/-- Growing revisions and no eviction keep every step smooth. -/
theorem smooth_of_growing {r : QueueRun} {ops : List QueueOp}
    (hroom : commandQueue.Meets (fun r op => ¬ Evicts r op) r ops)
    (hgrow : ((r.mailbox tracker).slot.toList ++ putsFor tracker ops).Pairwise
      (fun a b => a.assignmentRevision < b.assignmentRevision)) :
    commandQueue.Meets (Smooth tracker) r ops := by
  induction ops generalizing r with
  | nil => trivial
  | cons op ops ih =>
      have hop : Smooth tracker r op := by
        refine ⟨hroom.1, ?_⟩
        intro a ha p hp
        apply (List.pairwise_append.mp hgrow).2.2 p (Option.mem_toList.mpr hp) a
        simp [putsFor, ha]
      refine ⟨hop, ih hroom.2 ?_⟩
      rw [← mailbox_next r op hop]
      refine hgrow.sublist ?_
      cases op with
      | put command =>
          cases hf : command.forTracker tracker with
          | none => simp [letters, hf]
          | some a => simp [letters, hf]
      | get =>
          cases hg : r.queue.getNowait.bind (fun got => got.1.forTracker tracker) with
          | none => simp [letters, hg]
          | some a => simp [letters, hg]

theorem spares_iff (D : IdentityAssignment → Prop) (r : QueueRun) (op : QueueOp) :
    Spares tracker D r op ↔
      (Mailbox.machine _).Meets (Mailbox.Spares D) (r.mailbox tracker) (letters tracker r op) := by
  cases op with
  | put command =>
      cases hf : command.forTracker tracker with
      | none => simp [letters, Spares, QueueOp.putFor, hf]
      | some a => simp [letters, Spares, QueueOp.putFor, hf, Mailbox.Spares, QueueRun.mailbox]
  | get =>
      cases hg : r.queue.getNowait.bind (fun got => got.1.forTracker tracker) with
      | none => simp [letters, Spares, QueueOp.putFor, hg]
      | some a => simp [letters, Spares, QueueOp.putFor, hg, Mailbox.Spares]

end Tracker

/-! ## What comes out of a drained queue -/

section Drained

variable {tracker : Nat} {r : QueueRun} {ops : List QueueOp}

theorem mailbox_init (h : commandQueue.init r) : r.mailbox tracker = Mailbox.empty := by
  obtain ⟨⟨capacity, hc⟩, hout⟩ := h
  rw [LiveCommandQueue.create] at hc
  split at hc
  · cases hc
  · have hq := Except.ok.inj hc
    simp [QueueRun.mailbox, QueueRun.delivered, hout, ← hq, LiveCommandQueue.waiting,
      Table.get, Table.empty, Mailbox.empty]

theorem waiting_of_empty {q : LiveCommandQueue} (h : q.getNowait = none) :
    q.waiting tracker = none := by
  unfold LiveCommandQueue.getNowait at h
  cases hc : q.controls with
  | cons command controls => simp [hc] at h
  | nil =>
      cases hh : q.assignments.rows.head? with
      | some a => simp [hc, hh] at h
      | none =>
          have hrows : q.assignments.rows = [] := List.head?_eq_none_iff.mp hh
          simp [LiveCommandQueue.waiting, Table.get, hrows]

/-- The run takes place on a new queue, evicts nothing, puts the tracker's
assignments in the order of their revisions and ends with the queue empty. -/
structure Drains (tracker : Nat) (r : QueueRun) (ops : List QueueOp) : Prop where
  init : commandQueue.init r
  room : commandQueue.Meets (fun r op => ¬ Evicts r op) r ops
  growing : (putsFor tracker ops).Pairwise
    (fun a b => a.assignmentRevision < b.assignmentRevision)
  empty : (commandQueue.run r ops).queue.getNowait = none

/-- The delivered assignments are what the mailbox has kept at the end. -/
theorem Drains.delivered_eq (h : Drains tracker r ops) :
    (commandQueue.run r ops).delivered tracker =
      ((Mailbox.machine _).run Mailbox.empty
        (commandQueue.trace (letters tracker) r ops)).kept := by
  have hinit : r.mailbox tracker = Mailbox.empty := mailbox_init h.init
  have hsmooth : commandQueue.Meets (Smooth tracker) r ops :=
    smooth_of_growing h.room (by rw [hinit]; exact h.growing)
  have hrun := Machine.run_trace mailbox_next hsmooth
  rw [hinit] at hrun
  rw [hrun, Mailbox.kept, QueueRun.mailbox, waiting_of_empty h.empty, Option.toList_none,
    List.append_nil]

theorem Drains.delivered_sublist (h : Drains tracker r ops) :
    ((commandQueue.run r ops).delivered tracker).Sublist (putsFor tracker ops) := by
  have hsub := Mailbox.kept_sublist Mailbox.empty (commandQueue.trace (letters tracker) r ops)
  rw [puts_letters] at hsub
  rw [h.delivered_eq]
  exact hsub

/-- The newest assignment always comes out. -/
theorem Drains.getLast_delivered (h : Drains tracker r ops) {a : IdentityAssignment}
    (ha : (putsFor tracker ops).getLast? = some a) :
    a ∈ (commandQueue.run r ops).delivered tracker := by
  rw [h.delivered_eq]
  apply Mailbox.getLast_kept
  rw [puts_letters]
  exact ha

/-- No assignment of kind `D` is missing exactly if none was replaced in the queue. -/
theorem Drains.delivers_iff (h : Drains tracker r ops) (D : IdentityAssignment → Prop) :
    (∀ a ∈ putsFor tracker ops, D a → a ∈ (commandQueue.run r ops).delivered tracker) ↔
      commandQueue.Meets (Spares tracker D) r ops := by
  have hinit : r.mailbox tracker = Mailbox.empty := mailbox_init h.init
  have hsmooth : commandQueue.Meets (Smooth tracker) r ops :=
    smooth_of_growing h.room (by rw [hinit]; exact h.growing)
  have hnd : (Mailbox.empty.kept ++
      Mailbox.puts (commandQueue.trace (letters tracker) r ops)).Nodup := by
    rw [puts_letters]
    exact h.growing.imp fun hlt => fun he => by rw [he] at hlt; exact Nat.lt_irrefl _ hlt
  have hkeeps := Mailbox.keeps_iff_spares (D := D) hnd
  rw [Machine.meets_trace mailbox_next (fun r op _ => spares_iff D r op) hsmooth, hinit,
    ← hkeeps, h.delivered_eq, puts_letters]
  exact Iff.rfl

end Drained

end Mvision.Live
