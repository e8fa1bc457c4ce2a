import Mvision.Live.Lifecycle

/-!
# The rebuild budget of an outage

`rebuild_attempts_` counts the rebuilds of the whole life of a pipeline, and only
a failed rebuild is held against it.  An outage has the budget that the earlier
outages left, and rebuilds that succeed without a frame are not bounded.
-/

namespace Mvision.Live

open Mvision.Library

structure Outages where
  lifecycle : LiveLifecycle := {}
  /-- history: the rebuilds of the current outage -/
  spent : Option Nat := none
  /-- history: a rebuild action has not been answered -/
  pending : Bool := false
deriving DecidableEq

namespace Outages

variable (options : LiveLifecycleOptions)

/-- The action that a call returns. -/
def action (s : Outages) : LifecycleCall → LifecycleAction
  | .poll now => (s.lifecycle.poll options now).1
  | _ => .none

/-- An outage begins with Reconnecting and ends with Active or Failed. -/
def spentAfter (s : Outages) (state : LiveRuntimeState) (action : LifecycleAction) :
    Option Nat :=
  if state = .active ∨ state = .failed then none
  else if state = .reconnecting ∧ s.lifecycle.state ≠ .reconnecting then some 0
  else if action = .rebuildGraph then s.spent.map (· + 1)
  else s.spent

/-- The answer to a rebuild action. -/
def pendingAfter (s : Outages) : LifecycleCall → LifecycleAction → Bool
  | .onGraphRebuildResult _ _, _ => false
  | _, action => s.pending || decide (action = .rebuildGraph)

def next (s : Outages) (c : LifecycleCall) : Outages where
  lifecycle := s.lifecycle.call options c
  spent := s.spentAfter (s.lifecycle.call options c).state (s.action options c)
  pending := s.pendingAfter c (s.action options c)

end Outages

/-- Calls in which each rebuild action is answered once, and before any further frame. -/
def outages (options : LiveLifecycleOptions) : Machine Outages LifecycleCall where
  init s := s = {}
  enabled s
    | .onFrame _ => s.pending = false
    | .onGraphRebuildResult _ _ => s.pending = true
    | _ => True
  next s c := s.next options c

instance (options : LiveLifecycleOptions) (s : Outages) (c : LifecycleCall) :
    Decidable ((outages options).enabled s c) :=
  match c with
  | .onFrame _ | .onGraphRebuildResult _ _ => inferInstanceAs (Decidable (_ = _))
  | .start _ | .poll _ | .stop | .close => inferInstanceAs (Decidable True)

namespace Outages

variable (options : LiveLifecycleOptions)

/-- The current outage has spent its budget. -/
def Spent (s : Outages) : Prop :=
  ∃ k, s.spent = some k ∧ options.graphRebuildAttempts.toNat ≤ k

instance (s : Outages) : Decidable (s.Spent options) :=
  match h : s.spent with
  | none => isFalse (by rintro ⟨k, hk, -⟩; rw [h] at hk; cases hk)
  | some k =>
      if hk : options.graphRebuildAttempts.toNat ≤ k then isTrue ⟨k, h, hk⟩
      else isFalse (by rintro ⟨j, hj, hle⟩; rw [h] at hj; cases hj; exact hk hle)

/-- No recovery within the deadline, since the outage began or since the last rebuild. -/
def Overdue (s : Outages) (now : UInt64) : Prop :=
  s.lifecycle.started = true ∧ s.lifecycle.state = .reconnecting ∧
    s.lifecycle.awaitingRebuildResult = false ∧
    now - s.lifecycle.reconnectStartedNs > options.recoveryDeadlineNs

instance (s : Outages) (now : UInt64) : Decidable (s.Overdue options now) :=
  inferInstanceAs (Decidable (_ ∧ _ ∧ _ ∧ _))

/-- The last rebuild of the outage has not recovered the stream. -/
def Unrecovered (s : Outages) : LifecycleCall → Prop
  | .poll now => s.Overdue options now
  | .onGraphRebuildResult _ success => success = false
  | _ => False

/-- The call makes the lifecycle fail with an exhausted recovery. -/
def Exhausts (s : Outages) (c : LifecycleCall) : Prop :=
  exhaustedNotice ∈ (s.lifecycle.call options c).notices.drop s.lifecycle.notices.length

instance (s : Outages) (c : LifecycleCall) : Decidable (s.Exhausts options c) :=
  inferInstanceAs (Decidable (_ ∈ _))

/-- The budget is per outage: it bounds the rebuilds, and the lifecycle fails exactly when
it is spent and the stream has not recovered. -/
def PerOutage (s : Outages) (c : LifecycleCall) : Prop :=
  (s.action options c = .rebuildGraph →
      ∃ k, s.spent = some k ∧ k < options.graphRebuildAttempts.toNat) ∧
    (s.Exhausts options c ↔ s.Spent options ∧ s.Unrecovered options c)

/-- A failed rebuild of an outage that has rebuilds left finds a counter below the budget;
one of a spent outage finds the lifecycle reconnecting, and the counter not wrapped; and no
poll finds a spent outage overdue.  The counter holds what `rebuildAttempts_run` says of the
calls: the rebuilds of this outage and those that the earlier outages have used, so that an
outage with rebuilds left is fresh only while both together are below the budget. -/
def Fresh (s : Outages) : LifecycleCall → Prop
  | .poll now => s.Overdue options now → ¬ s.Spent options
  | .onGraphRebuildResult _ success => success = false →
      if s.Spent options then
        s.lifecycle.state = .reconnecting ∧ s.lifecycle.failureEmitted = false ∧
          options.graphRebuildAttempts ≤ s.lifecycle.rebuildAttempts
      else
        s.lifecycle.state = .reconnecting → s.lifecycle.failureEmitted = false →
          s.lifecycle.rebuildAttempts < options.graphRebuildAttempts
  | _ => True

instance (s : Outages) (c : LifecycleCall) : Decidable (s.Fresh options c) :=
  match c with
  | .poll _ => inferInstanceAs (Decidable (_ → ¬ _))
  | .onGraphRebuildResult _ _ =>
      inferInstanceAs (Decidable (_ → if s.Spent options then _ ∧ _ ∧ _ else _ → _ → _))
  | .start _ | .onFrame _ | .stop | .close => inferInstanceAs (Decidable True)

/-! ## One call -/

/-- A rebuild result is awaited while its action is unanswered, and reconnecting is an
outage. -/
structure Counted (s : Outages) : Prop where
  awaited : s.pending = true → s.lifecycle.awaitingRebuildResult = true
  counted : s.lifecycle.state = .reconnecting → ∃ k, s.spent = some k

theorem not_exhausts {s : Outages} {c : LifecycleCall} {told : List LifecycleNotice}
    (h : (s.lifecycle.call options c).notices = s.lifecycle.notices ++ told)
    (hn : exhaustedNotice ∉ told) : ¬ s.Exhausts options c := by
  unfold Exhausts
  rwa [h, List.drop_left]

theorem invalidTransition_notices (s : LiveLifecycle) :
    ∃ told, s.invalidTransition.notices = s.notices ++ told ∧ exhaustedNotice ∉ told := by
  cases he : s.failureEmitted with
  | true => exact ⟨[], by simp [LiveLifecycle.invalidTransition, LiveLifecycle.fail, he]⟩
  | false =>
      refine ⟨[.state .failed, invalidTransitionNotice], ?_, by decide⟩
      simp [LiveLifecycle.invalidTransition, LiveLifecycle.fail, he]

theorem stop_notices (s : LiveLifecycle) :
    ∃ told, s.stop.notices = s.notices ++ told ∧ exhaustedNotice ∉ told := by
  unfold LiveLifecycle.stop
  split_ifs
  · exact ⟨[], by simp⟩
  · exact ⟨[], by simp⟩
  · exact ⟨[.state .stopping], rfl, by decide⟩

theorem close_notices (s : LiveLifecycle) :
    ∃ told, s.close.notices = s.notices ++ told ∧ exhaustedNotice ∉ told := by
  unfold LiveLifecycle.close
  dsimp only
  split_ifs
  · exact ⟨[], by simp⟩
  · exact ⟨[.state .stopping, .state .stopped], by simp [LiveLifecycle.transition], by decide⟩
  · exact ⟨[.state .stopped], rfl, by decide⟩

/-- A counted outage that is not spent has rebuilds left. -/
theorem not_spent_iff {s : Outages} (h : ∃ k, s.spent = some k) :
    ¬ s.Spent options ↔ ∃ k, s.spent = some k ∧ k < options.graphRebuildAttempts.toNat := by
  obtain ⟨k, hk⟩ := h
  simp [Spent, hk]

theorem perOutage_poll {s : Outages} (h : Counted s) {now : UInt64} :
    s.PerOutage options (.poll now) ↔ s.Fresh options (.poll now) := by
  have hn : ¬ s.Exhausts options (.poll now) := by
    rcases s.lifecycle.poll_cases options now with hp | ⟨-, -, hp⟩ | ⟨-, -, -, hp⟩
    · exact not_exhausts options (by simp [LiveLifecycle.call, hp]) List.not_mem_nil
    · have htold : (s.lifecycle.call options (.poll now)).notices =
          s.lifecycle.notices ++ [.state .reconnecting] := by
        simp [LiveLifecycle.call, hp, LiveLifecycle.transition]
      exact not_exhausts options htold (by decide)
    · exact not_exhausts options (by simp [LiveLifecycle.call, hp]) List.not_mem_nil
  have ha : s.action options (.poll now) = .rebuildGraph ↔ s.Overdue options now :=
    s.lifecycle.poll_rebuild_iff options now
  simp only [PerOutage, Fresh, ha, hn, Unrecovered, false_iff, not_and]
  constructor
  · intro hlaw ho
    exact (not_spent_iff options (h.counted ho.2.1)).mpr (hlaw.1 ho)
  · intro hfresh
    refine ⟨fun ho => (not_spent_iff options (h.counted ho.2.1)).mp (hfresh ho), ?_⟩
    exact fun hs ho => hfresh ho hs

/-- A rebuild result exhausts the recovery when the counter of all outages says so. -/
theorem exhausts_answer_iff {s : Outages} (h : Counted s) (hp : s.pending = true) {now : UInt64}
    {success : Bool} :
    s.Exhausts options (.onGraphRebuildResult now success) ↔
      success = false ∧ s.lifecycle.state = .reconnecting ∧
        s.lifecycle.failureEmitted = false ∧
        options.graphRebuildAttempts ≤ s.lifecycle.rebuildAttempts := by
  by_cases hst : s.lifecycle.state = .reconnecting
  · rcases LiveLifecycle.onGraphRebuildResult_cases hst (h.awaited hp) options now success with
      ⟨hgo, hr⟩ | ⟨hf, hle, hem, hr⟩ | ⟨hf, hle, hem, hr⟩
    · have htold : (s.lifecycle.call options (.onGraphRebuildResult now success)).notices =
          s.lifecycle.notices ++ [] := by simp [LiveLifecycle.call, hr]
      refine iff_of_false (not_exhausts options htold List.not_mem_nil) ?_
      rintro ⟨hs, -, -, hle⟩
      rcases hgo with hgo | hlt
      · rw [hs] at hgo
        cases hgo
      · exact UInt32.not_lt.mpr hle hlt
    · have htold : (s.lifecycle.call options (.onGraphRebuildResult now success)).notices =
          s.lifecycle.notices ++ [] := by simp [LiveLifecycle.call, hr]
      refine iff_of_false (not_exhausts options htold List.not_mem_nil) ?_
      rintro ⟨-, -, hem', -⟩
      rw [hem] at hem'
      cases hem'
    · refine iff_of_true ?_ ⟨hf, hst, hem, hle⟩
      simp [Exhausts, LiveLifecycle.call, hr]
  · obtain ⟨told, htold, hn⟩ := invalidTransition_notices s.lifecycle
    have hcall : s.lifecycle.call options (.onGraphRebuildResult now success) =
        s.lifecycle.invalidTransition := by
      simp [LiveLifecycle.call, LiveLifecycle.onGraphRebuildResult, hst]
    refine iff_of_false (not_exhausts options (by rw [hcall, htold]) hn) ?_
    rintro ⟨-, hst', -⟩
    exact hst hst'

theorem perOutage_answer {s : Outages} (h : Counted s) (hp : s.pending = true) {now : UInt64}
    {success : Bool} :
    s.PerOutage options (.onGraphRebuildResult now success) ↔
      s.Fresh options (.onGraphRebuildResult now success) := by
  simp only [PerOutage, action, reduceCtorEq, false_imp_iff, true_and,
    exhausts_answer_iff options h hp, Unrecovered, Fresh]
  by_cases hs : s.Spent options
  · simp only [hs, true_and, if_true]
    exact ⟨fun h hf => (h.mpr hf).2, fun h => ⟨fun hx => hx.1, fun hf => ⟨hf, h hf⟩⟩⟩
  · simp only [hs, false_and, if_false, iff_false, not_and, UInt32.not_le]

/-- No other call has to do with the budget. -/
theorem perOutage_other {s : Outages} {c : LifecycleCall}
    (hc : ∀ now, c ≠ .poll now) (hc' : ∀ now success, c ≠ .onGraphRebuildResult now success) :
    s.PerOutage options c := by
  have hn : ¬ s.Exhausts options c := by
    cases c with
    | start now =>
        cases hs : s.lifecycle.started with
        | true =>
            obtain ⟨told, htold, hn⟩ := invalidTransition_notices s.lifecycle
            refine not_exhausts options ?_ hn
            simp [LiveLifecycle.call, LiveLifecycle.start, hs, htold]
        | false =>
            have htold : (s.lifecycle.call options (.start now)).notices =
                s.lifecycle.notices ++ [.state .starting] := by
              simp [LiveLifecycle.call, LiveLifecycle.start, hs, LiveLifecycle.transition]
            exact not_exhausts options htold (by decide)
    | onFrame now =>
        cases hs : s.lifecycle.started with
        | false =>
            obtain ⟨told, htold, hn⟩ := invalidTransition_notices s.lifecycle
            refine not_exhausts options ?_ hn
            simp [LiveLifecycle.call, LiveLifecycle.onFrame, hs, htold]
        | true =>
            rcases LiveLifecycle.onFrame_cases hs now with
              ⟨-, hf⟩ | ⟨-, hf⟩ | ⟨-, hf⟩ | ⟨-, hf⟩
            · have htold : (s.lifecycle.call options (.onFrame now)).notices =
                  s.lifecycle.notices ++ [.state .active] := by
                simp [LiveLifecycle.call, hf, LiveLifecycle.transition]
              exact not_exhausts options htold (by decide)
            · have htold : (s.lifecycle.call options (.onFrame now)).notices =
                  s.lifecycle.notices ++ [] := by simp [LiveLifecycle.call, hf]
              exact not_exhausts options htold List.not_mem_nil
            · obtain ⟨told, htold, hn⟩ := invalidTransition_notices s.lifecycle
              refine not_exhausts options ?_ hn
              simp [LiveLifecycle.call, hf, htold]
            · have htold : (s.lifecycle.call options (.onFrame now)).notices =
                  s.lifecycle.notices ++ [] := by simp [LiveLifecycle.call, hf]
              exact not_exhausts options htold List.not_mem_nil
    | poll now => exact absurd rfl (hc now)
    | onGraphRebuildResult now success => exact absurd rfl (hc' now success)
    | stop =>
        obtain ⟨told, htold, hn⟩ := stop_notices s.lifecycle
        exact not_exhausts options htold hn
    | close =>
        obtain ⟨told, htold, hn⟩ := close_notices s.lifecycle
        exact not_exhausts options htold hn
  cases c with
  | poll now => exact absurd rfl (hc now)
  | onGraphRebuildResult now success => exact absurd rfl (hc' now success)
  | start _ | onFrame _ | stop | close =>
      simp [PerOutage, action, hn, Unrecovered]

theorem perOutage_iff {s : Outages} {c : LifecycleCall} (he : (outages options).enabled s c)
    (h : Counted s) : s.PerOutage options c ↔ s.Fresh options c := by
  cases c with
  | poll now => exact perOutage_poll options h
  | onGraphRebuildResult now success => exact perOutage_answer options h he
  | start _ | onFrame _ | stop | close =>
      exact iff_of_true (perOutage_other options nofun nofun) trivial

@[simp] theorem fail_awaiting (s : LiveLifecycle) (notice : LifecycleNotice) :
    (s.fail notice).awaitingRebuildResult = s.awaitingRebuildResult := by
  unfold LiveLifecycle.fail
  split <;> rfl

theorem awaited_next {s : Outages} {c : LifecycleCall} (he : (outages options).enabled s c)
    (h : s.pending = true → s.lifecycle.awaitingRebuildResult = true) :
    (s.next options c).pending = true →
      (s.next options c).lifecycle.awaitingRebuildResult = true := by
  cases c with
  | start now =>
      intro hp
      have hp : s.pending = true := by simpa [next, pendingAfter, action] using hp
      simp only [next, LiveLifecycle.call, LiveLifecycle.start]
      split
      · simpa [LiveLifecycle.invalidTransition] using h hp
      · exact h hp
  | onFrame now =>
      intro hp
      have he : s.pending = false := he
      simp [next, pendingAfter, action, he] at hp
  | poll now =>
      intro hp
      simp only [next, pendingAfter, Bool.or_eq_true, decide_eq_true_eq] at hp
      have hp : s.pending = true ∨ (s.lifecycle.poll options now).1 = .rebuildGraph := hp
      simp only [next, LiveLifecycle.call]
      rcases s.lifecycle.poll_cases options now with hr | ⟨-, -, hr⟩ | ⟨-, -, -, hr⟩
      · rw [hr] at hp ⊢
        exact h (hp.resolve_right (by simp))
      · rw [hr] at hp ⊢
        exact h (hp.resolve_right (by simp))
      · rw [hr]
  | onGraphRebuildResult now success =>
      intro hp
      cases hp
  | stop =>
      intro hp
      have hp : s.pending = true := by simpa [next, pendingAfter, action] using hp
      simp only [next, LiveLifecycle.call, LiveLifecycle.stop]
      split_ifs <;> exact h hp
  | close =>
      intro hp
      have hp : s.pending = true := by simpa [next, pendingAfter, action] using hp
      simp only [next, LiveLifecycle.call, LiveLifecycle.close]
      split_ifs <;> exact h hp

theorem counted_step : (outages options).Preserved Counted := by
  intro s c he h
  refine ⟨awaited_next options he h.awaited, fun hst => ?_⟩
  have hst : (s.lifecycle.call options c).state = .reconnecting := hst
  show ∃ k, s.spentAfter (s.lifecycle.call options c).state (s.action options c) = some k
  rw [hst]
  by_cases hs : s.lifecycle.state = .reconnecting
  · obtain ⟨k, hk⟩ := h.counted hs
    by_cases ha : s.action options c = .rebuildGraph <;> simp [spentAfter, hs, hk, ha]
  · exact ⟨0, by simp [spentAfter, hs]⟩

/-! ## The counter -/

/-- The rebuilds that some calls ask for. -/
def rebuilds (s : Outages) : List LifecycleCall → Nat
  | [] => 0
  | c :: calls =>
      (decide (s.action options c = .rebuildGraph)).toNat + rebuilds (s.next options c) calls

@[simp] theorem fail_rebuildAttempts (s : LiveLifecycle) (notice : LifecycleNotice) :
    (s.fail notice).rebuildAttempts = s.rebuildAttempts := by
  unfold LiveLifecycle.fail
  split <;> rfl

/-- Only a poll that asks for a rebuild counts. -/
theorem rebuildAttempts_next (s : Outages) (c : LifecycleCall) :
    (s.next options c).lifecycle.rebuildAttempts =
      s.lifecycle.rebuildAttempts +
        UInt32.ofNat (decide (s.action options c = .rebuildGraph)).toNat := by
  cases c with
  | poll now =>
      show (s.lifecycle.poll options now).2.rebuildAttempts = _ + UInt32.ofNat
        (decide ((s.lifecycle.poll options now).1 = .rebuildGraph)).toNat
      rcases s.lifecycle.poll_cases options now with hp | ⟨-, -, hp⟩ | ⟨-, -, -, hp⟩
      · rw [hp]
        exact (UInt32.add_zero _).symm
      · rw [hp]
        exact (UInt32.add_zero _).symm
      · rw [hp]
        rfl
  | start now =>
      refine Eq.trans ?_ (UInt32.add_zero _).symm
      show (s.lifecycle.start now).rebuildAttempts = _
      unfold LiveLifecycle.start LiveLifecycle.invalidTransition
      split
      · exact fail_rebuildAttempts _ _
      · rfl
  | onFrame now =>
      refine Eq.trans ?_ (UInt32.add_zero _).symm
      show (s.lifecycle.onFrame now).rebuildAttempts = _
      unfold LiveLifecycle.onFrame LiveLifecycle.invalidTransition
      split_ifs
      · exact fail_rebuildAttempts _ _
      · rfl
      · rfl
      · exact fail_rebuildAttempts _ _
      · rfl
  | onGraphRebuildResult now success =>
      refine Eq.trans ?_ (UInt32.add_zero _).symm
      show (s.lifecycle.onGraphRebuildResult options now success).rebuildAttempts = _
      unfold LiveLifecycle.onGraphRebuildResult LiveLifecycle.invalidTransition
      dsimp only
      split_ifs
      · exact fail_rebuildAttempts _ _
      · rfl
      · exact fail_rebuildAttempts _ _
      · rfl
  | stop =>
      refine Eq.trans ?_ (UInt32.add_zero _).symm
      show s.lifecycle.stop.rebuildAttempts = _
      unfold LiveLifecycle.stop
      split_ifs <;> rfl
  | close =>
      refine Eq.trans ?_ (UInt32.add_zero _).symm
      show s.lifecycle.close.rebuildAttempts = _
      unfold LiveLifecycle.close
      dsimp only
      split_ifs <;> rfl

/-- The counter is the number of the rebuilds that all calls asked for, of whatever outage. -/
theorem rebuildAttempts_run (s : Outages) (calls : List LifecycleCall) :
    ((outages options).run s calls).lifecycle.rebuildAttempts =
      s.lifecycle.rebuildAttempts + UInt32.ofNat (s.rebuilds options calls) := by
  induction calls generalizing s with
  | nil => exact (UInt32.add_zero _).symm
  | cons c calls ih =>
      rw [Machine.run_cons]
      show ((outages options).run (s.next options c) calls).lifecycle.rebuildAttempts = _
      rw [ih, rebuildAttempts_next, rebuilds, UInt32.ofNat_add, UInt32.add_assoc]

end Outages

/-- The rebuild budget is kept for each outage exactly if every failed rebuild finds the
counter fresh and no spent outage is overdue. -/
theorem budget_perOutage_iff (options : LiveLifecycleOptions) (calls : List LifecycleCall)
    (hv : (outages options).Valid {} calls) :
    (outages options).Meets (Outages.PerOutage options) {} calls ↔
      (outages options).Meets (Outages.Fresh options) {} calls := by
  have hcounted := (Outages.counted_step options).always hv ⟨nofun, nofun⟩
  constructor
  · intro hm
    refine (Machine.meets_and.mpr ⟨hv, hm⟩).of_always hcounted ?_
    exact fun s c hs h => (Outages.perOutage_iff options h.1 hs).mp h.2
  · intro hm
    refine (Machine.meets_and.mpr ⟨hv, hm⟩).of_always hcounted ?_
    exact fun s c hs h => (Outages.perOutage_iff options h.1 hs).mpr h.2

theorem twoAttempts_pos : (0 : UInt32) < 2 := by decide

/-- Two rebuilds for each outage, a frame within 100 ns, recovery within 200 ns. -/
def outageOptions : LiveLifecycleOptions :=
  ⟨100, 200, 2, shortTimeout_pos, shortDeadline_pos, twoAttempts_pos⟩

/-- An outage with one failed rebuild, and recovery by the second. -/
def oneOutage : List LifecycleCall :=
  [.start 0, .poll 101, .poll 302, .onGraphRebuildResult 310 false, .poll 511,
    .onGraphRebuildResult 520 true, .onFrame 530]

theorem budget_perOutage_recovered :
    (outages outageOptions).Meets (Outages.PerOutage outageOptions) {} oneOutage :=
  (budget_perOutage_iff outageOptions oneOutage (by decide)).mpr (by decide)

/-- A second outage: its first rebuild fails. -/
def twoOutages : List LifecycleCall :=
  oneOutage ++ [.poll 631, .poll 832, .onGraphRebuildResult 840 false]

theorem budget_not_perOutage :
    ¬ ∀ calls, (outages outageOptions).Valid {} calls →
      (outages outageOptions).Meets (Outages.PerOutage outageOptions) {} calls := by
  intro h
  have hlaw := h twoOutages (by decide)
  rw [twoOutages, Machine.meets_append] at hlaw
  have hlast := hlaw.2.2.2.1.2
  have hspent := (hlast.mp (by decide)).1
  revert hspent
  decide

end Mvision.Live
