import Mathlib.Data.List.Induction
import Mvision.Live.Lifecycle

/-!
# A requested stop

`stop` moves the lifecycle to Stopping and `close` from there to Stopped.  In
between, a frame or a rebuild result that is still on its way counts as an
invalid transition, and the stop ends in Failed.
-/

namespace Mvision.Live

open Mvision.Library

def LiveRuntimeState.isTerminal : LiveRuntimeState → Bool
  | .stopped | .failed => true
  | _ => false

namespace LiveLifecycle

variable (options : LiveLifecycleOptions) {s : LiveLifecycle}

/-- The call is no second start, no frame and no rebuild result that finds the started
lifecycle stopping, and no second start and no rebuild result that finds it stopped.  A
lifecycle that failed before its start takes them all. -/
def Undisturbed (s : LiveLifecycle) : LifecycleCall → Prop
  | .start _ | .onGraphRebuildResult _ _ =>
      s.started = true → s.failureEmitted = false → s.state ≠ .stopping ∧ s.state ≠ .stopped
  | .onFrame _ => s.started = true → s.failureEmitted = false → s.state ≠ .stopping
  | _ => True

instance (s : LiveLifecycle) (c : LifecycleCall) : Decidable (s.Undisturbed c) :=
  match c with
  | .start _ | .onGraphRebuildResult _ _ => inferInstanceAs (Decidable (_ → _ → _ ∧ _))
  | .onFrame _ => inferInstanceAs (Decidable (_ → _ → _ ≠ _))
  | .poll _ | .stop | .close => inferInstanceAs (Decidable True)

/-! ## One call -/

@[simp] theorem fail_started (notice : LifecycleNotice) : (s.fail notice).started = s.started := by
  unfold fail
  split <;> rfl

theorem fail_state (s : LiveLifecycle) (notice : LifecycleNotice) :
    (s.fail notice).state = s.state ∨ (s.fail notice).state = .failed := by
  unfold fail
  split
  · exact .inl rfl
  · exact .inr rfl

/-- A failed lifecycle has told so. -/
def Told (s : LiveLifecycle) : Prop := s.state = .failed → s.failureEmitted = true

theorem told_fail (h : s.Told) (notice : LifecycleNotice) : (s.fail notice).Told := by
  unfold fail
  split
  · exact h
  · exact fun _ => rfl

theorem told_transition {next : LiveRuntimeState} (h : next ≠ .failed) :
    (s.transition next).Told :=
  fun ht => absurd ht h

theorem told_call (c : LifecycleCall) (h : s.Told) : (s.call options c).Told := by
  cases c with
  | start now =>
      simp only [call, start]
      split
      · exact told_fail h _
      · exact told_transition (by decide)
  | onFrame now =>
      simp only [call, onFrame]
      split_ifs
      · exact told_fail h _
      · exact told_transition (by decide)
      · exact h
      · exact told_fail h _
      · exact h
  | poll now =>
      simp only [call, poll]
      split_ifs
      · exact h
      · exact told_transition (by decide)
      · exact h
      · exact h
  | onGraphRebuildResult now success =>
      simp only [call, onGraphRebuildResult]
      have ha : { s with awaitingRebuildResult := false }.Told := h
      split_ifs
      · exact told_fail h _
      · exact h
      · exact told_fail ha _
      · exact h
  | stop =>
      simp only [call, stop]
      split_ifs
      · exact h
      · exact h
      · exact told_transition (by decide)
  | close =>
      simp only [call, close]
      split
      · exact h
      · exact told_transition (by decide)

/-- A call that would fail a stopped or failed lifecycle finds it told. -/
theorem emitted_of_terminal (hst : s.state = .stopped ∨ s.state = .failed) (hf : s.Told)
    (hq : s.failureEmitted = false → s.state ≠ .stopped) : s.failureEmitted = true := by
  rcases hst with hst | hst
  · by_contra he
    exact hq (by simpa using he) hst
  · exact hf hst

/-- An undisturbed lifecycle does not move once it is stopped or has failed. -/
theorem call_terminal (hs : s.started = true) (ht : s.state.isTerminal = true) (hf : s.Told)
    {c : LifecycleCall} (hc : s.Undisturbed c) : s.call options c = s := by
  have hst : s.state = .stopped ∨ s.state = .failed := by
    cases hstate : s.state <;> simp_all [LiveRuntimeState.isTerminal]
  cases c with
  | start now =>
      have he := emitted_of_terminal hst hf fun he => (hc hs he).2
      simp only [call, start, hs, if_true]
      exact fail_of_emitted he _
  | onFrame now =>
      rcases hst with hst | hst <;> simp [call, onFrame, hs, hst]
  | poll now =>
      rcases hst with hst | hst <;> simp [call, poll, hst]
  | onGraphRebuildResult now success =>
      have he := emitted_of_terminal hst hf fun he => (hc hs he).2
      have hne : s.state ≠ .reconnecting := by rcases hst with hst | hst <;> simp [hst]
      simp only [call, onGraphRebuildResult, hne, ne_eq, not_false_eq_true, true_or, if_true]
      exact fail_of_emitted he _
  | stop => rcases hst with hst | hst <;> simp [call, stop, hst]
  | close => rcases hst with hst | hst <;> simp [call, close, hst]

/-- While it stops, an undisturbed lifecycle waits for `close`. -/
theorem call_stopping (hs : s.started = true) (hst : s.state = .stopping)
    {c : LifecycleCall} (hc : s.Undisturbed c) :
    (s.call options c).started = true ∧
      (s.call options c).state = if c = .close then .stopped else .stopping := by
  have hemit : (s.failureEmitted = false → s.state ≠ .stopping) → s.failureEmitted = true := by
    intro h
    by_contra he
    exact h (by simpa using he) hst
  cases c with
  | start now =>
      have he := hemit fun he => (hc hs he).1
      simp [call, start, hs, invalidTransition, fail_of_emitted he, hst]
  | onFrame now =>
      have he := hemit fun he => hc hs he
      simp [call, onFrame, hs, hst, invalidTransition, fail_of_emitted he]
  | poll now => simp [call, poll, hs, hst]
  | onGraphRebuildResult now success =>
      have he := hemit fun he => (hc hs he).1
      simp [call, onGraphRebuildResult, hs, hst, invalidTransition, fail_of_emitted he]
  | stop => simp [call, stop, hs, hst]
  | close => simp [call, close, hs, hst, transition]

/-- A disturbance fails the lifecycle that is stopping or stopped. -/
theorem call_disturbed {c : LifecycleCall} (hc : ¬ s.Undisturbed c) :
    s.started = true ∧ (s.state = .stopping ∨ s.state = .stopped) ∧
      (s.call options c).state = .failed := by
  cases c with
  | start now =>
      simp only [Undisturbed, Classical.not_imp, not_and_or, not_ne_iff] at hc
      obtain ⟨hs, he, hst⟩ := hc
      refine ⟨hs, hst, ?_⟩
      simp [call, start, hs, invalidTransition, fail_of_not_emitted he]
  | onFrame now =>
      simp only [Undisturbed, Classical.not_imp, not_ne_iff] at hc
      obtain ⟨hs, he, hst⟩ := hc
      refine ⟨hs, .inl hst, ?_⟩
      simp [call, onFrame, hs, hst, invalidTransition, fail_of_not_emitted he]
  | poll now => exact absurd trivial hc
  | onGraphRebuildResult now success =>
      simp only [Undisturbed, Classical.not_imp, not_and_or, not_ne_iff] at hc
      obtain ⟨hs, he, hst⟩ := hc
      refine ⟨hs, hst, ?_⟩
      have hne : s.state ≠ .reconnecting := by rcases hst with hst | hst <;> simp [hst]
      simp [call, onGraphRebuildResult, hne, invalidTransition, fail_of_not_emitted he]
  | stop => exact absurd trivial hc
  | close => exact absurd trivial hc

/-- Only `stop` begins to stop, and only a started lifecycle that has not ended. -/
theorem call_enters_stopping {c : LifecycleCall} (h : (s.call options c).state = .stopping) :
    s.state = .stopping ∨
      c = .stop ∧ s.started = true ∧ s.state.isTerminal = false := by
  have hfail : ∀ {t : LiveLifecycle} {notice : LifecycleNotice}, t.state = s.state →
      (t.fail notice).state = .stopping → s.state = .stopping := by
    intro t notice ht hn
    rcases fail_state t notice with hk | hk
    · rw [← ht, ← hk, hn]
    · rw [hk] at hn
      cases hn
  cases c with
  | start now =>
      left
      simp only [call, start] at h
      split at h
      · exact hfail rfl h
      · cases h
  | onFrame now =>
      left
      simp only [call, onFrame] at h
      split_ifs at h
      · exact hfail rfl h
      · cases h
      · exact h
      · exact hfail rfl h
      · exact h
  | poll now =>
      left
      simp only [call, poll] at h
      split_ifs at h
      · exact h
      · cases h
      · exact h
      · exact h
  | onGraphRebuildResult now success =>
      left
      simp only [call, onGraphRebuildResult] at h
      split_ifs at h
      · exact hfail rfl h
      · exact h
      · exact hfail (t := { s with awaitingRebuildResult := false }) rfl h
      · exact h
  | stop =>
      cases hst : s.state with
      | stopping => exact .inl rfl
      | stopped => simp [call, stop, hst] at h
      | failed => simp [call, stop, hst] at h
      | starting | active | reconnecting =>
          cases hs : s.started with
          | false => simp [call, stop, hst, hs] at h
          | true => exact .inr ⟨rfl, rfl, rfl⟩
  | close =>
      left
      simp only [call, close] at h
      split at h
      · exact h
      · cases h

end LiveLifecycle

/-! ## Runs -/

open LiveLifecycle

variable (options : LiveLifecycleOptions)

/-- A stop that a live pipeline is asked for never fails it, and the next `close`
completes it. -/
def StopHonored (calls : List LifecycleCall) : Prop :=
  ∀ pre post, calls = pre ++ .stop :: post →
    let s := (lifecycle options).run {} pre
    s.started = true → s.state.isTerminal = false →
      (lifecycle options).Always (fun t => t.state ≠ .failed) s.stop post ∧
      ∀ mid rest, post = mid ++ .close :: rest → LifecycleCall.close ∉ mid →
        ((lifecycle options).run s.stop (mid ++ [.close])).state = .stopped

/-- Once the started lifecycle is stopped or has failed, its state stays and the sinks are
not called again. -/
def EndsOnce (calls : List LifecycleCall) : Prop :=
  (lifecycle options).Absorbing
    (fun s => s.started = true ∧ s.state.isTerminal = true)
    (fun s => (s.started, s.state, s.notices)) {} calls

theorem lifecycle_valid (s : LiveLifecycle) (calls : List LifecycleCall) :
    (lifecycle options).Valid s calls := by
  induction calls generalizing s with
  | nil => trivial
  | cons c calls ih => exact ⟨trivial, ih _⟩

theorem told_always (calls : List LifecycleCall) :
    (lifecycle options).Always Told {} calls := by
  have hkept : (lifecycle options).Preserved Told := fun s c _ h => told_call options c h
  exact hkept.always (lifecycle_valid options _ _) fun h => by cases h

/-- A lifecycle that is stopping has been asked to. -/
theorem stopping_asked (calls : List LifecycleCall)
    (h : ((lifecycle options).run {} calls).state = .stopping) :
    ∃ pre post, calls = pre ++ .stop :: post ∧
      ((lifecycle options).run {} pre).started = true ∧
      ((lifecycle options).run {} pre).state.isTerminal = false := by
  induction calls using List.reverseRecOn with
  | nil => cases h
  | append_singleton calls c ih =>
      rw [Machine.run_append] at h
      rcases call_enters_stopping options h with hst | ⟨rfl, hs, ht⟩
      · obtain ⟨pre, post, rfl, hs, ht⟩ := ih hst
        exact ⟨pre, post ++ [c], by simp, hs, ht⟩
      · exact ⟨calls, [], rfl, hs, ht⟩

/-- After a stop that finds a live pipeline, the lifecycle is stopping. -/
theorem stop_stopping {s : LiveLifecycle} (hs : s.started = true)
    (ht : s.state.isTerminal = false) : s.stop.started = true ∧ s.stop.state = .stopping := by
  cases hst : s.state <;> simp_all [LiveLifecycle.stop, transition, LiveRuntimeState.isTerminal]

/-- Nothing but `close` moves an undisturbed lifecycle that is stopping. -/
theorem stopping_run {s : LiveLifecycle} {mid : List LifecycleCall} (hs : s.started = true)
    (hst : s.state = .stopping) (hm : (lifecycle options).Meets Undisturbed s mid)
    (hclose : LifecycleCall.close ∉ mid) :
    ((lifecycle options).run s mid).started = true ∧
      ((lifecycle options).run s mid).state = .stopping := by
  induction mid generalizing s with
  | nil => exact ⟨hs, hst⟩
  | cons c mid ih =>
      rw [List.mem_cons, not_or] at hclose
      have hnext := call_stopping options hs hst hm.1
      rw [if_neg (Ne.symm hclose.1)] at hnext
      exact ih hnext.1 hnext.2 hm.2 hclose.2

theorem stopping_never_fails {s : LiveLifecycle} {calls : List LifecycleCall}
    (hs : s.started = true) (hst : s.state = .stopping) (hf : s.Told)
    (hm : (lifecycle options).Meets Undisturbed s calls) :
    (lifecycle options).Always (fun t => t.state ≠ .failed) s calls := by
  have hkept : (lifecycle options).PreservedUnder Undisturbed fun t =>
      t.started = true ∧ t.Told ∧ (t.state = .stopping ∨ t.state = .stopped) := by
    rintro t c - hc ⟨hs, hf, hst | hst⟩
    · have hnext := call_stopping options hs hst hc
      refine ⟨hnext.1, told_call options c hf, ?_⟩
      show (t.call options c).state = .stopping ∨ (t.call options c).state = .stopped
      rw [hnext.2]
      split
      · exact .inr rfl
      · exact .inl rfl
    · have hnext : t.call options c = t :=
        call_terminal options hs (by simp [hst, LiveRuntimeState.isTerminal]) hf hc
      show (t.call options c).started = true ∧ (t.call options c).Told ∧ _
      rw [show (lifecycle options).next t c = t from hnext, hnext]
      exact ⟨hs, hf, .inr hst⟩
  have hall := hkept.always (lifecycle_valid options _ _) hm ⟨hs, hf, .inl hst⟩
  refine hall.imp fun t ht => ?_
  rcases ht.2.2 with h | h <;> simp [h]

/-- A run that is disturbed after a stop or after its end breaks one of the two laws. -/
theorem undisturbed_of_honored {calls : List LifecycleCall} (hstop : StopHonored options calls)
    (hend : EndsOnce options calls) : (lifecycle options).Meets Undisturbed {} calls := by
  rw [Machine.meets_iff_split]
  rintro pre c post rfl
  by_contra hc
  obtain ⟨hs, hst | hst, hfailed⟩ := call_disturbed options hc
  · -- the stop that was asked for has failed
    obtain ⟨before, mid, rfl, hs', ht'⟩ := stopping_asked options pre hst
    have hsplit : before ++ .stop :: mid ++ c :: post = before ++ .stop :: (mid ++ c :: post) := by
      rw [List.append_assoc, List.cons_append]
    have hall := (hstop before _ hsplit hs' ht').1
    have hlast := (Machine.always_append hall).2.head
    apply hlast
    rw [Machine.run_append] at hfailed
    exact hfailed
  · -- the end was not the last
    have ht : ((lifecycle options).run {} pre).state.isTerminal = true := by
      rw [hst]
      rfl
    have hall := hend pre (c :: post) rfl ⟨hs, ht⟩
    have hsame := congrArg (fun v => v.2.1) hall.2.head
    have hsame : (((lifecycle options).run {} pre).call options c).state = .stopped :=
      hsame.trans hst
    rw [hfailed] at hsame
    cases hsame

theorem honored_of_undisturbed {calls : List LifecycleCall}
    (hm : (lifecycle options).Meets Undisturbed {} calls) : StopHonored options calls := by
  rintro pre post rfl s hs ht
  have htold : s.Told := (told_always options pre).last
  have hrest := (Machine.meets_append.mp hm).2.2
  obtain ⟨hs', hst'⟩ := stop_stopping hs ht
  have htold' := told_call options .stop htold
  refine ⟨stopping_never_fails options hs' hst' htold' hrest, ?_⟩
  rintro mid rest rfl hclose
  obtain ⟨hmid, hlast, -⟩ := Machine.meets_append.mp hrest
  obtain ⟨hs'', hst''⟩ := stopping_run options hs' hst' hmid hclose
  rw [Machine.run_append]
  exact (call_stopping options hs'' hst'' hlast).2

theorem endsOnce_of_undisturbed {calls : List LifecycleCall}
    (hm : (lifecycle options).Meets Undisturbed {} calls) : EndsOnce options calls := by
  apply (Machine.absorbing_iff_meets _).mpr
  · refine hm.of_always (told_always options calls) fun s c htold hc ht => ?_
    have hsame : s.call options c = s := call_terminal options ht.1 ht.2 htold hc
    show ((s.call options c).started, (s.call options c).state, (s.call options c).notices) = _
    rw [hsame]
  · intro s t hv ht
    simp only [Prod.mk.injEq] at hv
    rwa [hv.1, hv.2.1]

/-- A requested stop ends in Stopped, and nothing follows an end, exactly if no call
disturbs the lifecycle after the stop. -/
theorem stop_honored_iff (calls : List LifecycleCall) :
    StopHonored options calls ∧ EndsOnce options calls ↔
      (lifecycle options).Meets Undisturbed {} calls := by
  constructor
  · rintro ⟨hstop, hend⟩
    exact undisturbed_of_honored options hstop hend
  · intro hm
    exact ⟨honored_of_undisturbed options hm, endsOnce_of_undisturbed options hm⟩

theorem oneAttempt_pos : (0 : UInt32) < 1 := by decide

/-- One rebuild, a frame within 100 ns, recovery within 200 ns. -/
def sampleOptions : LiveLifecycleOptions :=
  ⟨100, 200, 1, shortTimeout_pos, shortDeadline_pos, oneAttempt_pos⟩

/-- A frame that is on its way when the stop is asked for. -/
def lateFrame : List LifecycleCall := [.start 0, .onFrame 10, .stop, .onFrame 20, .close]

theorem stop_fails : ¬ StopHonored sampleOptions lateFrame := by
  intro h
  have hend := (h [.start 0, .onFrame 10] [.onFrame 20, .close] rfl rfl rfl).2 [.onFrame 20] [] rfl
    (by decide)
  revert hend
  decide

end Mvision.Live
