import Mathlib.Data.List.Basic
import Mathlib.Tactic.Common

/-!
# Machines, runs and invariants

A machine is a state space with guarded, labelled steps.  The label carries
every choice the environment makes, so that `next` is a function and a run is
just the list of its labels.  `Meets C` says that every step of a run
satisfies a condition on the state before it; `Always P` says that every state
of a run satisfies `P`.  The rules at the end reduce both to one step.
-/

namespace Mvision.Library

/-- Guarded steps over `σ`, labelled by `α`. -/
structure Machine (σ : Type*) (α : Type*) where
  init : σ → Prop
  enabled : σ → α → Prop
  next : σ → α → σ

namespace Machine

variable {σ α : Type*} (M : Machine σ α)

/-- The state a list of labels leads to. -/
def run (s : σ) : List α → σ
  | [] => s
  | a :: as => run (M.next s a) as

/-- Every step of the run satisfies `C` in the state before it. -/
def Meets (C : σ → α → Prop) (s : σ) : List α → Prop
  | [] => True
  | a :: as => C s a ∧ Meets C (M.next s a) as

/-- Every state of the run, the first included, satisfies `P`. -/
def Always (P : σ → Prop) (s : σ) : List α → Prop
  | [] => P s
  | a :: as => P s ∧ Always P (M.next s a) as

/-- The run takes enabled steps only. -/
def Valid (s : σ) (as : List α) : Prop := M.Meets M.enabled s as

instance decidableMeets (C : σ → α → Prop) [∀ s a, Decidable (C s a)] :
    ∀ (s : σ) (as : List α), Decidable (M.Meets C s as)
  | _, [] => isTrue trivial
  | s, a :: as => @instDecidableAnd _ _ _ (decidableMeets C (M.next s a) as)

instance [∀ s a, Decidable (M.enabled s a)] (s : σ) (as : List α) :
    Decidable (M.Valid s as) :=
  inferInstanceAs (Decidable (M.Meets M.enabled s as))

/-- The states some valid run from an initial state leads to. -/
def Reachable (s : σ) : Prop :=
  ∃ s₀ as, M.init s₀ ∧ M.Valid s₀ as ∧ M.run s₀ as = s

variable {M}

@[simp] theorem run_nil (s : σ) : M.run s [] = s := rfl

@[simp] theorem run_cons (s : σ) (a : α) (as : List α) :
    M.run s (a :: as) = M.run (M.next s a) as := rfl

@[simp] theorem meets_nil (C : σ → α → Prop) (s : σ) : M.Meets C s [] := trivial

@[simp] theorem meets_cons {C : σ → α → Prop} {s : σ} {a : α} {as : List α} :
    M.Meets C s (a :: as) ↔ C s a ∧ M.Meets C (M.next s a) as := Iff.rfl

@[simp] theorem always_nil {P : σ → Prop} {s : σ} : M.Always P s [] ↔ P s := Iff.rfl

@[simp] theorem always_cons {P : σ → Prop} {s : σ} {a : α} {as : List α} :
    M.Always P s (a :: as) ↔ P s ∧ M.Always P (M.next s a) as := Iff.rfl

@[simp] theorem valid_nil (s : σ) : M.Valid s [] := trivial

@[simp] theorem valid_cons {s : σ} {a : α} {as : List α} :
    M.Valid s (a :: as) ↔ M.enabled s a ∧ M.Valid (M.next s a) as := Iff.rfl

theorem run_append (s : σ) (as bs : List α) :
    M.run s (as ++ bs) = M.run (M.run s as) bs := by
  induction as generalizing s with
  | nil => rfl
  | cons a as ih => exact ih (M.next s a)

theorem meets_append {C : σ → α → Prop} {s : σ} {as bs : List α} :
    M.Meets C s (as ++ bs) ↔ M.Meets C s as ∧ M.Meets C (M.run s as) bs := by
  induction as generalizing s with
  | nil => simp
  | cons a as ih => simp [ih, and_assoc]

theorem valid_append {s : σ} {as bs : List α} :
    M.Valid s (as ++ bs) ↔ M.Valid s as ∧ M.Valid (M.run s as) bs :=
  meets_append

theorem Meets.mono {C D : σ → α → Prop} (h : ∀ s a, C s a → D s a) {s : σ}
    {as : List α} (hm : M.Meets C s as) : M.Meets D s as := by
  induction as generalizing s with
  | nil => trivial
  | cons a as ih => exact ⟨h s a hm.1, ih hm.2⟩

theorem meets_and {C D : σ → α → Prop} {s : σ} {as : List α} :
    M.Meets (fun s a => C s a ∧ D s a) s as ↔ M.Meets C s as ∧ M.Meets D s as := by
  induction as generalizing s with
  | nil => simp
  | cons a as ih => simp [ih, and_and_and_comm]

/-- A condition on labels alone. -/
theorem meets_of_forall {C : α → Prop} {s : σ} {as : List α} (h : ∀ a ∈ as, C a) :
    M.Meets (fun _ a => C a) s as := by
  induction as generalizing s with
  | nil => trivial
  | cons a as ih =>
      exact ⟨h a List.mem_cons_self, ih fun b hb => h b (List.mem_cons_of_mem _ hb)⟩

theorem Always.head {P : σ → Prop} {s : σ} {as : List α} (h : M.Always P s as) :
    P s := by
  cases as with
  | nil => exact h
  | cons a as => exact h.1

theorem Always.last {P : σ → Prop} {s : σ} {as : List α} (h : M.Always P s as) :
    P (M.run s as) := by
  induction as generalizing s with
  | nil => exact h
  | cons a as ih => exact ih h.2

theorem Always.imp {P Q : σ → Prop} {s : σ} {as : List α} (h : M.Always P s as)
    (hPQ : ∀ s, P s → Q s) : M.Always Q s as := by
  induction as generalizing s with
  | nil => exact hPQ s h
  | cons a as ih => exact ⟨hPQ s h.1, ih h.2⟩

/-- A condition on steps, read at each place of the run. -/
theorem meets_iff_split {C : σ → α → Prop} {s : σ} {as : List α} :
    M.Meets C s as ↔ ∀ pre a post, as = pre ++ a :: post → C (M.run s pre) a := by
  constructor
  · rintro h pre a post rfl
    exact (meets_append.mp h).2.1
  · intro h
    induction as generalizing s with
    | nil => trivial
    | cons a as ih =>
        refine ⟨h [] a as rfl, ih fun pre b post hsplit => ?_⟩
        exact h (a :: pre) b post (by rw [hsplit, List.cons_append])

theorem always_append {P : σ → Prop} {s : σ} {as bs : List α} :
    M.Always P s (as ++ bs) → M.Always P (M.run s as) bs := by
  intro h
  induction as generalizing s with
  | nil => exact h
  | cons a as ih => exact ih h.2

/-- A condition weakens along a run that keeps an invariant. -/
theorem Meets.of_always {I : σ → Prop} {C D : σ → α → Prop} {s : σ} {as : List α}
    (hm : M.Meets C s as) (hI : M.Always I s as) (h : ∀ s a, I s → C s a → D s a) :
    M.Meets D s as := by
  induction as generalizing s with
  | nil => trivial
  | cons a as ih => exact ⟨h s a hI.1 hm.1, ih hm.2 hI.2⟩

/-! ## Reachability -/

theorem Reachable.of_init {s : σ} (h : M.init s) : M.Reachable s :=
  ⟨s, [], h, trivial, rfl⟩

theorem Reachable.run {s : σ} (h : M.Reachable s) {as : List α}
    (hv : M.Valid s as) : M.Reachable (M.run s as) := by
  obtain ⟨s₀, bs, hi, hb, rfl⟩ := h
  exact ⟨s₀, bs ++ as, hi, valid_append.mpr ⟨hb, hv⟩, run_append s₀ bs as⟩

theorem Reachable.next {s : σ} (h : M.Reachable s) {a : α} (he : M.enabled s a) :
    M.Reachable (M.next s a) :=
  have hv : M.Valid s [a] := ⟨he, trivial⟩
  h.run hv

/-! ## Invariants -/

/-- `I` survives every enabled step whose condition `C` holds. -/
def PreservedUnder (M : Machine σ α) (C : σ → α → Prop) (I : σ → Prop) : Prop :=
  ∀ s a, M.enabled s a → C s a → I s → I (M.next s a)

/-- `I` survives every enabled step. -/
def Preserved (M : Machine σ α) (I : σ → Prop) : Prop :=
  ∀ s a, M.enabled s a → I s → I (M.next s a)

/-- The run rule: one step kept, so the whole run is. -/
theorem PreservedUnder.always {C : σ → α → Prop} {I : σ → Prop}
    (h : M.PreservedUnder C I) {s : σ} {as : List α} (hv : M.Valid s as)
    (hC : M.Meets C s as) (hs : I s) : M.Always I s as := by
  induction as generalizing s with
  | nil => exact hs
  | cons a as ih =>
      exact ⟨hs, ih hv.2 hC.2 (h s a hv.1 hC.1 hs)⟩

theorem Preserved.always {I : σ → Prop} (h : M.Preserved I) {s : σ}
    {as : List α} (hv : M.Valid s as) (hs : I s) : M.Always I s as := by
  induction as generalizing s with
  | nil => exact hs
  | cons a as ih => exact ⟨hs, ih hv.2 (h s a hv.1 hs)⟩

theorem Preserved.run {I : σ → Prop} (h : M.Preserved I) {s : σ} {as : List α}
    (hv : M.Valid s as) (hs : I s) : I (M.run s as) :=
  (h.always hv hs).last

/-- What every label of the run keeps, enabled or not, holds at its end. -/
theorem run_of_forall {I : σ → Prop} {s : σ} {as : List α}
    (h : ∀ a ∈ as, ∀ t, I t → I (M.next t a)) (hs : I s) : I (M.run s as) := by
  induction as generalizing s with
  | nil => exact hs
  | cons a as ih =>
      apply ih
      · exact fun b hb => h b (List.mem_cons_of_mem _ hb)
      · exact h a List.mem_cons_self s hs

/-- The invariant rule: true initially and kept by every step. -/
theorem Preserved.reachable {I : σ → Prop} (h : M.Preserved I)
    (hi : ∀ s, M.init s → I s) {s : σ} (hr : M.Reachable s) : I s := by
  obtain ⟨s₀, as, h₀, hv, rfl⟩ := hr
  exact h.run hv (hi s₀ h₀)

/-- Under an invariant of the run, step conditions that agree hold together. -/
theorem meets_congr {I : σ → Prop} {C D : σ → α → Prop} {s : σ} {as : List α}
    (hI : M.Always I s as) (h : ∀ s a, I s → (C s a ↔ D s a)) :
    M.Meets C s as ↔ M.Meets D s as := by
  induction as generalizing s with
  | nil => simp
  | cons a as ih => rw [meets_cons, meets_cons, h s a hI.1, ih hI.2]

/-- Take a run whose steps all satisfy `E`.  When `E` keeps an invariant `I`,
and under `I` a step keeps `P` exactly if it satisfies `C`, then the run keeps
`P` exactly if every one of its steps satisfies `C`. -/
theorem always_iff_meets {I P : σ → Prop} {E C : σ → α → Prop}
    (hI : ∀ s a, E s a → I s → I (M.next s a))
    (hstep : ∀ s a, E s a → I s → P s → (P (M.next s a) ↔ C s a))
    {s : σ} {as : List α} (hv : M.Meets E s as) (hs : I s) (hP : P s) :
    M.Always P s as ↔ M.Meets C s as := by
  induction as generalizing s with
  | nil => simp [hP]
  | cons a as ih =>
      have hn := hI s a hv.1 hs
      have hc := hstep s a hv.1 hs hP
      constructor
      · rintro ⟨-, ha⟩
        have hPn : P (M.next s a) := ha.head
        exact ⟨hc.mp hPn, (ih hv.2 hn hPn).mp ha⟩
      · rintro ⟨hCs, hm⟩
        have hPn : P (M.next s a) := hc.mpr hCs
        exact ⟨hP, (ih hv.2 hn hPn).mpr hm⟩

/-- A property that no step restores holds at the end of a run exactly if it held at
the start and every step satisfied `C`. -/
theorem run_iff_meets {I P : σ → Prop} {E C : σ → α → Prop}
    (hI : ∀ s a, E s a → I s → I (M.next s a))
    (hstep : ∀ s a, E s a → I s → (P (M.next s a) ↔ P s ∧ C s a))
    {s : σ} {as : List α} (hv : M.Meets E s as) (hs : I s) :
    P (M.run s as) ↔ P s ∧ M.Meets C s as := by
  induction as generalizing s with
  | nil => simp
  | cons a as ih =>
      rw [run_cons, ih hv.2 (hI s a hv.1 hs), hstep s a hv.1 hs, meets_cons, and_assoc]

/-! ## Absorbing values -/

/-- Once a state of the run satisfies `T`, the value `v` never changes again. -/
def Absorbing (M : Machine σ α) {β : Type*} (T : σ → Prop) (v : σ → β) (s : σ)
    (as : List α) : Prop :=
  ∀ pre post, as = pre ++ post → T (M.run s pre) →
    M.Always (fun t => v t = v (M.run s pre)) (M.run s pre) post

section Absorbing

variable {β : Type*} {T : σ → Prop} {v : σ → β}

theorem stays_of_meets (hT : ∀ s t, v t = v s → T s → T t) {s : σ} {as : List α}
    (hm : M.Meets (fun s a => T s → v (M.next s a) = v s) s as) (hs : T s) :
    M.Always (fun t => v t = v s) s as := by
  induction as generalizing s with
  | nil => exact rfl
  | cons a as ih =>
      have hv : v (M.next s a) = v s := hm.1 hs
      have hrest := ih hm.2 (hT s _ hv hs)
      rw [hv] at hrest
      exact ⟨rfl, hrest⟩

/-- A value is absorbed by the run exactly if it survives each step. -/
theorem absorbing_iff_meets (hT : ∀ s t, v t = v s → T s → T t) {s : σ} {as : List α} :
    M.Absorbing T v s as ↔ M.Meets (fun s a => T s → v (M.next s a) = v s) s as := by
  constructor
  · intro h
    induction as generalizing s with
    | nil => trivial
    | cons a as ih =>
        constructor
        · intro hs
          exact (h [] (a :: as) rfl hs).2.head
        · apply ih
          intro pre post hsplit
          exact h (a :: pre) post (by rw [hsplit, List.cons_append])
  · rintro h pre post rfl hs
    exact stays_of_meets hT (meets_append.mp h).2 hs

end Absorbing

/-! ## Simulation -/

section Simulation

variable {τ β : Type*} {N : Machine τ β} {abs : σ → τ} {steps : σ → α → List β}
  {E : σ → α → Prop}

/-- The labels another machine takes along a run, when it answers each step
with `steps`. -/
def trace (M : Machine σ α) (steps : σ → α → List β) (s : σ) : List α → List β
  | [] => []
  | a :: as => steps s a ++ trace M steps (M.next s a) as

/-- The simulation rule: if every step is answered, so is the run. -/
theorem run_trace (hsim : ∀ s a, E s a → N.run (abs s) (steps s a) = abs (M.next s a))
    {s : σ} {as : List α} (hE : M.Meets E s as) :
    N.run (abs s) (M.trace steps s as) = abs (M.run s as) := by
  induction as generalizing s with
  | nil => rfl
  | cons a as ih =>
      show N.run (abs s) (steps s a ++ M.trace steps (M.next s a) as) = _
      rw [run_append, hsim s a hE.1]
      exact ih hE.2

/-- A simulation also carries a condition on steps over to the run. -/
theorem meets_trace {C : σ → α → Prop} {D : τ → β → Prop}
    (hsim : ∀ s a, E s a → N.run (abs s) (steps s a) = abs (M.next s a))
    (hC : ∀ s a, E s a → (C s a ↔ N.Meets D (abs s) (steps s a)))
    {s : σ} {as : List α} (hE : M.Meets E s as) :
    M.Meets C s as ↔ N.Meets D (abs s) (M.trace steps s as) := by
  induction as generalizing s with
  | nil => exact Iff.rfl
  | cons a as ih =>
      show C s a ∧ M.Meets C (M.next s a) as ↔
        N.Meets D (abs s) (steps s a ++ M.trace steps (M.next s a) as)
      rw [meets_append, hsim s a hE.1, hC s a hE.1, ih hE.2]

end Simulation

end Machine

end Mvision.Library
