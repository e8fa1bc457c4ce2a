import Mathlib.Data.List.Forall2

/-!
# Computations that may fail

When a chain of checks succeeds, and what it then returns.
-/

namespace Mvision.Library

variable {ε α β : Type}

theorem exists_ok_of_isSome {x : Except ε α} (h : x.toOption.isSome = true) :
    ∃ a, x = .ok a := by
  cases x with
  | error e => cases h
  | ok a => exact ⟨a, rfl⟩

theorem ok_of_toOption {x : Except ε α} {a : α} (h : x.toOption = some a) : x = .ok a := by
  cases x with
  | error e => cases h
  | ok b => exact congrArg Except.ok (Option.some.inj h)

theorem exists_bind_ok_iff {x : Except ε α} {f : α → Except ε β} :
    (∃ b, (x >>= f) = .ok b) ↔ ∃ a, x = .ok a ∧ ∃ b, f a = .ok b := by
  cases x with
  | error e => simp [bind, Except.bind]
  | ok a => simp [bind, Except.bind]

@[simp] theorem ok_bind (a : α) (f : α → Except ε β) : (Except.ok a >>= f) = f a := rfl

theorem bind_ok_iff {x : Except ε α} {f : α → Except ε β} {b : β} :
    (x >>= f) = .ok b ↔ ∃ a, x = .ok a ∧ f a = .ok b := by
  cases x with
  | error e => simp [bind, Except.bind]
  | ok a => simp [bind, Except.bind]

theorem map_ok_iff {x : Except ε α} {f : α → β} {b : β} :
    (f <$> x) = .ok b ↔ ∃ a, x = .ok a ∧ f a = b := by
  cases x with
  | error e => simp [Functor.map, Except.map]
  | ok a => simp [Functor.map, Except.map]

/-- A loop of checks that succeeds has checked every item. -/
theorem forall_of_forM_ok {f : α → Except ε Unit} {items : List α}
    (h : items.forM f = .ok ()) : ∀ item ∈ items, f item = .ok () := by
  induction items with
  | nil => exact List.forall_mem_nil _
  | cons item rest ih =>
      have h : (f item >>= fun _ => rest.forM f) = .ok () := h
      obtain ⟨_, hfirst, hrest⟩ := bind_ok_iff.mp h
      exact List.forall_mem_cons.mpr ⟨hfirst, ih hrest⟩

theorem exists_map_ok_iff {x : Except ε α} {f : α → β} :
    (∃ b, f <$> x = .ok b) ↔ ∃ a, x = .ok a := by
  cases x with
  | error e => simp [Functor.map, Except.map]
  | ok a => simp [Functor.map, Except.map]

theorem exists_pure_ok (a : α) : ∃ b, (pure a : Except ε α) = .ok b := ⟨a, rfl⟩

/-- A loop that checks every item succeeds if each check does. -/
theorem exists_mapM_ok_iff {f : α → Except ε β} {items : List α} :
    (∃ results, items.mapM f = .ok results) ↔ ∀ item ∈ items, ∃ result, f item = .ok result := by
  induction items with
  | nil => simp [pure, Except.pure]
  | cons item rest ih =>
      rw [List.mapM_cons, exists_bind_ok_iff, List.forall_mem_cons, ← ih]
      constructor
      · rintro ⟨result, hresult, hrest⟩
        obtain ⟨results, hresults, -⟩ := exists_bind_ok_iff.mp hrest
        exact ⟨⟨result, hresult⟩, results, hresults⟩
      · rintro ⟨⟨result, hresult⟩, results, hresults⟩
        exact ⟨result, hresult, exists_bind_ok_iff.mpr ⟨results, hresults, exists_pure_ok _⟩⟩

/-- A loop returns the results of its items. -/
theorem forall₂_of_mapM_ok {f : α → Except ε β} {items : List α} {results : List β}
    (h : items.mapM f = .ok results) :
    List.Forall₂ (fun item result => f item = .ok result) items results := by
  induction items generalizing results with
  | nil =>
      obtain rfl : [] = results := Except.ok.inj h
      exact .nil
  | cons item rest ih =>
      rw [List.mapM_cons] at h
      cases hresult : f item with
      | error e =>
          rw [hresult] at h
          cases h
      | ok result =>
          cases hresults : rest.mapM f with
          | error e =>
              rw [hresult, hresults] at h
              cases h
          | ok results' =>
              rw [hresult, hresults] at h
              obtain rfl : result :: results' = results := Except.ok.inj h
              exact .cons hresult (ih hresults)

theorem mapM_of_forall₂ {f : α → Except ε β} {items : List α} {results : List β}
    (h : List.Forall₂ (fun item result => f item = .ok result) items results) :
    items.mapM f = .ok results := by
  induction h with
  | nil => rfl
  | cons hfirst hrest ih =>
      rw [List.mapM_cons, hfirst, ih]
      rfl

/-- A loop whose items all succeed, each with a result that belongs to it. -/
theorem exists_mapM_forall₂ {f : α → Except ε β} {R : α → β → Prop} {items : List α}
    (h : ∀ item ∈ items, ∃ result, f item = .ok result ∧ R item result) :
    ∃ results, items.mapM f = .ok results ∧ List.Forall₂ R items results := by
  induction items with
  | nil => exact ⟨[], rfl, .nil⟩
  | cons item rest ih =>
      obtain ⟨⟨result, hresult, hR⟩, hrest⟩ := List.forall_mem_cons.mp h
      obtain ⟨results, hresults, hforall⟩ := ih hrest
      refine ⟨result :: results, ?_, .cons hR hforall⟩
      rw [List.mapM_cons, hresult, hresults]
      rfl

/-- A loop whose step is a check and a function. -/
theorem mapM_ok_iff {f : α → Except ε β} {P : α → Prop} {g : α → β}
    (h : ∀ item result, f item = .ok result ↔ P item ∧ result = g item) {items : List α}
    {results : List β} :
    items.mapM f = .ok results ↔ (∀ item ∈ items, P item) ∧ results = items.map g := by
  constructor
  · intro hresults
    have hitems := forall₂_of_mapM_ok hresults
    clear hresults
    induction hitems with
    | nil => exact ⟨List.forall_mem_nil P, rfl⟩
    | cons hfirst hrest ih =>
        obtain ⟨hP, rfl⟩ := (h _ _).mp hfirst
        obtain ⟨hall, rfl⟩ := ih
        exact ⟨List.forall_mem_cons.mpr ⟨hP, hall⟩, rfl⟩
  · rintro ⟨hP, rfl⟩
    induction items with
    | nil => rfl
    | cons item rest ih =>
        rw [List.forall_mem_cons] at hP
        rw [List.mapM_cons, (h item _).mpr ⟨hP.1, rfl⟩, ih hP.2]
        rfl

/-- Two loops over related items return related results. -/
theorem forall₂_of_mapM_mapM {α' β' : Type} {f : α → Except ε β} {g : α' → Except ε β'}
    {R : β → β' → Prop} {items : List α} {items' : List α'} {results : List β}
    {results' : List β'}
    (h : List.Forall₂ (fun item item' => ∀ result result', f item = .ok result →
      g item' = .ok result' → R result result') items items')
    (hf : items.mapM f = .ok results) (hg : items'.mapM g = .ok results') :
    List.Forall₂ R results results' := by
  have hresults := forall₂_of_mapM_ok hf
  have hresults' := forall₂_of_mapM_ok hg
  clear hf hg
  induction h generalizing results results' with
  | nil =>
      cases hresults
      cases hresults'
      exact .nil
  | cons hstep hrest ih =>
      cases hresults with
      | cons hfirst hresults =>
          cases hresults' with
          | cons hfirst' hresults' => exact .cons (hstep _ _ hfirst hfirst') (ih hresults hresults')

/-! ## What a computation returns -/

/-- What the computation returns, if it does, is as `P` says. -/
def Ensures (P : α → Prop) (x : Except ε α) : Prop := ∀ a, x = .ok a → P a

/-- The computation returns `a` if it succeeds. -/
abbrev Returns (x : Except ε α) (a : α) : Prop := Ensures (· = a) x

section Ensures

variable {P : α → Prop} {Q : β → Prop} {x : Except ε α} {f : α → Except ε β}

theorem ensures_ok {a : α} (h : P a) : Ensures P (.ok a : Except ε α) := by
  rintro b hb
  obtain rfl := Except.ok.inj hb
  exact h

theorem ensures_pure {a : α} (h : P a) : Ensures P (pure a : Except ε α) := ensures_ok h

theorem ensures_error (e : ε) : Ensures P (.error e) := by
  rintro a ⟨⟩

theorem Ensures.imp {P' : α → Prop} (hx : Ensures P x) (h : ∀ a, P a → P' a) : Ensures P' x :=
  fun a ha => h a (hx a ha)

theorem Ensures.bind (hx : Ensures P x) (hf : ∀ a, P a → Ensures Q (f a)) :
    Ensures Q (x >>= f) := by
  cases x with
  | error e => exact ensures_error e
  | ok a => exact hf a (hx a rfl)

theorem Ensures.map {g : α → β} (hx : Ensures P x) (hg : ∀ a, P a → Q (g a)) :
    Ensures Q (g <$> x) := by
  cases x with
  | error e => exact ensures_error e
  | ok a => exact ensures_ok (hg a (hx a rfl))

/-- A check, whose result is not used. -/
theorem ensures_after (hf : ∀ a, Ensures Q (f a)) : Ensures Q (x >>= f) := by
  cases x with
  | error e => exact ensures_error e
  | ok a => exact hf a

theorem returns_bind {a : α} (hx : Returns x a) (hf : Ensures Q (f a)) : Ensures Q (x >>= f) :=
  hx.bind fun _ ha => ha ▸ hf

theorem returns_map {a : α} {g : α → β} (hx : Returns x a) : Returns (g <$> x) (g a) :=
  hx.map fun _ ha => congrArg g ha

/-- A loop, from what its step returns for each item. -/
theorem ensures_mapM {γ : Type} {R : γ → β → Prop} {items : List α} {others : List γ}
    (h : List.Forall₂ (fun item other => Ensures (R other) (f item)) items others) :
    Ensures (List.Forall₂ R others) (items.mapM f) := by
  intro results hresults
  have hsteps := forall₂_of_mapM_ok hresults
  clear hresults
  induction hsteps generalizing others with
  | nil =>
      cases h
      exact .nil
  | cons hfirst _ ih =>
      cases h with
      | cons hensures h => exact .cons (hensures _ hfirst) (ih h)

theorem returns_mapM {items : List α} {results : List β}
    (h : List.Forall₂ (fun item result => Returns (f item) result) items results) :
    Returns (items.mapM f) results := by
  intro others hothers
  have hequal := ensures_mapM h others hothers
  clear h hothers
  induction hequal with
  | nil => rfl
  | cons hfirst _ ih => rw [hfirst, ih]

end Ensures

end Mvision.Library
