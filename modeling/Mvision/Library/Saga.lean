import Mathlib.Order.Defs.Unbundled
import Mathlib.Tactic.Common

/-!
# Sagas

A computation of steps that are committed one by one: an exception ends it and takes back
nothing of what has been committed before.
-/

namespace Mvision.Library

universe u

abbrev Saga (σ ε α : Type u) := EStateM ε σ α

namespace Saga

variable {σ ε α β : Type u} {x : Saga σ ε α} {f : α → Saga σ ε β} {s t : σ}

theorem bind_of_ok {a : α} (h : x s = .ok a t) : (x >>= f) s = f a t := by
  show EStateM.bind x f s = _
  unfold EStateM.bind
  rw [h]

theorem bind_of_error {e : ε} (h : x s = .error e t) : (x >>= f) s = .error e t := by
  show EStateM.bind x f s = _
  unfold EStateM.bind
  rw [h]

theorem get_eq (s : σ) : (get : Saga σ ε σ) s = .ok s s := rfl

/-- What a saga leaves, whether it raises or not. -/
def after (x : Saga σ ε α) (s : σ) : σ :=
  match x s with
  | .ok _ t => t
  | .error _ t => t

theorem after_of_ok {a : α} (h : x s = .ok a t) : x.after s = t := by
  rw [after, h]

theorem after_of_error {e : ε} (h : x s = .error e t) : x.after s = t := by
  rw [after, h]

/-- The saga ends with an exception. -/
def Raises (x : Saga σ ε α) (s : σ) : Prop := ∃ e t, x s = .error e t

theorem raises_bind_of_ok {a : α} (h : x s = .ok a t) : Raises (x >>= f) s ↔ Raises (f a) t := by
  unfold Raises
  rw [bind_of_ok h]

theorem raises_bind_of_raises (h : Raises x s) : Raises (x >>= f) s := by
  obtain ⟨e, t, h⟩ := h
  exact ⟨e, t, bind_of_error h⟩

theorem raises_throw (e : ε) : Raises (throw e : Saga σ ε α) s := ⟨e, s, rfl⟩

theorem not_raises_of_ok {a : α} (h : x s = .ok a t) : ¬ Raises x s := by
  rintro ⟨e, t', he⟩
  rw [h] at he
  cases he

theorem exists_ok_of_not_raises (h : ¬ Raises x s) : ∃ a t, x s = .ok a t := by
  cases hx : x s with
  | ok a t => exact ⟨a, t, rfl⟩
  | error e t => exact absurd ⟨e, t, hx⟩ h

/-- A saga that ends without an exception has come through its first part. -/
theorem bind_ok_iff {b : β} :
    (x >>= f) s = .ok b t ↔ ∃ a u, x s = .ok a u ∧ f a u = .ok b t := by
  cases hx : x s with
  | ok a u =>
      rw [bind_of_ok hx]
      constructor
      · exact fun h => ⟨a, u, rfl, h⟩
      · rintro ⟨_, _, ⟨⟩, h⟩
        exact h
  | error e u =>
      rw [bind_of_error hx]
      exact iff_of_false (by rintro ⟨⟩) (by rintro ⟨_, _, ⟨⟩, -⟩)

theorem pure_ok_iff {a b : α} : (pure a : Saga σ ε α) s = .ok b t ↔ b = a ∧ t = s := by
  constructor
  · rintro ⟨⟩
    exact ⟨rfl, rfl⟩
  · rintro ⟨rfl, rfl⟩
    rfl

theorem throw_ne_ok {e : ε} {b : α} : (throw e : Saga σ ε α) s ≠ .ok b t := by
  rintro ⟨⟩

theorem tryCatch_of_ok {handle : ε → Saga σ ε α} {a : α} (h : x s = .ok a t) :
    (tryCatch x handle : Saga σ ε α) s = .ok a t := by
  show EStateM.tryCatch x handle s = _
  unfold EStateM.tryCatch
  rw [h]

theorem tryCatch_of_error {handle : ε → Saga σ ε α} {e : ε} (h : x s = .error e t) :
    (tryCatch x handle : Saga σ ε α) s = handle e t := by
  show EStateM.tryCatch x handle s = _
  unfold EStateM.tryCatch
  rw [h]
  rfl

section Finally

variable {finalizer : Saga σ ε β} {b : β} {u : σ}

theorem tryFinally_of_ok {a : α} (h : x s = .ok a t) (hfinalizer : finalizer t = .ok b u) :
    (tryFinally x finalizer : Saga σ ε α) s = .ok a u := by
  show EStateM.map Prod.fst (tryFinally' x fun _ => finalizer : Saga σ ε (α × β)) s = _
  simp only [EStateM.map, tryFinally', h, hfinalizer]

theorem tryFinally_of_error {e : ε} (h : x s = .error e t)
    (hfinalizer : finalizer t = .ok b u) :
    (tryFinally x finalizer : Saga σ ε α) s = .error e u := by
  show EStateM.map Prod.fst (tryFinally' x fun _ => finalizer : Saga σ ε (α × β)) s = _
  simp only [EStateM.map, tryFinally', h, hfinalizer]

end Finally

/-! ## Frames -/

/-- However a saga ends, it relates the state before to the state after it. -/
def Keeps (R : σ → σ → Prop) (x : Saga σ ε α) : Prop := ∀ s, R s (x.after s)

namespace Keeps

variable {R : σ → σ → Prop}

theorem pure [Std.Refl R] (a : α) : Keeps R (Pure.pure a : Saga σ ε α) := fun s => refl s

theorem throw [Std.Refl R] (e : ε) : Keeps R (throw e : Saga σ ε α) := fun s => refl s

theorem get [Std.Refl R] : Keeps R (MonadState.get : Saga σ ε σ) := fun s => refl s

variable [IsTrans σ R]

theorem bind (hx : Keeps R x) (hf : ∀ a, Keeps R (f a)) : Keeps R (x >>= f) := by
  intro s
  have hfirst := hx s
  cases h : x s with
  | ok a t =>
      rw [after_of_ok h] at hfirst
      rw [after, bind_of_ok h]
      exact IsTrans.trans _ _ _ hfirst (hf a t)
  | error e t =>
      rw [after_of_error h] at hfirst
      rw [after, bind_of_error h]
      exact hfirst

/-- A handler that keeps the relation and a body that does. -/
theorem tryCatch {handle : ε → Saga σ ε α} (hx : Keeps R x) (hhandle : ∀ e, Keeps R (handle e)) :
    Keeps R (tryCatch x handle) := by
  intro s
  have hfirst := hx s
  cases h : x s with
  | ok a t =>
      rw [after_of_ok h] at hfirst
      rw [after_of_ok (tryCatch_of_ok h)]
      exact hfirst
  | error e t =>
      rw [after_of_error h] at hfirst
      rw [after, tryCatch_of_error h]
      exact IsTrans.trans _ _ _ hfirst (hhandle e t)

end Keeps

/-- What holds before still holds after. -/
def Stays (I : σ → Prop) (s t : σ) : Prop := I s → I t

instance staysRefl (I : σ → Prop) : Std.Refl (Stays I) := ⟨fun _ h => h⟩

instance staysTrans (I : σ → Prop) : IsTrans σ (Stays I) := ⟨fun _ _ _ h h' hs => h' (h hs)⟩

theorem keeps_modify {R : σ → σ → Prop} {g : σ → σ} (h : ∀ s, R s (g s)) :
    Keeps R (modify g : Saga σ ε PUnit) := h

/-! ## Outcomes -/

/-- The saga returns as `Q` says, or raises as `E` says. -/
def Ends (Q : α → σ → Prop) (E : ε → σ → Prop) (x : Saga σ ε α) (s : σ) : Prop :=
  match x s with
  | .ok a t => Q a t
  | .error e t => E e t

variable {Q Q' : α → σ → Prop} {R : β → σ → Prop} {E F : ε → σ → Prop}

theorem ends_pure {a : α} (h : Q a s) : Ends Q E (Pure.pure a : Saga σ ε α) s := h

theorem ends_throw {e : ε} (h : E e s) : Ends Q E (throw e : Saga σ ε α) s := h

theorem ends_modify {g : σ → σ} {Q : PUnit → σ → Prop} (h : Q ⟨⟩ (g s)) :
    Ends Q E (modify g : Saga σ ε PUnit) s := h

theorem ends_throw_bind {e : ε} {f : α → Saga σ ε β} (h : E e s) :
    Ends R E ((throw e : Saga σ ε α) >>= f) s := h

theorem ends_get_bind {f : σ → Saga σ ε β} (h : Ends R E (f s) s) :
    Ends R E ((get : Saga σ ε σ) >>= f) s := h

theorem ends_modify_bind {g : σ → σ} {f : PUnit → Saga σ ε β} (h : Ends R E (f ⟨⟩) (g s)) :
    Ends R E ((modify g : Saga σ ε PUnit) >>= f) s := h

/-- A frame is part of any outcome. -/
theorem Keeps.ends {R : σ → σ → Prop} (h : Keeps R x) (s : σ) :
    Ends (fun a t => x s = .ok a t ∧ R s t) (fun e t => x s = .error e t ∧ R s t) x s := by
  have hafter := h s
  unfold Ends
  cases hx : x s with
  | ok a t =>
      rw [after_of_ok hx] at hafter
      exact ⟨rfl, hafter⟩
  | error e t =>
      rw [after_of_error hx] at hafter
      exact ⟨rfl, hafter⟩

theorem Ends.imp (hx : Ends Q E x s) (hok : ∀ a t, Q a t → Q' a t)
    (herror : ∀ e t, E e t → F e t) : Ends Q' F x s := by
  unfold Ends at hx ⊢
  cases h : x s with
  | ok a t =>
      rw [h] at hx
      exact hok a t hx
  | error e t =>
      rw [h] at hx
      exact herror e t hx

theorem Ends.bind (hx : Ends Q E x s) (hf : ∀ a t, Q a t → Ends R E (f a) t) :
    Ends R E (x >>= f) s := by
  unfold Ends at hx
  cases h : x s with
  | ok a t =>
      rw [h] at hx
      rw [Ends, bind_of_ok h]
      exact hf a t hx
  | error e t =>
      rw [h] at hx
      rw [Ends, bind_of_error h]
      exact hx

/-- `try: x  except e: handle e` -/
theorem Ends.tryCatch {handle : ε → Saga σ ε α} (hx : Ends Q E x s)
    (hhandle : ∀ e t, E e t → Ends Q F (handle e) t) : Ends Q F (tryCatch x handle) s := by
  unfold Ends at hx
  cases h : x s with
  | ok a t =>
      rw [h] at hx
      rw [Ends, tryCatch_of_ok h]
      exact hx
  | error e t =>
      rw [h] at hx
      rw [Ends, tryCatch_of_error h]
      exact hhandle e t hx

/-- `try: x  finally: finalizer`, where the finalizer does not raise. -/
theorem Ends.tryFinally {finalizer : Saga σ ε β} (hx : Ends Q E x s)
    (hok : ∀ a t, Q a t → ∃ b u, finalizer t = .ok b u ∧ Q' a u)
    (herror : ∀ e t, E e t → ∃ b u, finalizer t = .ok b u ∧ F e u) :
    Ends Q' F (tryFinally x finalizer) s := by
  unfold Ends at hx
  cases h : x s with
  | ok a t =>
      rw [h] at hx
      obtain ⟨b, u, hu, hQ⟩ := hok a t hx
      rw [Ends, tryFinally_of_ok h hu]
      exact hQ
  | error e t =>
      rw [h] at hx
      obtain ⟨b, u, hu, hE⟩ := herror e t hx
      rw [Ends, tryFinally_of_error h hu]
      exact hE

/-- A saga that returns has the first outcome. -/
theorem Ends.returned (hx : Ends Q E x s) {a : α} (h : EStateM.run' x s = some a) :
    ∃ t, Q a t := by
  unfold Ends at hx
  unfold EStateM.run' EStateM.run at h
  cases hrun : x s with
  | ok b t =>
      rw [hrun] at hx h
      obtain rfl := Option.some.inj h
      exact ⟨t, hx⟩
  | error e t =>
      rw [hrun] at h
      cases h

/-- A saga that raises has the second one. -/
theorem Ends.raised (hx : Ends Q E x s) (h : EStateM.run' x s = none) : ∃ e t, E e t := by
  unfold Ends at hx
  unfold EStateM.run' EStateM.run at h
  cases hrun : x s with
  | ok b t =>
      rw [hrun] at h
      cases h
  | error e t =>
      rw [hrun] at hx
      exact ⟨e, t, hx⟩

end Saga

end Mvision.Library
