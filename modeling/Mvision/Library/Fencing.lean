import Mvision.Library.Machine

/-!
# Fencing tokens

Resources `ι` are guarded by tokens `τ`.  `opens s i t` says that token `t`
opens resource `i` in state `s`, and `used s` are the tokens handed out so
far.  A machine is fenced when a resource only ever takes a token that nobody
used before; then a token that has lost its resource never opens it again,
however the run goes on.
-/

namespace Mvision.Library

variable {σ α ι τ : Type*}

/-- Under the invariant `I`, resources change hands through unused tokens only. -/
structure Fenced (M : Machine σ α) (I : σ → Prop) (opens : σ → ι → τ → Prop)
    (used : σ → τ → Prop) : Prop where
  preserved : M.Preserved I
  used_next : ∀ s a t, M.enabled s a → used s t → used (M.next s a) t
  fresh : ∀ s a i t, M.enabled s a → I s → opens (M.next s a) i t → opens s i t ∨ ¬ used s t

namespace Fenced

variable {M : Machine σ α} {I : σ → Prop} {opens : σ → ι → τ → Prop} {used : σ → τ → Prop}

theorem used_run (h : Fenced M I opens used) {s : σ} {as : List α} (hv : M.Valid s as)
    {t : τ} (ht : used s t) : used (M.run s as) t := by
  induction as generalizing s with
  | nil => exact ht
  | cons a as ih => exact ih hv.2 (h.used_next s a t hv.1 ht)

theorem lost_next (h : Fenced M I opens used) {s : σ} {a : α} (he : M.enabled s a)
    (hs : I s) {i : ι} {t : τ} (ht : used s t) (hl : ¬ opens s i t) :
    ¬ opens (M.next s a) i t := by
  intro hh
  rcases h.fresh s a i t he hs hh with hold | hnew
  · exact hl hold
  · exact hnew ht

/-- A used token that does not open a resource never opens it later. -/
theorem lost_run (h : Fenced M I opens used) {s : σ} {as : List α} (hv : M.Valid s as)
    (hs : I s) {i : ι} {t : τ} (ht : used s t) (hl : ¬ opens s i t) :
    ¬ opens (M.run s as) i t := by
  induction as generalizing s with
  | nil => exact hl
  | cons a as ih =>
      exact ih hv.2 (h.preserved s a hv.1 hs) (h.used_next s a t hv.1 ht)
        (h.lost_next hv.1 hs ht hl)

/-- Step `c` gives token `t` to resource `i` alone, and step `e` takes it back:
from then on `t` opens nothing. -/
theorem ended (h : Fenced M I opens used) {s : σ} {c e : α} {mid post : List α}
    (hv : M.Valid s (c :: mid ++ e :: post)) (hs : I s) {i : ι} {t : τ}
    (ht : used (M.next s c) t) (hothers : ∀ j, j ≠ i → ¬ opens (M.next s c) j t)
    (hend : ¬ opens (M.next (M.run s (c :: mid)) e) i t) (j : ι) :
    ¬ opens (M.run s (c :: mid ++ e :: post)) j t := by
  obtain ⟨hcmid, hrest⟩ := Machine.valid_append.mp hv
  have hc := hcmid.1
  have hmid := hcmid.2
  have hsc : I (M.next s c) := h.preserved s c hc hs
  have hsm : I (M.run s (c :: mid)) := h.preserved.run hcmid hs
  have hused : used (M.run s (c :: mid)) t := h.used_run hmid ht
  rw [Machine.run_append]
  by_cases hj : j = i
  · subst hj
    exact h.lost_run hrest.2 (h.preserved _ e hrest.1 hsm) (h.used_next _ e t hrest.1 hused) hend
  · -- the token never opened any other resource
    exact h.lost_run hrest hsm hused (h.lost_run hmid hsc ht (hothers j hj))

end Fenced

end Mvision.Library
