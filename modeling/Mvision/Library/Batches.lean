import Mathlib.Data.Finset.Card
import Mathlib.Order.Basic
import Mathlib.Tactic.Common

/-!
# Waiting for a batch

A server takes again and again the first of those that wait, up to a limit.  What fails goes on
waiting and is taken again, so enough failures block all that comes behind them, and nothing else
does.
-/

namespace Mvision.Library

variable {α β : Type*} [LinearOrder β]

/-- Those that wait and those that are taken, batch after batch. -/
structure Batches (limit : ℕ) (rank : α → β) (fails : α → Prop) (waiting batch : ℕ → Finset α) :
    Prop where
  taken : ∀ n, batch n ⊆ waiting n
  full : ∀ n, (batch n).card = min limit (waiting n).card
  first : ∀ n, ∀ a ∈ batch n, ∀ b ∈ waiting n, b ∉ batch n → rank a ≤ rank b
  stays : ∀ n, ∀ a ∈ waiting n, a ∉ batch n ∨ fails a → a ∈ waiting (n + 1)
  leaves : ∀ n, ∀ a ∈ batch n, ¬ fails a → a ∉ waiting (n + 1)

namespace Batches

variable {limit : ℕ} {rank : α → β} {fails : α → Prop} {waiting batch : ℕ → Finset α} {a : α}

/-- Failures never leave. -/
theorem mem_waiting_of_fails (h : Batches limit rank fails waiting batch) {b : α}
    (hb : b ∈ waiting 0) (hfails : fails b) (n : ℕ) : b ∈ waiting n := by
  induction n with
  | zero => exact hb
  | succ n ih => exact h.stays n b ih (.inr hfails)

variable [DecidablePred fails]

/-- Behind as many failures as a batch takes nothing is ever taken. -/
theorem blocked [DecidableEq α] (h : Batches limit rank fails waiting batch) (ha : a ∈ waiting 0)
    (hmany : limit ≤ ((waiting 0).filter fun b => fails b ∧ rank b < rank a).card) (n : ℕ) :
    a ∈ waiting n := by
  induction n with
  | zero => exact ha
  | succ n ih =>
      apply h.stays n a ih
      left
      intro htaken
      have hahead : insert a ((waiting 0).filter fun b => fails b ∧ rank b < rank a) ⊆ batch n := by
        intro b hb
        rcases Finset.mem_insert.mp hb with rfl | hb
        · exact htaken
        · obtain ⟨hwaits, hfails, hrank⟩ := Finset.mem_filter.mp hb
          by_contra hleft
          have hle := h.first n a htaken b (h.mem_waiting_of_fails hwaits hfails n) hleft
          exact absurd hrank (not_lt.mpr hle)
      have hnew : a ∉ (waiting 0).filter fun b => fails b ∧ rank b < rank a := by
        intro hmem
        exact lt_irrefl (rank a) (Finset.mem_filter.mp hmem).2.2
      have hcard := Finset.card_le_card hahead
      have hfull := h.full n
      rw [Finset.card_insert_of_notMem hnew] at hcard
      omega

/-- Those that wait and do not come behind `a`. -/
def ahead (rank : α → β) (waiting : ℕ → Finset α) (a : α) (n : ℕ) : Finset α :=
  (waiting n).filter fun b => rank b ≤ rank a

theorem ahead_succ_subset (hlater : ∀ n, ∀ b ∈ waiting (n + 1), b ∉ waiting n → rank a < rank b)
    (n : ℕ) : ahead rank waiting a (n + 1) ⊆ ahead rank waiting a n := by
  intro b hb
  obtain ⟨hwaits, hrank⟩ := Finset.mem_filter.mp hb
  refine Finset.mem_filter.mpr ⟨?_, hrank⟩
  by_contra hnew
  exact absurd hrank (not_le.mpr (hlater n b hwaits hnew))

theorem ahead_subset (hlater : ∀ n, ∀ b ∈ waiting (n + 1), b ∉ waiting n → rank a < rank b)
    (n : ℕ) : ahead rank waiting a n ⊆ ahead rank waiting a 0 := by
  induction n with
  | zero => exact Finset.Subset.refl _
  | succ n ih => exact (ahead_succ_subset hlater n).trans ih

/-- A batch that leaves `a` behind serves another one in front of it. -/
theorem ahead_succ_ssubset (h : Batches limit rank fails waiting batch)
    (hlater : ∀ n, ∀ b ∈ waiting (n + 1), b ∉ waiting n → rank a < rank b)
    (hfew : ((waiting 0).filter fun b => fails b ∧ rank b ≤ rank a).card < limit) {n : ℕ}
    (hwaits : a ∈ waiting n) (hleft : a ∉ batch n) :
    ahead rank waiting a (n + 1) ⊂ ahead rank waiting a n := by
  have hahead : batch n ⊆ ahead rank waiting a n := by
    intro b hb
    exact Finset.mem_filter.mpr ⟨h.taken n hb, h.first n b hb a hwaits hleft⟩
  have hlimit : (batch n).card = limit := by
    have hlt : (batch n).card < (waiting n).card := by
      apply Finset.card_lt_card
      exact Finset.ssubset_iff_subset_ne.mpr ⟨h.taken n, fun heq => hleft (heq ▸ hwaits)⟩
    have hfull := h.full n
    omega
  -- not all of the batch are failures
  obtain ⟨b, hb, hserved⟩ : ∃ b ∈ batch n, ¬ fails b := by
    by_contra hall
    push Not at hall
    have hsubset : batch n ⊆ (waiting 0).filter fun b => fails b ∧ rank b ≤ rank a := by
      intro b hb
      obtain ⟨hfront, hrank⟩ := Finset.mem_filter.mp (ahead_subset hlater n (hahead hb))
      exact Finset.mem_filter.mpr ⟨hfront, hall b hb, hrank⟩
    have hcard := Finset.card_le_card hsubset
    omega
  refine Finset.ssubset_iff_of_subset (ahead_succ_subset hlater n) |>.mpr ⟨b, hahead hb, ?_⟩
  intro hmem
  exact h.leaves n b hb hserved (Finset.mem_filter.mp hmem).1

/-- With fewer failures in front than a batch takes, `a` is served in the end. -/
theorem served (h : Batches limit rank fails waiting batch) (ha : ¬ fails a)
    (hlater : ∀ n, ∀ b ∈ waiting (n + 1), b ∉ waiting n → rank a < rank b)
    (hfew : ((waiting 0).filter fun b => fails b ∧ rank b ≤ rank a).card < limit) :
    ∃ n, a ∉ waiting n := by
  by_contra hwaits
  push Not at hwaits
  have hleft : ∀ n, a ∉ batch n := by
    intro n htaken
    exact h.leaves n a htaken ha (hwaits (n + 1))
  have hcard : ∀ n, (ahead rank waiting a n).card + n ≤ (ahead rank waiting a 0).card := by
    intro n
    induction n with
    | zero => exact Nat.le_refl _
    | succ n ih =>
        have hlt := Finset.card_lt_card
          (ahead_succ_ssubset h hlater hfew (hwaits n) (hleft n))
        omega
  have hmany := hcard ((ahead rank waiting a 0).card + 1)
  omega

end Batches

end Mvision.Library
