import Mathlib.Data.List.Sort
import Mathlib.Tactic.Common

/-!
# Ordered selections

`first le p rows` is the answer to `SELECT ... WHERE p ORDER BY le LIMIT 1`:
the least row that satisfies `p`, ties broken by the physical order.
-/

namespace Mvision.Library

variable {ρ : Type*}

/-- `SELECT ... WHERE p ORDER BY le LIMIT 1`. -/
def first (le : ρ → ρ → Prop) [DecidableRel le] (p : ρ → Bool) (rows : List ρ) : Option ρ :=
  ((rows.filter p).insertionSort le).head?

section First

variable {le : ρ → ρ → Prop} [DecidableRel le] {p : ρ → Bool} {rows : List ρ} {r : ρ}

theorem first_mem (h : first le p rows = some r) : r ∈ rows ∧ p r = true := by
  have hsorted := List.mem_of_mem_head? (Option.mem_def.mpr h)
  have hmem := (List.mem_insertionSort le).mp hsorted
  exact ⟨List.mem_of_mem_filter hmem, List.of_mem_filter hmem⟩

theorem first_eq_none_iff : first le p rows = none ↔ ∀ r ∈ rows, p r = false := by
  rw [first, List.head?_eq_none_iff, ← List.length_eq_zero_iff, List.length_insertionSort,
    List.length_eq_zero_iff, List.filter_eq_nil_iff]
  simp

theorem first_isSome_iff : (∃ r, first le p rows = some r) ↔ ∃ r ∈ rows, p r = true := by
  rw [← Option.isSome_iff_exists, ← not_iff_not, Option.not_isSome_iff_eq_none,
    first_eq_none_iff]
  simp

variable [Std.Total le] [IsTrans ρ le]

/-- The selected row comes before every other candidate. -/
theorem first_le (h : first le p rows = some r) {r' : ρ} (hr' : r' ∈ rows)
    (hp : p r' = true) : le r r' := by
  have hsorted := List.pairwise_insertionSort le (rows.filter p)
  have hmem : r' ∈ (rows.filter p).insertionSort le :=
    (List.mem_insertionSort le).mpr (List.mem_filter.mpr ⟨hr', hp⟩)
  unfold first at h
  cases hl : (rows.filter p).insertionSort le with
  | nil => simp [hl] at h
  | cons a as =>
      obtain rfl : a = r := by simpa [hl] using h
      rw [hl] at hsorted hmem
      rcases List.mem_cons.mp hmem with rfl | htail
      · exact (Std.Total.total (r := le) r' r').elim id id
      · exact (List.pairwise_cons.mp hsorted).1 r' htail

/-- Scanning the ordered rows for the first that satisfies `q`. -/
theorem find?_sorted_le {q : ρ → Bool} (h : (rows.insertionSort le).find? q = some r)
    {r' : ρ} (hr' : r' ∈ rows) (hq : q r' = true) : le r r' := by
  obtain ⟨-, before, after, hsplit, hbefore⟩ := List.find?_eq_some_iff_append.mp h
  have hsorted := List.pairwise_insertionSort le rows
  have hmem : r' ∈ rows.insertionSort le := (List.mem_insertionSort le).mpr hr'
  rw [hsplit] at hsorted hmem
  rcases List.mem_append.mp hmem with hb | ha
  · have hno := hbefore r' hb
    simp [hq] at hno
  · rcases List.mem_cons.mp ha with rfl | htail
    · exact (Std.Total.total (r := le) r' r').elim id id
    · have hcons := (List.pairwise_append.mp hsorted).2.1
      exact (List.pairwise_cons.mp hcons).1 r' htail

end First

/-! ## Ordering by two columns -/

/-- `ORDER BY a, b`. -/
def byThen {α β : Type*} [LT α] [LE β] (a : ρ → α) (b : ρ → β) (r s : ρ) : Prop :=
  a r < a s ∨ (a r = a s ∧ b r ≤ b s)

instance {α β : Type*} [LT α] [LE β] [DecidableEq α] [DecidableLT α] [DecidableLE β]
    (a : ρ → α) (b : ρ → β) : DecidableRel (byThen a b) := fun r s =>
  inferInstanceAs (Decidable (a r < a s ∨ (a r = a s ∧ b r ≤ b s)))

section ByThen

variable {α β : Type*} [LinearOrder α] [LinearOrder β] {a : ρ → α} {b : ρ → β}

instance : Std.Total (byThen a b) where
  total r s := by
    rcases lt_trichotomy (a r) (a s) with h | h | h
    · exact Or.inl (Or.inl h)
    · exact (le_total (b r) (b s)).imp (fun hb => Or.inr ⟨h, hb⟩) fun hb => Or.inr ⟨h.symm, hb⟩
    · exact Or.inr (Or.inl h)

instance : IsTrans ρ (byThen a b) where
  trans r s t hrs hst := by
    rcases hrs with h | ⟨h, hb⟩ <;> rcases hst with h' | ⟨h', hb'⟩
    · exact Or.inl (h.trans h')
    · exact Or.inl (h'.symm ▸ h)
    · exact Or.inl (h ▸ h')
    · exact Or.inr ⟨h.trans h', hb.trans hb'⟩

end ByThen

end Mvision.Library
