import Mathlib.Data.List.Sort
import Mathlib.Order.Basic

/-!
# Sorting by a comparator

`std::sort` orders a list by a comparator that is a strict weak order of its items, and says
nothing about items of equal rank; `std::stable_sort` keeps them in their order.  The first items
of a stable sort can be kept one by one: what was cut off once never comes back.
-/

namespace Mvision.Library

variable {α : Type*}

/-! ## `std::sort` -/

/-- The comparator is a strict weak order of the items. -/
structure StrictWeakOn (less : α → α → Bool) (items : List α) : Prop where
  irrefl : ∀ a ∈ items, less a a = false
  trans : ∀ a ∈ items, ∀ b ∈ items, ∀ c ∈ items,
    less a b = true → less b c = true → less a c = true
  negTrans : ∀ a ∈ items, ∀ b ∈ items, ∀ c ∈ items,
    less a b = false → less b c = false → less a c = false

/-- What `std::sort` promises. -/
structure StdSort (α : Type*) where
  sort : (α → α → Bool) → List α → List α
  perm : ∀ less items, StrictWeakOn less items → (sort less items).Perm items
  sorted : ∀ less items, StrictWeakOn less items →
    (sort less items).Pairwise fun a b => less b a = false

/-- A comparator that compares keys is a strict weak order. -/
theorem strictWeakOn_of_key {κ : Type*} [LinearOrder κ] {less : α → α → Bool} {items : List α}
    (key : α → κ) (h : ∀ a ∈ items, ∀ b ∈ items, less a b = true ↔ key a < key b) :
    StrictWeakOn less items := by
  have hnot : ∀ a ∈ items, ∀ b ∈ items, less a b = false ↔ key b ≤ key a := by
    intro a ha b hb
    rw [← Bool.not_eq_true, h a ha b hb, not_lt]
  refine ⟨?_, ?_, ?_⟩
  · intro a ha
    exact (hnot a ha a ha).mpr le_rfl
  · intro a ha b hb c hc hab hbc
    exact (h a ha c hc).mpr (((h a ha b hb).mp hab).trans ((h b hb c hc).mp hbc))
  · intro a ha b hb c hc hab hbc
    exact (hnot a ha c hc).mpr (((hnot b hb c hc).mp hbc).trans ((hnot a ha b hb).mp hab))

/-- The insertion sort keeps the contract. -/
def StdSort.insertion : StdSort α where
  sort less items := items.insertionSort fun a b => less b a = false
  perm _ items _ := List.perm_insertionSort _ items
  sorted less items h := by
    -- on the items alone the relation is total and transitive
    let among : {a // a ∈ items} → {a // a ∈ items} → Prop := fun a b => less b.1 a.1 = false
    have htotal : Std.Total among := by
      constructor
      intro a b
      cases hba : less b.1 a.1 with
      | false => exact .inl hba
      | true =>
          right
          show less a.1 b.1 = false
          by_contra hab
          have haa := h.trans a.1 a.2 b.1 b.2 a.1 a.2 (eq_true_of_ne_false hab) hba
          rw [h.irrefl a.1 a.2] at haa
          cases haa
    have htrans : IsTrans _ among := by
      constructor
      intro a b c hab hbc
      exact h.negTrans c.1 c.2 b.1 b.2 a.1 a.2 hbc hab
    have hmap : (items.attach.insertionSort among).map Subtype.val =
        items.insertionSort fun a b => less b a = false := by
      have hrel : ∀ a ∈ items.attach, ∀ b ∈ items.attach,
          among a b ↔ less b.val a.val = false := fun _ _ _ _ => Iff.rfl
      rw [List.map_insertionSort among (fun a b => less b a = false) _ _ hrel,
        List.attach_map_subtype_val]
    rw [← hmap, List.pairwise_map]
    exact List.pairwise_insertionSort among items.attach

/-! ## Ranks -/

section Ranks

variable {β : Type*} [LinearOrder β]

/-- In a descending list the items that reach a value are the first ones. -/
theorem le_getElem_iff {items : List β} (h : items.Pairwise (· ≥ ·)) (value : β) (rank : Nat)
    (hrank : rank < items.length) :
    value ≤ items[rank] ↔ rank < items.countP fun item => decide (value ≤ item) := by
  induction items generalizing rank with
  | nil => exact absurd hrank (Nat.not_lt_zero rank)
  | cons item items ih =>
      obtain ⟨hfirst, hrest⟩ := List.pairwise_cons.mp h
      by_cases hle : value ≤ item
      · rw [List.countP_cons_of_pos (by exact decide_eq_true hle)]
        cases rank with
        | zero => exact iff_of_true hle (Nat.succ_pos _)
        | succ rank =>
            rw [List.getElem_cons_succ, Nat.succ_lt_succ_iff]
            exact ih hrest rank (Nat.lt_of_succ_lt_succ hrank)
      · -- no later item reaches the value either
        have hnone : ∀ other ∈ item :: items, ¬ value ≤ other := by
          intro other hother hvalue
          rcases List.mem_cons.mp hother with rfl | hmem
          · exact hle hvalue
          · exact hle (hvalue.trans (hfirst other hmem))
        have hzero : (item :: items).countP (fun item => decide (value ≤ item)) = 0 := by
          rw [List.countP_eq_zero]
          intro other hother
          rw [decide_eq_true_eq]
          exact hnone other hother
        rw [hzero]
        exact iff_of_false (hnone _ (List.getElem_mem hrank)) (Nat.not_lt_zero rank)

/-- A descending list in which more items reach every value is greater at every rank. -/
theorem getElem_le_of_countP {items items' : List β} (h : items.Pairwise (· ≥ ·))
    (h' : items'.Pairwise (· ≥ ·))
    (hcount : ∀ value, items.countP (fun item => decide (value ≤ item)) ≤
      items'.countP fun item => decide (value ≤ item))
    (rank : Nat) (hrank : rank < items.length) :
    ∃ hrank' : rank < items'.length, items[rank] ≤ items'[rank] := by
  have hlt := (le_getElem_iff h items[rank] rank hrank).mp le_rfl
  have hlt' := hlt.trans_le (hcount items[rank])
  have hrank' : rank < items'.length := hlt'.trans_le List.countP_le_length
  exact ⟨hrank', (le_getElem_iff h' _ rank hrank').mpr hlt'⟩

end Ranks

/-! ## `std::stable_sort` -/

section Stable

variable (r : α → α → Prop) [DecidableRel r]

/-- Put an item behind all items that may stand before it. -/
def insertLast (x : α) : List α → List α
  | [] => [x]
  | a :: rest => if r a x then a :: insertLast x rest else x :: a :: rest

variable {r}

theorem orderedInsert_insertLast (htotal : ∀ a b, r a b ∨ r b a)
    (htrans : ∀ a b c, r a b → r b c → r a c) (a x : α) (items : List α) :
    (insertLast r x items).orderedInsert r a = insertLast r x (items.orderedInsert r a) := by
  induction items with
  | nil =>
      by_cases hax : r a x
      · simp [insertLast, hax]
      · simp [insertLast, hax]
  | cons b rest ih =>
      by_cases hbx : r b x
      · by_cases hab : r a b
        · have hax := htrans a b x hab hbx
          simp [insertLast, hbx, hab, hax]
        · simp [insertLast, hbx, hab, ih]
      · by_cases hab : r a b
        · by_cases hax : r a x
          · simp [insertLast, hbx, hab, hax]
          · simp [insertLast, hbx, hab, hax]
        · have hax : ¬ r a x := by
            intro hax
            exact hbx (htrans b a x ((htotal a b).resolve_left hab) hax)
          simp [insertLast, hbx, hab, hax]

/-- One more item at the end goes behind those that may stand before it. -/
theorem insertionSort_append_singleton (htotal : ∀ a b, r a b ∨ r b a)
    (htrans : ∀ a b c, r a b → r b c → r a c) (items : List α) (x : α) :
    (items ++ [x]).insertionSort r = insertLast r x (items.insertionSort r) := by
  induction items with
  | nil => rfl
  | cons a items ih =>
      rw [List.cons_append, List.insertionSort_cons, ih, orderedInsert_insertLast htotal htrans,
        List.insertionSort_cons]

theorem take_insertLast_take (x : α) (n : Nat) (items : List α) :
    (insertLast r x (items.take n)).take n = (insertLast r x items).take n := by
  induction n generalizing items with
  | zero => rfl
  | succ n ih =>
      cases items with
      | nil => rfl
      | cons a rest =>
          rw [List.take_succ_cons]
          unfold insertLast
          split
          · rw [List.take_succ_cons, List.take_succ_cons, ih]
          · rw [List.take_succ_cons, List.take_succ_cons]
            congr 1
            cases n with
            | zero => rfl
            | succ n => rw [List.take_succ_cons, List.take_succ_cons, List.take_take,
                Nat.min_eq_left (Nat.le_succ n)]

/-- The first items of a stable sort, kept one item at a time. -/
theorem take_insertionSort_take (htotal : ∀ a b, r a b ∨ r b a)
    (htrans : ∀ a b c, r a b → r b c → r a c) (n : Nat) (items : List α) (x : α) :
    (((items.insertionSort r).take n ++ [x]).insertionSort r).take n =
      ((items ++ [x]).insertionSort r).take n := by
  have hsortedAll : (items.insertionSort r).Pairwise r := by
    have ht : Std.Total r := ⟨htotal⟩
    have htr : IsTrans α r := ⟨htrans⟩
    exact List.pairwise_insertionSort r items
  have hsorted := hsortedAll.sublist (List.take_sublist n _)
  rw [insertionSort_append_singleton htotal htrans, insertionSort_append_singleton htotal htrans,
    hsorted.insertionSort_eq, take_insertLast_take]

end Stable

/-- `std::stable_sort`: an item goes before the later ones that are not less. -/
def stableSort (less : α → α → Bool) (items : List α) : List α :=
  items.insertionSort fun a b => less b a = false

section StableSort

variable {less : α → α → Bool} {items : List α}

theorem stableSort_perm (less : α → α → Bool) (items : List α) :
    (stableSort less items).Perm items :=
  List.perm_insertionSort _ _

variable {κ : Type*} [LinearOrder κ] {key : α → κ}

/-- Sorting by a comparator of keys is sorting by the keys. -/
theorem stableSort_eq (h : ∀ a ∈ items, ∀ b ∈ items, less a b = true ↔ key a < key b) :
    stableSort less items = items.insertionSort fun a b => key a ≤ key b := by
  have hrel : ∀ a ∈ items, ∀ b ∈ items, less b a = false ↔ key a ≤ key b := by
    intro a ha b hb
    rw [← Bool.not_eq_true, h b hb a ha, not_lt]
  have hmap := List.map_insertionSort (fun a b => less b a = false) (fun a b => key a ≤ key b) id
    items hrel
  rwa [List.map_id, List.map_id] at hmap

theorem pairwise_stableSort (h : ∀ a ∈ items, ∀ b ∈ items, less a b = true ↔ key a < key b) :
    (stableSort less items).Pairwise fun a b => key a ≤ key b := by
  rw [stableSort_eq h]
  have htotal : Std.Total fun a b => key a ≤ key b := ⟨fun a b => le_total (key a) (key b)⟩
  have htrans : IsTrans α fun a b => key a ≤ key b := ⟨fun _ _ _ => le_trans⟩
  exact List.pairwise_insertionSort _ items

/-- The first items of the sorted list, kept one item at a time. -/
theorem take_stableSort_take {x : α}
    (h : ∀ a ∈ items ++ [x], ∀ b ∈ items ++ [x], less a b = true ↔ key a < key b) (n : Nat) :
    (stableSort less ((stableSort less items).take n ++ [x])).take n =
      (stableSort less (items ++ [x])).take n := by
  have hitems : ∀ a ∈ items, ∀ b ∈ items, less a b = true ↔ key a < key b := by
    intro a ha b hb
    exact h a (List.mem_append_left _ ha) b (List.mem_append_left _ hb)
  have hkept : ∀ a ∈ (stableSort less items).take n ++ [x], a ∈ items ++ [x] := by
    intro a ha
    rcases List.mem_append.mp ha with hold | hnew
    · exact List.mem_append_left _ ((stableSort_perm _ _).mem_iff.mp (List.mem_of_mem_take hold))
    · exact List.mem_append_right _ hnew
  rw [stableSort_eq h, stableSort_eq fun a ha b hb => h a (hkept a ha) b (hkept b hb),
    stableSort_eq hitems]
  exact take_insertionSort_take (fun a b => le_total (key a) (key b))
    (fun _ _ _ => le_trans) n items x

end StableSort

end Mvision.Library
