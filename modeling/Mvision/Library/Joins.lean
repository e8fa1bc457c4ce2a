import Mathlib.Data.List.Sort
import Mathlib.Order.Basic
import Mathlib.Tactic.Common

/-!
# Answers put to the questions they answer

Rows come in any order, some of them for nobody.  They are sorted by key, and
each one is put to the item that has its key.  When every item has a row, and
no two rows have one key, the pairs are the items in their own order.
-/

namespace Mvision.Library

variable {ρ β κ : Type*} [LinearOrder κ] {key : ρ → κ} {tag : β → κ} {rows : List ρ}
  {items : List β}

instance keyTotal (key : ρ → κ) : Std.Total fun a b => key a ≤ key b :=
  ⟨fun a b => le_total (key a) (key b)⟩

instance keyTrans (key : ρ → κ) : IsTrans ρ fun a b => key a ≤ key b :=
  ⟨fun _ _ _ => le_trans⟩

/-- The rows in the order of their keys, each with the item that has its key. -/
def joinByKey (key : ρ → κ) (tag : β → κ) (rows : List ρ) (items : List β) : List (β × ρ) :=
  (rows.insertionSort fun a b => key a ≤ key b).filterMap fun row =>
    (items.find? fun item => tag item = key row).map (·, row)

theorem tag_of_find? {k : κ} {item : β}
    (h : (items.find? fun other => tag other = k) = some item) : item ∈ items ∧ tag item = k :=
  ⟨List.mem_of_find?_eq_some h, by simpa using List.find?_some h⟩

theorem mem_joinByKey {p : β × ρ} (h : p ∈ joinByKey key tag rows items) :
    p.1 ∈ items ∧ p.2 ∈ rows ∧ tag p.1 = key p.2 := by
  obtain ⟨row, hrow, hp⟩ := List.mem_filterMap.mp h
  obtain ⟨item, hitem, rfl⟩ := Option.map_eq_some_iff.mp hp
  exact ⟨(tag_of_find? hitem).1, (List.mem_insertionSort _).mp hrow, (tag_of_find? hitem).2⟩

/-- Sorted rows with distinct keys have rising keys. -/
theorem pairwise_lt_of_nodup (h : (rows.map key).Nodup) :
    (rows.insertionSort fun a b => key a ≤ key b).Pairwise fun a b => key a < key b := by
  have hnodup : ((rows.insertionSort fun a b => key a ≤ key b).map key).Nodup :=
    ((List.perm_insertionSort _ rows).map key).nodup_iff.mpr h
  have hle := List.pairwise_insertionSort (fun a b => key a ≤ key b) rows
  have hne := List.pairwise_map.mp hnodup
  exact hle.imp₂ (fun _ _ hab hab' => lt_of_le_of_ne hab hab') hne

theorem pairwise_joinByKey (h : (rows.map key).Nodup) :
    ((joinByKey key tag rows items).map Prod.fst).Pairwise fun a b => tag a < tag b := by
  rw [List.pairwise_map]
  apply (pairwise_lt_of_nodup h).filterMap
  intro a a' hlt p hp p' hp'
  obtain ⟨item, hitem, rfl⟩ := Option.map_eq_some_iff.mp hp
  obtain ⟨item', hitem', rfl⟩ := Option.map_eq_some_iff.mp hp'
  show tag item < tag item'
  rw [(tag_of_find? hitem).2, (tag_of_find? hitem').2]
  exact hlt

theorem eq_of_tag_eq (h : items.Pairwise fun a b => tag a < tag b) {a b : β} (ha : a ∈ items)
    (hb : b ∈ items) (hab : tag a = tag b) : a = b := by
  have hnodup : (items.map tag).Nodup := List.pairwise_map.mpr (h.imp ne_of_lt)
  exact List.inj_on_of_nodup_map hnodup ha hb hab

/-- Every item gets its row. -/
theorem map_fst_joinByKey (hitems : items.Pairwise fun a b => tag a < tag b)
    (hrows : (rows.map key).Nodup) (hall : ∀ item ∈ items, ∃ row ∈ rows, key row = tag item) :
    (joinByKey key tag rows items).map Prod.fst = items := by
  have hjoin : ((joinByKey key tag rows items).map Prod.fst).Pairwise fun a b => tag a < tag b :=
    pairwise_joinByKey hrows
  have hmem : ∀ item, item ∈ (joinByKey key tag rows items).map Prod.fst ↔ item ∈ items := by
    intro item
    constructor
    · intro h
      obtain ⟨p, hp, rfl⟩ := List.mem_map.mp h
      exact (mem_joinByKey hp).1
    · intro hitem
      obtain ⟨row, hrow, hkey⟩ := hall item hitem
      have hfind : (items.find? fun other => tag other = key row) = some item := by
        cases hfind : items.find? fun other => tag other = key row with
        | none =>
            have := List.find?_eq_none.mp hfind item hitem
            exact absurd hkey.symm (by simpa using this)
        | some other =>
            obtain ⟨hother, htag⟩ := tag_of_find? hfind
            rw [eq_of_tag_eq hitems hother hitem (htag.trans hkey)]
      refine List.mem_map.mpr ⟨(item, row), List.mem_filterMap.mpr ⟨row, ?_, ?_⟩, rfl⟩
      · exact (List.mem_insertionSort _).mpr hrow
      · rw [hfind]
        rfl
  have hperm : ((joinByKey key tag rows items).map Prod.fst).Perm items := by
    apply (List.perm_ext_iff_of_nodup ?_ ?_).mpr hmem
    · exact hjoin.imp fun hlt heq => absurd (congrArg tag heq) (ne_of_lt hlt)
    · exact hitems.imp fun hlt heq => absurd (congrArg tag heq) (ne_of_lt hlt)
  refine List.Perm.eq_of_pairwise ?_ hjoin hitems hperm
  exact fun a b _ _ hab hba => absurd (lt_trans hab hba) (lt_irrefl _)

end Mvision.Library
