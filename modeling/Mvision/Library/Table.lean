import Mathlib.Data.List.Nodup
import Mathlib.Tactic.Common

/-!
# Tables with a primary key

A table is a list of rows whose keys are pairwise distinct.  The list order is
the physical row order, which no statement may depend on beyond breaking ties.
Updates act on rows through functions that keep the key, so that the primary
key constraint is part of the type and never an assumption.
-/

namespace Mvision.Library

/-- Rows with pairwise distinct keys. -/
structure Table {κ ρ : Type*} (key : ρ → κ) where
  rows : List ρ
  nodup : (rows.map key).Nodup

namespace Table

variable {κ ρ : Type*} {key : ρ → κ}

@[ext] theorem ext {t u : Table key} (h : t.rows = u.rows) : t = u := by
  cases t; cases u; cases h; rfl

instance [DecidableEq ρ] : DecidableEq (Table key) := fun t u =>
  decidable_of_iff (t.rows = u.rows) ⟨ext, congrArg rows⟩

def empty : Table key := ⟨[], List.nodup_nil⟩

/-- Apply a key-preserving function to every row. -/
def mapRows (t : Table key) (f : ρ → ρ) (hf : ∀ r, key (f r) = key r) : Table key where
  rows := t.rows.map f
  nodup := by
    have : key ∘ f = key := funext hf
    rw [List.map_map, this]
    exact t.nodup

@[simp] theorem mapRows_rows (t : Table key) (f : ρ → ρ) (hf) :
    (t.mapRows f hf).rows = t.rows.map f := rfl

theorem mapRows_keys (t : Table key) (f : ρ → ρ) (hf) :
    (t.mapRows f hf).rows.map key = t.rows.map key := by
  rw [mapRows_rows, List.map_map]
  exact List.map_congr_left fun r _ => hf r

theorem mem_mapRows {t : Table key} {f : ρ → ρ} {hf} {r' : ρ} :
    r' ∈ (t.mapRows f hf).rows ↔ ∃ r ∈ t.rows, f r = r' := by
  simp

/-- `UPDATE ... WHERE p`. -/
def updateWhere (t : Table key) (p : ρ → Bool) (f : ρ → ρ) (hf : ∀ r, key (f r) = key r) :
    Table key :=
  t.mapRows (fun r => if p r then f r else r) (by
    intro r
    by_cases h : p r = true
    · simp [h, hf]
    · simp [h])

/-- `RETURNING`: whether an `UPDATE ... WHERE p` found a row. -/
def anyWhere (t : Table key) (p : ρ → Bool) : Bool := t.rows.any p

theorem updateWhere_rows (t : Table key) (p : ρ → Bool) (f : ρ → ρ) (hf) :
    (t.updateWhere p f hf).rows = t.rows.map (fun r => if p r then f r else r) := rfl

theorem anyWhere_eq_false_iff {t : Table key} {p : ρ → Bool} :
    t.anyWhere p = false ↔ ∀ r ∈ t.rows, p r = false := by
  simp [anyWhere]

/-- An update that finds no row changes nothing. -/
theorem updateWhere_eq_self {t : Table key} {p : ρ → Bool} {f : ρ → ρ} {hf}
    (h : t.anyWhere p = false) : t.updateWhere p f hf = t := by
  apply ext
  rw [updateWhere_rows]
  refine (List.map_congr_left ?_).trans (List.map_id _)
  intro r hr
  simp [anyWhere_eq_false_iff.mp h r hr]

theorem eq_of_mem {t : Table key} {r r' : ρ} (hr : r ∈ t.rows) (hr' : r' ∈ t.rows)
    (hk : key r = key r') : r = r' :=
  List.inj_on_of_nodup_map t.nodup hr hr' hk

variable [DecidableEq κ]

/-- The row with primary key `k`. -/
def get (t : Table key) (k : κ) : Option ρ := t.rows.find? (fun r => key r = k)

/-- Rewrite the row with primary key `k`. -/
def update (t : Table key) (k : κ) (f : ρ → ρ) (hf : ∀ r, key (f r) = key r) :
    Table key :=
  t.mapRows (fun r => if key r = k then f r else r) (by
    intro r
    by_cases h : key r = k
    · simp [h, hf]
    · simp [h])

/-- Add a row; a row whose key is taken is refused by the key constraint. -/
def insert (t : Table key) (r : ρ) : Table key :=
  if h : key r ∈ t.rows.map key then t
  else ⟨t.rows ++ [r], by
    rw [List.map_append, List.nodup_append]
    refine ⟨t.nodup, by simp, ?_⟩
    intro a ha b hb
    have : b = key r := by simpa using hb
    rintro rfl
    exact h (this ▸ ha)⟩

theorem update_rows (t : Table key) (k : κ) (f : ρ → ρ) (hf) :
    (t.update k f hf).rows = t.rows.map (fun r => if key r = k then f r else r) := rfl

theorem insert_rows {t : Table key} {r : ρ} (h : key r ∉ t.rows.map key) :
    (t.insert r).rows = t.rows ++ [r] := by
  simp [insert, h]

theorem insert_eq_self {t : Table key} {r : ρ} (h : key r ∈ t.rows.map key) :
    t.insert r = t := by
  simp [insert, h]

theorem get_eq_some_iff {t : Table key} {k : κ} {r : ρ} :
    t.get k = some r ↔ r ∈ t.rows ∧ key r = k := by
  constructor
  · intro h
    exact ⟨List.mem_of_find?_eq_some h, by simpa using List.find?_some h⟩
  · rintro ⟨hr, rfl⟩
    cases hf : t.get (key r) with
    | none =>
        have := List.find?_eq_none.mp hf r hr
        simp at this
    | some r' =>
        have hr' : r' ∈ t.rows := List.mem_of_find?_eq_some hf
        have hk : key r' = key r := by simpa using List.find?_some hf
        rw [eq_of_mem hr' hr hk]

theorem get_eq_none_iff {t : Table key} {k : κ} :
    t.get k = none ↔ ∀ r ∈ t.rows, key r ≠ k := by
  simp [get, List.find?_eq_none]

theorem mem_update {t : Table key} {k : κ} {f : ρ → ρ} {hf} {r' : ρ} :
    r' ∈ (t.update k f hf).rows ↔
      (r' ∈ t.rows ∧ key r' ≠ k) ∨ ∃ r ∈ t.rows, key r = k ∧ f r = r' := by
  rw [update_rows, List.mem_map]
  constructor
  · rintro ⟨r, hr, rfl⟩
    by_cases h : key r = k
    · exact Or.inr ⟨r, hr, h, by simp [h]⟩
    · exact Or.inl (by simpa [h] using hr)
  · rintro (⟨hr, h⟩ | ⟨r, hr, h, rfl⟩)
    · exact ⟨r', hr, by simp [h]⟩
    · exact ⟨r, hr, by simp [h]⟩

theorem mem_insert {t : Table key} {r r' : ρ} (h : r' ∈ (t.insert r).rows) :
    r' ∈ t.rows ∨ (r' = r ∧ key r ∉ t.rows.map key) := by
  by_cases hk : key r ∈ t.rows.map key
  · rw [insert_eq_self hk] at h
    exact Or.inl h
  · rw [insert_rows hk, List.mem_append, List.mem_singleton] at h
    exact h.imp_right fun he => ⟨he, hk⟩

/-- A row with the key is there after an insert, a new one or one that was there before. -/
theorem exists_mem_insert (t : Table key) (r : ρ) : ∃ r' ∈ (t.insert r).rows, key r' = key r := by
  by_cases hk : key r ∈ t.rows.map key
  · rw [insert_eq_self hk]
    exact List.mem_map.mp hk
  · rw [insert_rows hk]
    exact ⟨r, by simp, rfl⟩

theorem get_mapRows {t : Table key} {f : ρ → ρ} {hf} {k : κ} :
    (t.mapRows f hf).get k = (t.get k).map f := by
  cases h : t.get k with
  | some r =>
      rw [get_eq_some_iff] at h
      rw [Option.map_some, get_eq_some_iff, mem_mapRows]
      exact ⟨⟨r, h.1, rfl⟩, (hf r).trans h.2⟩
  | none =>
      rw [get_eq_none_iff] at h
      rw [Option.map_none, get_eq_none_iff]
      intro r' hr'
      obtain ⟨r, hr, rfl⟩ := mem_mapRows.mp hr'
      exact hf r ▸ h r hr

/-- Updating the row of key `k` changes what `get` finds at `k` only. -/
theorem get_update {t : Table key} {k j : κ} {f : ρ → ρ} {hf} :
    (t.update k f hf).get j = if j = k then (t.get j).map f else t.get j := by
  rw [update, get_mapRows]
  cases h : t.get j with
  | none => simp
  | some r =>
      obtain ⟨-, rfl⟩ := get_eq_some_iff.mp h
      by_cases hk : key r = k <;> simp [hk]

theorem get_insert_of_ne {t : Table key} {r : ρ} {k : κ} (hk : key r ≠ k) :
    (t.insert r).get k = t.get k := by
  by_cases h : key r ∈ t.rows.map key
  · rw [insert_eq_self h]
  · unfold get
    rw [insert_rows h, List.find?_append]
    simp [hk]

theorem get_insert_of_some {t : Table key} {r r' : ρ} {k : κ}
    (h : t.get k = some r') : (t.insert r).get k = some r' := by
  by_cases hk : key r = k
  · rw [insert_eq_self, h]
    obtain ⟨hr', hk'⟩ := get_eq_some_iff.mp h
    exact List.mem_map.mpr ⟨r', hr', hk'.trans hk.symm⟩
  · rw [get_insert_of_ne hk, h]

/-- An update that fixes the addressed row leaves the table unchanged. -/
theorem update_eq_self {t : Table key} {k : κ} {f : ρ → ρ} {hf}
    (h : ∀ r ∈ t.rows, key r = k → f r = r) : t.update k f hf = t := by
  apply ext
  rw [update_rows]
  refine (List.map_congr_left ?_).trans (List.map_id _)
  intro r hr
  by_cases hk : key r = k
  · simp [hk, h r hr hk]
  · simp [hk]

/-- Rewrite a row read before, unless it satisfies `p`. -/
def updateUnless (t : Table key) (p : ρ → Bool) (f : ρ → ρ) (hf : ∀ r, key (f r) = key r) :
    Option ρ → Table key
  | none => t
  | some r => if p r then t else t.update (key r) f hf

theorem updateUnless_rows [DecidableEq ρ] {t : Table key} {p : ρ → Bool} {f : ρ → ρ} {hf}
    {o : Option ρ} (h : ∀ r, o = some r → r ∈ t.rows) :
    (t.updateUnless p f hf o).rows =
      t.rows.map (fun r => if o = some r ∧ p r = false then f r else r) := by
  have hself : t.rows.map (fun r => r) = t.rows := List.map_id _
  cases o with
  | none => simp [updateUnless]
  | some read =>
      by_cases hp : p read = true
      · rw [updateUnless, if_pos hp]
        refine hself.symm.trans (List.map_congr_left ?_)
        intro r _
        rw [if_neg]
        rintro ⟨he, hno⟩
        rw [← Option.some.inj he, hp] at hno
        cases hno
      · rw [updateUnless, if_neg hp, update_rows]
        refine List.map_congr_left ?_
        intro r hr
        by_cases hk : key r = key read
        · obtain rfl : r = read := eq_of_mem hr (h read rfl) hk
          simp [hp]
        · have hne : read ≠ r := fun he => hk (he ▸ rfl)
          simp [hk, hne]

/-! ## Insertion order

The same rows as a dictionary that remembers the order of insertion. -/

/-- Put `r` in the place of the row with its key. -/
def replace (t : Table key) (r : ρ) : Table key :=
  t.mapRows (fun r' => if key r' = key r then r else r') (by
    intro r'
    by_cases h : key r' = key r
    · rw [if_pos h, h]
    · rw [if_neg h])

/-- `d[key] = r`: in the place of the row with its key, or at the end. -/
def put (t : Table key) (r : ρ) : Table key :=
  if t.get (key r) = none then t.insert r else t.replace r

/-- All rows but the oldest. -/
def tail (t : Table key) : Table key where
  rows := t.rows.tail
  nodup := by
    rw [List.map_tail]
    exact t.nodup.tail

theorem get_replace_self {t : Table key} {r r' : ρ} (h : t.get (key r) = some r') :
    (t.replace r).get (key r) = some r := by
  rw [replace, get_mapRows, h, Option.map_some, if_pos (get_eq_some_iff.mp h).2]

theorem get_replace_of_ne {t : Table key} {r : ρ} {k : κ} (hk : k ≠ key r) :
    (t.replace r).get k = t.get k := by
  rw [replace, get_mapRows]
  cases h : t.get k with
  | none => rfl
  | some r' =>
      obtain ⟨-, rfl⟩ := get_eq_some_iff.mp h
      rw [Option.map_some, if_neg hk]

theorem get_insert_self {t : Table key} {r : ρ} (h : t.get (key r) = none) :
    (t.insert r).get (key r) = some r := by
  have hnot : key r ∉ t.rows.map key := by
    rw [List.mem_map]
    rintro ⟨r', hr', hk⟩
    exact get_eq_none_iff.mp h r' hr' hk
  rw [get_eq_some_iff, insert_rows hnot]
  exact ⟨by simp, rfl⟩

@[simp] theorem get_put_self (t : Table key) (r : ρ) : (t.put r).get (key r) = some r := by
  unfold put
  cases h : t.get (key r) with
  | none => rw [if_pos rfl, get_insert_self h]
  | some r' => rw [if_neg (by simp), get_replace_self h]

theorem get_put_of_ne {t : Table key} {r : ρ} {k : κ} (hk : k ≠ key r) :
    (t.put r).get k = t.get k := by
  unfold put
  split
  · exact get_insert_of_ne hk.symm
  · exact get_replace_of_ne hk

/-- A row after a `put`: the new one, or one of another key. -/
theorem mem_put {t : Table key} {r r' : ρ} (h : r' ∈ (t.put r).rows) :
    r' = r ∨ (r' ∈ t.rows ∧ key r' ≠ key r) := by
  unfold put at h
  split at h
  · rename_i hnone
    rcases mem_insert h with hold | ⟨rfl, -⟩
    · exact Or.inr ⟨hold, get_eq_none_iff.mp hnone r' hold⟩
    · exact Or.inl rfl
  · obtain ⟨row, hrow, rfl⟩ := mem_mapRows.mp h
    split
    · exact Or.inl rfl
    · rename_i hne
      exact Or.inr ⟨hrow, hne⟩

theorem get_head {t : Table key} {r : ρ} (h : t.rows.head? = some r) :
    t.get (key r) = some r :=
  get_eq_some_iff.mpr ⟨List.mem_of_head? h, rfl⟩

theorem get_tail_head {t : Table key} {r : ρ} (h : t.rows.head? = some r) :
    t.tail.get (key r) = none := by
  rw [get_eq_none_iff]
  intro r' hr' hk
  have hnd := t.nodup
  obtain ⟨rest, hrows⟩ := List.head?_eq_some_iff.mp h
  have hmem : r' ∈ rest := by
    have : r' ∈ t.rows.tail := hr'
    rwa [hrows] at this
  rw [hrows, List.map_cons, List.nodup_cons] at hnd
  exact hnd.1 (List.mem_map.mpr ⟨r', hmem, hk⟩)

theorem get_tail_of_ne {t : Table key} {r : ρ} {k : κ} (h : t.rows.head? = some r)
    (hk : key r ≠ k) : t.tail.get k = t.get k := by
  obtain ⟨rest, hrows⟩ := List.head?_eq_some_iff.mp h
  show t.rows.tail.find? _ = t.rows.find? _
  rw [hrows, List.tail_cons, List.find?_cons_of_neg]
  simpa using hk

/-! ## Taking rows out -/

/-- All rows but the one with primary key `k`. -/
def erase (t : Table key) (k : κ) : Table key where
  rows := t.rows.filter (fun r => key r ≠ k)
  nodup := t.nodup.sublist (List.filter_sublist.map key)

theorem mem_erase {t : Table key} {k : κ} {r : ρ} :
    r ∈ (t.erase k).rows ↔ r ∈ t.rows ∧ key r ≠ k := by
  simp [erase]

theorem get_erase_of_ne {t : Table key} {k j : κ} (hj : j ≠ k) :
    (t.erase k).get j = t.get j := by
  cases h : t.get j with
  | none =>
      rw [get_eq_none_iff] at h ⊢
      exact fun r hr => h r (mem_erase.mp hr).1
  | some r =>
      rw [get_eq_some_iff] at h ⊢
      exact ⟨mem_erase.mpr ⟨h.1, h.2 ▸ hj⟩, h.2⟩

/-- The row with a key, and the rows around it, which have other keys. -/
theorem exists_split {t : Table key} {k : κ} {r : ρ} (h : t.get k = some r) :
    ∃ before after, t.rows = before ++ r :: after ∧
      (∀ r' ∈ before, key r' ≠ k) ∧ ∀ r' ∈ after, key r' ≠ k := by
  obtain ⟨hr, rfl⟩ := get_eq_some_iff.mp h
  obtain ⟨before, after, hrows⟩ := List.append_of_mem hr
  have hnd := t.nodup
  rw [hrows, List.map_append, List.map_cons, List.nodup_middle, List.nodup_cons,
    ← List.map_append] at hnd
  refine ⟨before, after, hrows, fun r' hr' he => ?_, fun r' hr' he => ?_⟩
  · exact hnd.1 (he ▸ List.mem_map_of_mem (List.mem_append_left _ hr'))
  · exact hnd.1 (he ▸ List.mem_map_of_mem (List.mem_append_right _ hr'))

theorem perm_erase {t : Table key} {k : κ} {r : ρ} (h : t.get k = some r) :
    t.rows.Perm (r :: (t.erase k).rows) := by
  obtain ⟨before, after, hrows, hbefore, hafter⟩ := exists_split h
  have hk := (get_eq_some_iff.mp h).2
  have hkeep : (t.erase k).rows = before ++ after := by
    show t.rows.filter (fun r' => key r' ≠ k) = before ++ after
    rw [hrows, List.filter_append, List.filter_cons_of_neg (by simp [hk])]
    congr 1
    · exact List.filter_eq_self.mpr fun r' hr' => by simpa using hbefore r' hr'
    · exact List.filter_eq_self.mpr fun r' hr' => by simpa using hafter r' hr'
  rw [hrows, hkeep]
  exact List.perm_middle

theorem perm_replace {t : Table key} {r r' : ρ} (h : t.get (key r) = some r') :
    (r' :: (t.replace r).rows).Perm (r :: t.rows) := by
  obtain ⟨before, after, hrows, hbefore, hafter⟩ := exists_split h
  have hk := (get_eq_some_iff.mp h).2
  have hput : (t.replace r).rows = before ++ r :: after := by
    rw [replace, mapRows_rows, hrows, List.map_append, List.map_cons, if_pos hk]
    congr 1
    · exact (List.map_congr_left fun x hx => if_neg (hbefore x hx)).trans (List.map_id _)
    · congr 1
      exact (List.map_congr_left fun x hx => if_neg (hafter x hx)).trans (List.map_id _)
  rw [hrows, hput]
  refine (List.perm_middle.cons r').trans ((List.Perm.swap r r' _).trans ?_)
  exact List.perm_middle.symm.cons r

/-! ## Counting rows -/

/-- Updating one row raises the count by at most one. -/
theorem countP_update_le {t : Table key} {k : κ} {f : ρ → ρ} {hf} {p q : ρ → Bool}
    (h : ∀ r ∈ t.rows, q r = true → p r = true) :
    (t.update k f hf).rows.countP q ≤ t.rows.countP p + 1 := by
  rw [update_rows, List.countP_map]
  have hnd := t.nodup
  generalize t.rows = rows at h hnd
  induction rows with
  | nil => simp
  | cons r rows ih =>
      rw [List.map_cons, List.nodup_cons] at hnd
      obtain ⟨hr, hnd⟩ := hnd
      have hrest := ih (fun r hr => h r (List.mem_cons_of_mem _ hr)) hnd
      rw [List.countP_cons, List.countP_cons]
      by_cases hk : key r = k
      · -- the addressed row is the head, so the tail is only read through `q`
        have htail : rows.countP (q ∘ fun r => if key r = k then f r else r) ≤
            rows.countP p := by
          refine List.countP_mono_left ?_
          intro r' hr' hq
          have hne : key r' ≠ k := fun he =>
            hr (List.mem_map.mpr ⟨r', hr', he.trans hk.symm⟩)
          exact h r' (List.mem_cons_of_mem _ hr') (by simpa [hne] using hq)
        split <;> split <;> omega
      · have hhead := h r List.mem_cons_self
        simp only [Function.comp_apply, hk, if_false] at hrest ⊢
        split
        · rename_i hq
          rw [if_pos (hhead hq)]
          omega
        · split <;> omega

end Table

end Mvision.Library
