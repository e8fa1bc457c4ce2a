import Mvision.Library.Query

/-!
# Ledgers of numbered attempts

Owners `ι` make numbered attempts; a row of the ledger is one attempt, open
until it is closed.  The ledger is in order when the attempts of every owner
are numbered from one without gaps and only the latest of them may be open.
Rewriting rows without reopening any keeps that order, and so does adding the
next attempt once all earlier ones are closed.
-/

namespace Mvision.Library

/-- How a row presents its attempt. -/
structure Attempt (ρ : Type*) (ι : Type*) where
  owner : ρ → ι
  number : ρ → Nat
  closed : ρ → Bool

namespace Attempt

variable {ρ ι : Type*} (A : Attempt ρ ι) [DecidableEq ι]

def ofOwner (i : ι) (rows : List ρ) : List ρ := rows.filter (fun r => A.owner r = i)

/-- `WHERE owner = i ORDER BY number DESC LIMIT 1`. -/
def latest (i : ι) (rows : List ρ) : Option ρ :=
  first (fun r s => A.number s ≤ A.number r) (fun r => A.owner r = i) rows

def nextNumber (i : ι) (rows : List ρ) : Nat :=
  match A.latest i rows with
  | none => 1
  | some r => A.number r + 1

/-- Attempts are numbered in order and only the latest may be open. -/
structure Ledger (rows : List ρ) : Prop where
  numbers : ∀ i, (A.ofOwner i rows).map A.number = List.range' 1 (A.ofOwner i rows).length
  latest_open : ∀ r ∈ rows, A.closed r = false →
    A.number r = (A.ofOwner (A.owner r) rows).length

/-- What the order is for: at most one open attempt per owner, the one with
the greatest number, among numbers that run from one without gaps. -/
structure SingleActive (rows : List ρ) : Prop where
  unique : ∀ r ∈ rows, ∀ r' ∈ rows, A.owner r = A.owner r' → A.closed r = false →
    A.closed r' = false → r = r'
  greatest : ∀ r ∈ rows, A.closed r = false → ∀ r' ∈ rows, A.owner r' = A.owner r →
    A.number r' ≤ A.number r
  numbered : ∀ i, ((A.ofOwner i rows).map A.number).Perm
    (List.range' 1 (A.ofOwner i rows).length)

variable {A} {rows : List ρ} {i : ι} {r : ρ}

@[simp] theorem mem_ofOwner : r ∈ A.ofOwner i rows ↔ r ∈ rows ∧ A.owner r = i := by
  simp [ofOwner]

theorem ledger_nil : A.Ledger [] := ⟨fun _ => rfl, by simp⟩

/-! ## The latest attempt -/

instance : Std.Total (fun r s => A.number s ≤ A.number r) :=
  ⟨fun r s => le_total (A.number s) (A.number r)⟩

instance : IsTrans ρ (fun r s => A.number s ≤ A.number r) :=
  ⟨fun _ _ _ h h' => h'.trans h⟩

theorem latest_mem (h : A.latest i rows = some r) : r ∈ rows ∧ A.owner r = i := by
  obtain ⟨hr, ho⟩ := first_mem h
  exact ⟨hr, by simpa using ho⟩

theorem latest_eq_none_iff : A.latest i rows = none ↔ ∀ r ∈ rows, A.owner r ≠ i := by
  rw [latest, first_eq_none_iff]
  simp

theorem le_latest (h : A.latest i rows = some r) {r' : ρ} (hr' : r' ∈ rows)
    (ho : A.owner r' = i) : A.number r' ≤ A.number r :=
  first_le h hr' (by simpa using ho)

namespace Ledger

theorem number_mem (h : A.Ledger rows) {n : Nat} :
    (∃ r ∈ rows, A.owner r = i ∧ A.number r = n) ↔
      1 ≤ n ∧ n ≤ (A.ofOwner i rows).length := by
  have hmem : n ∈ (A.ofOwner i rows).map A.number ↔
      1 ≤ n ∧ n < 1 + (A.ofOwner i rows).length := by
    rw [h.numbers i]
    simp
  rw [List.mem_map] at hmem
  simp only [mem_ofOwner] at hmem
  constructor
  · rintro ⟨r, hr, ho, hn⟩
    have := hmem.mp ⟨r, ⟨hr, ho⟩, hn⟩
    omega
  · intro hn
    obtain ⟨r, ⟨hr, ho⟩, hn⟩ := hmem.mpr (by omega)
    exact ⟨r, hr, ho, hn⟩

theorem number_le (h : A.Ledger rows) (hr : r ∈ rows) :
    1 ≤ A.number r ∧ A.number r ≤ (A.ofOwner (A.owner r) rows).length :=
  h.number_mem.mp ⟨r, hr, rfl, rfl⟩

/-- Two attempts of one owner have different numbers. -/
theorem eq_of_number (h : A.Ledger rows) {r' : ρ} (hr : r ∈ rows) (hr' : r' ∈ rows)
    (ho : A.owner r = A.owner r') (hn : A.number r = A.number r') : r = r' := by
  have hnodup : ((A.ofOwner (A.owner r) rows).map A.number).Nodup := by
    rw [h.numbers]
    exact List.nodup_range'
  exact List.inj_on_of_nodup_map hnodup (mem_ofOwner.mpr ⟨hr, rfl⟩)
    (mem_ofOwner.mpr ⟨hr', ho.symm⟩) hn

/-- The latest attempt is the one whose number counts the owner's attempts. -/
theorem latest_eq_some_iff (h : A.Ledger rows) :
    A.latest i rows = some r ↔
      r ∈ rows ∧ A.owner r = i ∧ A.number r = (A.ofOwner i rows).length := by
  have count : ∀ {r}, A.latest i rows = some r → A.number r = (A.ofOwner i rows).length := by
    intro r hl
    obtain ⟨hr, rfl⟩ := latest_mem hl
    obtain ⟨h1, hle⟩ := h.number_le hr
    obtain ⟨r', hr', ho', hn'⟩ := h.number_mem.mpr ⟨h1.trans hle, le_refl _⟩
    have := le_latest hl hr' ho'
    omega
  constructor
  · intro hl
    obtain ⟨hr, ho⟩ := latest_mem hl
    exact ⟨hr, ho, count hl⟩
  · rintro ⟨hr, ho, hn⟩
    cases hl : A.latest i rows with
    | none => exact absurd ho (latest_eq_none_iff.mp hl r hr)
    | some r' =>
        obtain ⟨hr', ho'⟩ := latest_mem hl
        rw [h.eq_of_number hr' hr (ho'.trans ho.symm) ((count hl).trans hn.symm)]

/-- An open attempt is the latest of its owner. -/
theorem latest_of_open (h : A.Ledger rows) (hr : r ∈ rows) (hc : A.closed r = false) :
    A.latest (A.owner r) rows = some r :=
  h.latest_eq_some_iff.mpr ⟨hr, rfl, h.latest_open r hr hc⟩

/-- At most one attempt of an owner is open. -/
theorem open_unique (h : A.Ledger rows) {r' : ρ} (hr : r ∈ rows) (hr' : r' ∈ rows)
    (ho : A.owner r = A.owner r') (hc : A.closed r = false) (hc' : A.closed r' = false) :
    r = r' := by
  have hlat := h.latest_of_open hr hc
  rw [ho, h.latest_of_open hr' hc'] at hlat
  exact (Option.some.inj hlat).symm

theorem nextNumber_eq (h : A.Ledger rows) (i : ι) :
    A.nextNumber i rows = (A.ofOwner i rows).length + 1 := by
  unfold nextNumber
  cases hl : A.latest i rows with
  | some r =>
      show A.number r + 1 = _
      rw [(h.latest_eq_some_iff.mp hl).2.2]
  | none =>
      have hnil : A.ofOwner i rows = [] := by
        rw [ofOwner, List.filter_eq_nil_iff]
        simpa using latest_eq_none_iff.mp hl
      simp [hnil]

/-! ## What keeps the order -/

theorem ofOwner_map {f : ρ → ρ} (hf : ∀ r ∈ rows, A.owner (f r) = A.owner r) :
    A.ofOwner i (rows.map f) = (A.ofOwner i rows).map f := by
  unfold ofOwner
  rw [List.filter_map]
  congr 1
  refine List.filter_congr ?_
  intro r hr
  simp [hf r hr]

/-- Rewriting rows in place without reopening any. -/
theorem map (h : A.Ledger rows) {f : ρ → ρ} (howner : ∀ r ∈ rows, A.owner (f r) = A.owner r)
    (hnumber : ∀ r ∈ rows, A.number (f r) = A.number r)
    (hclosed : ∀ r ∈ rows, A.closed (f r) = false → A.closed r = false) :
    A.Ledger (rows.map f) where
  numbers i := by
    rw [ofOwner_map howner, List.map_map, List.length_map, ← h.numbers i]
    refine List.map_congr_left ?_
    intro r hr
    exact hnumber r (mem_ofOwner.mp hr).1
  latest_open r' hr' hc := by
    obtain ⟨r, hr, rfl⟩ := List.mem_map.mp hr'
    rw [ofOwner_map howner, List.length_map, hnumber r hr, howner r hr]
    exact h.latest_open r hr (hclosed r hr hc)

theorem latest_map (h : A.Ledger rows) {f : ρ → ρ}
    (howner : ∀ r ∈ rows, A.owner (f r) = A.owner r)
    (hnumber : ∀ r ∈ rows, A.number (f r) = A.number r)
    (hclosed : ∀ r ∈ rows, A.closed (f r) = false → A.closed r = false) (i : ι) :
    A.latest i (rows.map f) = (A.latest i rows).map f := by
  apply Option.ext
  intro r'
  rw [(h.map howner hnumber hclosed).latest_eq_some_iff, Option.map_eq_some_iff,
    ofOwner_map howner, List.length_map]
  constructor
  · rintro ⟨hr', ho, hn⟩
    obtain ⟨r, hr, rfl⟩ := List.mem_map.mp hr'
    refine ⟨r, h.latest_eq_some_iff.mpr ⟨hr, ?_, ?_⟩, rfl⟩
    · exact (howner r hr).symm.trans ho
    · exact (hnumber r hr).symm.trans hn
  · rintro ⟨r, hl, rfl⟩
    obtain ⟨hr, ho, hn⟩ := h.latest_eq_some_iff.mp hl
    exact ⟨List.mem_map_of_mem hr, (howner r hr).trans ho, (hnumber r hr).trans hn⟩

/-- Another owner's new attempt does not matter. -/
theorem latest_append_other {new : ρ} (hi : A.owner new ≠ i) :
    A.latest i (rows ++ [new]) = A.latest i rows := by
  unfold latest first
  rw [List.filter_append]
  simp [hi]

/-- Adding the next attempt of an owner whose attempts are all closed. -/
theorem append (h : A.Ledger rows) {new : ρ}
    (hclosed : ∀ r ∈ rows, A.owner r = A.owner new → A.closed r = true)
    (hnumber : A.number new = (A.ofOwner (A.owner new) rows).length + 1) :
    A.Ledger (rows ++ [new]) := by
  have hother : ∀ i, A.owner new ≠ i → A.ofOwner i (rows ++ [new]) = A.ofOwner i rows := by
    intro i hi
    simp [ofOwner, List.filter_append, hi]
  have hsame : A.ofOwner (A.owner new) (rows ++ [new]) =
      A.ofOwner (A.owner new) rows ++ [new] := by
    simp [ofOwner, List.filter_append]
  constructor
  · intro i
    by_cases hi : A.owner new = i
    · subst hi
      rw [hsame, List.map_append, List.length_append, h.numbers, List.length_singleton,
        List.range'_concat]
      simp [hnumber, Nat.add_comm]
    · rw [hother i hi, h.numbers]
  · intro r hr hc
    rcases List.mem_append.mp hr with hr | hr
    · have hi : A.owner new ≠ A.owner r := by
        intro he
        simp [hclosed r hr he.symm] at hc
      rw [hother _ hi]
      exact h.latest_open r hr hc
    · obtain rfl := List.mem_singleton.mp hr
      rw [hsame, List.length_append, hnumber]
      rfl

theorem singleActive (h : A.Ledger rows) : A.SingleActive rows where
  unique _ hr _ hr' ho hc hc' := h.open_unique hr hr' ho hc hc'
  greatest _ hr hc _ hr' ho := le_latest (h.latest_of_open hr hc) hr' ho
  numbered i := by rw [h.numbers i]

end Ledger

end Attempt

end Mvision.Library
