import Mathlib.Data.List.AList
import Mathlib.Data.List.FinRange

/-!
# Containers that a loop fills

A loop over indices writes one place of an array in every pass, or puts one key into a map, and
gives up as a whole at the first pass that cannot.
-/

namespace Mvision.Library

variable {ι σ α K V : Type*}

section Guard

variable (fits : ι → Bool) (next : σ → ι → σ)

/-- A pass that goes on only with an index that fits. -/
def guarded (state : σ) (index : ι) : Option σ :=
  if fits index then some (next state index) else none

/-- Such a loop is the loop without the test, if every index fits. -/
theorem foldlM_guarded (indices : List ι) (state : σ) :
    indices.foldlM (guarded fits next) state =
      if indices.all fits then some (indices.foldl next state) else none := by
  induction indices generalizing state with
  | nil => rfl
  | cons index indices ih =>
      rw [List.foldlM_cons, List.all_cons, List.foldl_cons, guarded]
      cases fits index with
      | false => rfl
      | true =>
          rw [if_pos rfl, Bool.true_and]
          exact ih _

end Guard

section Array

variable {n : Nat} (value : Fin n → α)

/-- What stands in the places that the loop has been to. -/
theorem getElem_foldl_set (indices : List (Fin n)) (array : Vector α n) (place : Fin n) :
    (indices.foldl (fun array index => array.set index (value index)) array)[place] =
      if place ∈ indices then value place else array[place] := by
  induction indices generalizing array with
  | nil => rw [List.foldl_nil, if_neg List.not_mem_nil]
  | cons index indices ih =>
      rw [List.foldl_cons, ih]
      by_cases hrest : place ∈ indices
      · rw [if_pos hrest, if_pos (List.mem_cons_of_mem _ hrest)]
      · rw [if_neg hrest, Fin.getElem_fin, Vector.getElem_set]
        by_cases hplace : place = index
        · rw [hplace, if_pos rfl, if_pos List.mem_cons_self]
        · have hne : ¬ (index : Nat) = place := fun h => hplace (Fin.ext h.symm)
          have hmem : place ∉ index :: indices := by
            rw [List.mem_cons, not_or]
            exact ⟨hplace, hrest⟩
          rw [if_neg hne, if_neg hmem, Fin.getElem_fin]

/-- A loop over all places leaves nothing of the array it started with. -/
theorem foldl_set_finRange (array : Vector α n) :
    (List.finRange n).foldl (fun array index => array.set index (value index)) array =
      Vector.ofFn value := by
  refine Vector.ext fun place hplace => ?_
  have h := getElem_foldl_set value (List.finRange n) array ⟨place, hplace⟩
  rw [if_pos (List.mem_finRange _)] at h
  rw [Vector.getElem_ofFn]
  exact h

end Array

section Emplace

variable [DecidableEq K]

/-- Insertion that fails at a key that is there. -/
def emplace (map : AList fun _ : K => V) (key : K) (value : V) : Option (AList fun _ : K => V) :=
  if key ∈ map then none else some (map.insert key value)

theorem emplace_eq_some {map result : AList fun _ : K => V} {key : K} {value : V} :
    emplace map key value = some result ↔ result.entries = ⟨key, value⟩ :: map.entries := by
  unfold emplace
  constructor
  · intro h
    split at h
    · cases h
    · rename_i hnew
      obtain rfl := Option.some.inj h
      exact AList.entries_insert_of_notMem hnew
  · intro h
    -- the keys of the result are distinct, so the key is not in the map
    have hnodup := result.nodupKeys
    rw [h, List.nodupKeys_cons] at hnodup
    have hnew : key ∉ map := hnodup.1
    rw [if_neg hnew, Option.some.injEq]
    refine AList.ext ?_
    rw [AList.entries_insert_of_notMem hnew, h]

/-- A pass that puts the entry of an index into the map. -/
def emplaceEntry (entry : ι → Option (Σ _ : K, V)) (map : AList fun _ : K => V) (index : ι) :
    Option (AList fun _ : K => V) := do
  let ⟨key, value⟩ ← entry index
  emplace map key value

/-- The loop ends with a map iff that is the map of all entries; its keys are distinct because
it is a map. -/
theorem foldlM_emplaceEntry {entry : ι → Option (Σ _ : K, V)} {indices : List ι}
    {map result : AList fun _ : K => V} :
    indices.foldlM (emplaceEntry entry) map = some result ↔
      ∃ entries : List (Σ _ : K, V), indices.map entry = entries.map some ∧
        result.entries = entries.reverse ++ map.entries := by
  -- a new entry comes to the front, so the entries stand in reverse
  induction indices generalizing map with
  | nil =>
      constructor
      · intro h
        obtain rfl := Option.some.inj h
        exact ⟨[], rfl, rfl⟩
      · rintro ⟨entries, hentries, hresult⟩
        obtain rfl := List.map_eq_nil_iff.mp hentries.symm
        exact congrArg some (AList.ext hresult.symm)
  | cons index indices ih =>
      rw [List.foldlM_cons, List.map_cons]
      constructor
      · intro h
        obtain ⟨next, hnext, hrest⟩ := Option.bind_eq_some_iff.mp h
        obtain ⟨⟨key, value⟩, hentry, hemplace⟩ := Option.bind_eq_some_iff.mp hnext
        obtain ⟨entries, hentries, hresult⟩ := ih.mp hrest
        refine ⟨⟨key, value⟩ :: entries, ?_, ?_⟩
        · rw [hentry, hentries, List.map_cons]
        · rw [hresult, emplace_eq_some.mp hemplace, List.reverse_cons, List.append_assoc,
            List.singleton_append]
      · rintro ⟨_ | ⟨⟨key, value⟩, entries⟩, hentries, hresult⟩
        · cases hentries
        · rw [List.map_cons, List.cons.injEq] at hentries
          rw [List.reverse_cons, List.append_assoc, List.singleton_append] at hresult
          -- the rest of the loop starts from a map with one entry more
          have hnodup := result.nodupKeys
          rw [hresult] at hnodup
          have hnew : (⟨key, value⟩ :: map.entries : List (Σ _ : K, V)).NodupKeys :=
            hnodup.sublist (List.sublist_append_right _ _)
          have hemplace : emplaceEntry entry map index = some ⟨_, hnew⟩ := by
            rw [emplaceEntry, hentries.1]
            exact emplace_eq_some.mpr rfl
          rw [hemplace]
          exact ih.mpr ⟨entries, hentries.2, hresult⟩

end Emplace

end Mvision.Library
