import Mvision.Library.Arithmetic
import Mvision.Library.Filling

/-!
# `map_embedding_rows`

`video_pipeline.cpp` gives every object its row of the output matrix, scaled to the norm 1, and
gives up the whole map at the first row that it cannot use.
-/

namespace Mvision.Video.Native

open Mvision.Library

variable {F P : Type} (arithmetic : Arithmetic F)

/-- `std::unordered_map<const void*, std::array<float, 512>>` -/
abbrev ObjectEmbeddingMap (P F : Type*) := AList fun _ : P => Vector F 512

section Row

variable {n : Nat} (output : Nat → F) (row : Nat)

/-- A value of a row: the rows of the matrix lie one after another. -/
def rowOf (index : Fin n) : F := output (row * n + index)

/-- A pass of the loop over a row: a value, and its square in the sum. -/
def readValue (read : Vector F n × F) (index : Fin n) : Option (Vector F n × F) :=
  let value := output (row * n + index)
  if !arithmetic.isFinite value then none
  else some (read.1.set index value index.isLt, arithmetic.add read.2 (arithmetic.mul value value))

/-- The embedding of a row. -/
def readRow : Option (Vector F n) := do
  let (embedding, normSquared) ← (List.finRange n).foldlM (readValue arithmetic output row)
    (Vector.replicate n arithmetic.zero, arithmetic.zero)
  if !arithmetic.isFinite normSquared || arithmetic.lessEq normSquared arithmetic.zero then none
  else
    let inverseNorm := arithmetic.div arithmetic.one (arithmetic.sqrt normSquared)
    some (embedding.map fun value => arithmetic.mul value inverseNorm)

end Row

section Rows

variable [DecidableEq P] (output : Nat → F) (objects : List (Option P))

/-- A pass of the loop over the rows; `none` among the objects is a null pointer. -/
def mapRow (mapped : ObjectEmbeddingMap P F) (row : Nat) : Option (ObjectEmbeddingMap P F) := do
  let object ← objects[row]?.join
  let embedding ← readRow arithmetic output row
  emplace mapped object embedding

end Rows

def mapEmbeddingRows [DecidableEq P] (output : Option (Nat → F)) (rowCount : Nat)
    (objects : List (Option P)) : Option (ObjectEmbeddingMap P F) :=
  match output with
  | none => none
  | some output =>
      if rowCount = 0 ∨ objects.length ≠ rowCount then none
      else (List.range rowCount).foldlM (mapRow arithmetic output objects) ∅

/-! ## A row -/

section Row

variable {n : Nat} {output : Nat → F} {row : Nat}

/-- The loop over a row ends with its values and the sum of their squares, or at a value that is
not a number. -/
theorem foldlM_readValue :
    (List.finRange n).foldlM (readValue arithmetic output row)
      (Vector.replicate n arithmetic.zero, arithmetic.zero) =
    if (List.finRange n).all fun index => arithmetic.isFinite (rowOf output row index) then
      some (Vector.ofFn (rowOf output row),
        arithmetic.squaredNorm (List.ofFn (rowOf (n := n) output row)))
    else none := by
  have hpass : readValue arithmetic output row =
      guarded (fun index : Fin n => arithmetic.isFinite (rowOf output row index))
        fun read index => (read.1.set index (rowOf output row index),
          arithmetic.add read.2 (arithmetic.mul (rowOf output row index)
            (rowOf output row index))) := by
    funext read index
    unfold readValue guarded rowOf
    cases hfinite : arithmetic.isFinite (output (row * n + index)) <;> simp only [hfinite] <;> rfl
  -- the values and the sum do not depend on each other
  have hpair : ∀ (indices : List (Fin n)) (embedding : Vector F n) (sum : F),
      indices.foldl (fun read index => (read.1.set index (rowOf output row index),
          arithmetic.add read.2 (arithmetic.mul (rowOf output row index)
            (rowOf output row index)))) (embedding, sum) =
        (indices.foldl (fun embedding index => embedding.set index (rowOf output row index))
            embedding,
          (indices.map (rowOf output row)).foldl
            (fun sum value => arithmetic.add sum (arithmetic.mul value value)) sum) := by
    intro indices
    induction indices with
    | nil => exact fun _ _ => rfl
    | cons index indices ih => exact fun _ _ => ih _ _
  rw [hpass, foldlM_guarded, hpair, foldl_set_finRange, ← List.ofFn_eq_map]
  rfl

/-- A row is read iff it has a direction, and that is its embedding. -/
theorem readRow_eq_some {embedding : Vector F n} :
    readRow arithmetic output row = some embedding ↔
      arithmetic.HasDirection (rowOf (n := n) output row) ∧
        embedding = arithmetic.direction (rowOf output row) := by
  have hall : ((List.finRange n).all fun index => arithmetic.isFinite (rowOf output row index)) =
      true ↔ ∀ index : Fin n, arithmetic.isFinite (rowOf output row index) = true := by
    rw [List.all_eq_true]
    exact ⟨fun h index => h index (List.mem_finRange index), fun h index _ => h index⟩
  unfold readRow Arithmetic.HasDirection
  rw [foldlM_readValue]
  by_cases hfinite : ∀ index : Fin n, arithmetic.isFinite (rowOf output row index) = true
  · rw [if_pos (hall.mpr hfinite), Option.bind_eq_bind, Option.bind_some]
    have hmap : (Vector.ofFn (rowOf (n := n) output row)).map
        (fun value => arithmetic.mul value (arithmetic.div arithmetic.one
          (arithmetic.sqrt (arithmetic.squaredNorm (List.ofFn (rowOf (n := n) output row)))))) =
        arithmetic.direction (rowOf output row) := by
      ext index hindex
      rw [Vector.getElem_map, Arithmetic.direction, Vector.getElem_ofFn, Vector.getElem_ofFn]
    dsimp only
    rw [hmap]
    unfold Arithmetic.isPositive
    cases arithmetic.isFinite (arithmetic.squaredNorm (List.ofFn (rowOf (n := n) output row))) <;>
      cases arithmetic.lessEq (arithmetic.squaredNorm (List.ofFn (rowOf (n := n) output row)))
        arithmetic.zero <;> simp [hfinite, eq_comm]
  · rw [if_neg (mt hall.mp hfinite)]
    constructor
    · exact nofun
    · exact fun h => absurd h.1.1 hfinite

/-- The second row of two. -/
example :
    readRow (n := 3) binary32.arithmetic
      (fun index => .finite (if index = 0 then 3 else if index = 5 then 4 else 0)) 1 =
      some #v[.finite 0, .finite 0, .finite 1] := by
  decide +kernel

end Row

/-! ## All rows -/

section Entries

variable {rowCount : Nat} {objects : List (Option P)} {output : Nat → F}

/-- The objects are as many as the rows and tell them apart, and every row can be used. -/
structure Mappable (rowCount : Nat) (objects : List (Option P)) (usable : Nat → Prop) : Prop where
  nonempty : 0 < rowCount
  length : objects.length = rowCount
  nonNull : none ∉ objects
  distinct : objects.Nodup
  usable : ∀ row < rowCount, usable row

theorem Mappable.imp {usable usable' : Nat → Prop} (h : Mappable rowCount objects usable)
    (himp : ∀ row, usable row → usable' row) : Mappable rowCount objects usable' where
  nonempty := h.nonempty
  length := h.length
  nonNull := h.nonNull
  distinct := h.distinct
  usable row hrow := himp row (h.usable row hrow)

/-- The entry that a row makes. -/
def entryOf (output : Nat → F) (objects : List (Option P)) (row : Nat) :
    Option (Σ _ : P, Vector F 512) := do
  let object ← objects[row]?.join
  let embedding ← readRow arithmetic output row
  return ⟨object, embedding⟩

theorem entryOf_eq_some {row : Nat} {entry : Σ _ : P, Vector F 512} :
    entryOf arithmetic output objects row = some entry ↔
      objects[row]? = some (some entry.1) ∧ readRow arithmetic output row = some entry.2 := by
  obtain ⟨object, embedding⟩ := entry
  unfold entryOf
  rw [← Option.join_eq_some_iff]
  cases objects[row]?.join with
  | none => simp
  | some _ => cases readRow (n := 512) arithmetic output row <;> simp

/-- Every row has made its entry. -/
def Entered (output : Nat → F) (objects : List (Option P))
    (entries : List (Σ _ : P, Vector F 512)) : Prop :=
  ∀ row (h : row < entries.length), objects[row]? = some (some entries[row].1) ∧
    readRow arithmetic output row = some entries[row].2

theorem map_entryOf {entries : List (Σ _ : P, Vector F 512)} :
    (List.range rowCount).map (entryOf arithmetic output objects) = entries.map some ↔
      entries.length = rowCount ∧ Entered arithmetic output objects entries := by
  unfold Entered
  simp only [← entryOf_eq_some]
  constructor
  · intro h
    have hlength := congrArg List.length h
    rw [List.length_map, List.length_map, List.length_range] at hlength
    refine ⟨hlength.symm, fun row hrow => ?_⟩
    have hget := congrArg (·[row]?) h
    simpa [hlength, hrow] using hget
  · rintro ⟨hlength, hget⟩
    refine List.ext_getElem (by simp [hlength]) fun row _ hrow => ?_
    rw [List.length_map] at hrow
    rw [List.getElem_map, List.getElem_map, List.getElem_range]
    exact hget row hrow

/-- The objects are the keys of the entries, in the same order. -/
theorem Entered.objects_eq {entries : List (Σ _ : P, Vector F 512)}
    (h : Entered arithmetic output objects entries) (hlength : objects.length = entries.length) :
    objects = entries.keys.map some := by
  rw [List.keys, List.map_map]
  refine List.ext_getElem (by rw [hlength, List.length_map]) fun row hrow hentry => ?_
  rw [List.length_map] at hentry
  have hobject := (h row hentry).1
  rw [List.getElem?_eq_getElem hrow] at hobject
  rw [List.getElem_map]
  exact Option.some.inj hobject

/-- Distinct objects and rows that can be used make entries. -/
theorem exists_entered
    (h : Mappable rowCount objects fun row =>
      arithmetic.HasDirection (rowOf (n := 512) output row)) :
    ∃ entries : List (Σ _ : P, Vector F 512), entries.length = rowCount ∧
      Entered arithmetic output objects entries := by
  have hsome : ∀ object ∈ objects, object.isSome = true := fun object hobject =>
    Option.isSome_iff_ne_none.mpr fun hnone => h.nonNull (hnone ▸ hobject)
  obtain ⟨keys, rfl⟩ : ∃ keys : List P, objects = keys.map some :=
    ⟨objects.pmap Option.get hsome, by simp [List.map_pmap]⟩
  have hlength := h.length
  rw [List.length_map] at hlength
  refine ⟨keys.mapIdx fun row key => ⟨key, arithmetic.direction (rowOf output row)⟩, ?_, ?_⟩
  · rw [List.length_mapIdx, hlength]
  · intro row hrow
    rw [List.length_mapIdx] at hrow
    rw [List.getElem_mapIdx, List.getElem?_map, List.getElem?_eq_getElem hrow]
    exact ⟨rfl, readRow_eq_some arithmetic |>.mpr ⟨h.usable row (hlength ▸ hrow), rfl⟩⟩

end Entries

section Rows

variable [DecidableEq P] {rowCount : Nat} {objects : List (Option P)} {output : Nat → F}

/-- A map of the objects and of nothing else, in which every object has its own row. -/
structure Attached (objects : List (Option P)) (isRow : Nat → Vector F 512 → Prop)
    (mapped : ObjectEmbeddingMap P F) : Prop where
  keys : ∀ object, object ∈ mapped ↔ some object ∈ objects
  size : mapped.keys.length = objects.length
  value : ∀ row object, objects[row]? = some (some object) →
    ∃ embedding, isRow row embedding ∧ mapped.lookup object = some embedding

theorem Attached.imp {isRow isRow' : Nat → Vector F 512 → Prop}
    {mapped : ObjectEmbeddingMap P F} (h : Attached objects isRow mapped)
    (himp : ∀ row embedding, isRow row embedding → isRow' row embedding) :
    Attached objects isRow' mapped where
  keys := h.keys
  size := h.size
  value row object hobject := by
    obtain ⟨embedding, hrow, hlookup⟩ := h.value row object hobject
    exact ⟨embedding, himp row embedding hrow, hlookup⟩

/-- The loop over the rows ends with a map iff that is the map of the entries of all rows. -/
theorem mapEmbeddingRows_eq_some {mapped : ObjectEmbeddingMap P F} :
    mapEmbeddingRows arithmetic (some output) rowCount objects = some mapped ↔
      (0 < rowCount ∧ objects.length = rowCount) ∧ ∃ entries : List (Σ _ : P, Vector F 512),
        mapped.entries = entries.reverse ∧ entries.length = rowCount ∧
          Entered arithmetic output objects entries := by
  have hpass : mapRow arithmetic output objects =
      emplaceEntry (entryOf arithmetic output objects) := by
    funext mapped row
    unfold mapRow emplaceEntry entryOf
    cases objects[row]?.join with
    | none => rfl
    | some object => cases readRow (n := 512) arithmetic output row <;> rfl
  show (if rowCount = 0 ∨ objects.length ≠ rowCount then none
    else (List.range rowCount).foldlM (mapRow arithmetic output objects) ∅) = some mapped ↔ _
  by_cases hshape : 0 < rowCount ∧ objects.length = rowCount
  · -- behind the checks of the shape, every fault is one of the loop
    rw [if_neg (by omega), hpass, foldlM_emplaceEntry]
    simp only [map_entryOf, AList.empty_entries, List.append_nil, hshape, true_and]
    exact ⟨fun ⟨entries, h, hmapped⟩ => ⟨entries, hmapped, h⟩,
      fun ⟨entries, hmapped, h⟩ => ⟨entries, h, hmapped⟩⟩
  · rw [if_pos (by omega)]
    exact ⟨nofun, fun h => absurd h.1 hshape⟩

/-- A map is returned iff all rows can be attached. -/
theorem mapEmbeddingRows_isSome :
    (mapEmbeddingRows arithmetic (some output) rowCount objects).isSome = true ↔
      Mappable rowCount objects fun row =>
        arithmetic.HasDirection (rowOf (n := 512) output row) := by
  rw [Option.isSome_iff_exists]
  constructor
  · rintro ⟨mapped, hmapped⟩
    obtain ⟨⟨hpos, hlength⟩, entries, hentries, hcount, hentered⟩ :=
      (mapEmbeddingRows_eq_some arithmetic).mp hmapped
    have hobjects := hentered.objects_eq arithmetic (hlength.trans hcount.symm)
    refine ⟨hpos, hlength, ?_, ?_, fun row hrow => ?_⟩
    · rw [hobjects]
      simp
    · -- the keys of a map are distinct
      have hnodup : mapped.keys.Nodup := mapped.keys_nodup
      rw [AList.keys, hentries, List.keys, List.map_reverse, List.nodup_reverse] at hnodup
      rw [hobjects]
      exact hnodup.map (Option.some_injective P)
    · exact ((readRow_eq_some arithmetic).mp (hentered row (hcount ▸ hrow)).2).1
  · intro h
    obtain ⟨entries, hcount, hentered⟩ := exists_entered arithmetic h
    have hobjects := hentered.objects_eq arithmetic (h.length.trans hcount.symm)
    have hnodup : entries.NodupKeys := by
      have hdistinct := h.distinct
      rw [hobjects] at hdistinct
      exact hdistinct.of_map
    exact ⟨⟨entries.reverse, (List.perm_nodupKeys entries.reverse_perm).mpr hnodup⟩,
      (mapEmbeddingRows_eq_some arithmetic).mpr
        ⟨⟨h.nonempty, h.length⟩, entries, rfl, hcount, hentered⟩⟩

/-- The map that is returned. -/
theorem attached_of_mapEmbeddingRows {mapped : ObjectEmbeddingMap P F}
    (h : mapEmbeddingRows arithmetic (some output) rowCount objects = some mapped) :
    Attached objects (fun row embedding => arithmetic.HasDirection (rowOf (n := 512) output row) ∧
      embedding = arithmetic.direction (rowOf output row)) mapped := by
  obtain ⟨⟨-, hlength⟩, entries, hentries, hcount, hentered⟩ :=
    (mapEmbeddingRows_eq_some arithmetic).mp h
  have hobjects := hentered.objects_eq arithmetic (hlength.trans hcount.symm)
  refine ⟨fun object => ?_, ?_, fun row object hobject => ?_⟩
  · rw [AList.mem_keys, AList.keys, hentries, hobjects, List.keys, List.map_reverse,
      List.mem_reverse, List.mem_map_of_injective (Option.some_injective P)]
  · rw [AList.keys, hentries, List.keys, List.length_map, List.length_reverse, hcount, hlength]
  · have hrow : row < entries.length := by
      rw [hcount, ← hlength]
      exact (List.getElem?_eq_some_iff.mp hobject).1
    obtain ⟨hkey, hread⟩ := hentered row hrow
    -- the object of a row is the key of its own entry
    obtain rfl : object = entries[row].1 :=
      Option.some.inj (Option.some.inj (hobject.symm.trans hkey))
    refine ⟨entries[row].2, (readRow_eq_some arithmetic).mp hread, ?_⟩
    refine AList.mem_lookup_iff.mpr ?_
    rw [hentries, List.mem_reverse]
    exact List.getElem_mem hrow

/-- A row of real numbers. -/
def RealRow (matrix : Nat → Option ℝ) (row : Nat) (v : Fin 512 → ℝ) : Prop :=
  ∀ index, rowOf matrix row index = some (v index)

/-- Whatever the arithmetic, a map is returned iff the objects are distinct and as many as the
rows and every row has a direction, and it gives every object the direction of its own row; over
the real numbers that is the row times the inverse of its norm. -/
theorem embeddings_attached (rowCount : Nat) (objects : List (Option P)) :
    (∀ (F : Type) (arithmetic : Arithmetic F) (matrix : Nat → F),
      ((mapEmbeddingRows arithmetic (some matrix) rowCount objects).isSome = true ↔
        Mappable rowCount objects fun row =>
          arithmetic.HasDirection (rowOf (n := 512) matrix row)) ∧
      ∀ mapped ∈ mapEmbeddingRows arithmetic (some matrix) rowCount objects,
        Attached objects
          (fun row embedding => embedding = arithmetic.direction (rowOf matrix row)) mapped) ∧
    ∀ matrix : Nat → Option ℝ,
      ((mapEmbeddingRows .exact (some matrix) rowCount objects).isSome = true ↔
        Mappable rowCount objects fun row =>
          ∃ v, RealRow matrix row v ∧ 0 < ∑ index, v index ^ 2) ∧
      ∀ mapped ∈ mapEmbeddingRows .exact (some matrix) rowCount objects,
        Attached objects (fun row embedding => ∃ v, RealRow matrix row v ∧
          embedding = Vector.ofFn fun index =>
            some (v index * (√(∑ index, v index ^ 2))⁻¹)) mapped := by
  refine ⟨fun F arithmetic matrix => ⟨mapEmbeddingRows_isSome arithmetic, fun mapped h => ?_⟩,
    fun matrix => ⟨?_, fun mapped h => ?_⟩⟩
  · exact (attached_of_mapEmbeddingRows arithmetic h).imp fun _ _ h => h.2
  · rw [mapEmbeddingRows_isSome]
    exact ⟨fun h => h.imp fun _ => Arithmetic.exact_hasDirection_iff.mp,
      fun h => h.imp fun _ => Arithmetic.exact_hasDirection_iff.mpr⟩
  · refine (attached_of_mapEmbeddingRows .exact h).imp ?_
    rintro row embedding ⟨hdirection, rfl⟩
    obtain ⟨v, hv, hnorm⟩ := Arithmetic.exact_hasDirection_iff.mp hdirection
    refine ⟨v, hv, ?_⟩
    rw [show rowOf matrix row = fun index => some (v index) from funext hv,
      Arithmetic.exact_direction v hnorm]

end Rows

end Mvision.Video.Native
