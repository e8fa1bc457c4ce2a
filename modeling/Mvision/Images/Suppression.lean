import Mathlib.Algebra.Order.Monoid.Unbundled.WithTop
import Mvision.Library.Kernels

/-!
# Non-maximum suppression of faces

`nms_mask_kernel` writes for each row of candidates which later ones it overlaps, in words of 64
bits and only for the tiles on and above the diagonal.  `select_detections_kernel` goes through
the rows and keeps those that no kept one overlaps.  A score is a number, or -∞ for a candidate
that was rejected; whether the intersection over union of two candidates is above its threshold
is a parameter.  Addresses are natural numbers: the grid of a launch has at most 65535 images,
whose addresses fit an `int`.
-/

namespace Mvision.Images

open Mvision.Library

/-- `kYoloFaceAnchorCount` -/
def yoloFaceAnchorCount : Nat := 80 * 80 + 40 * 40 + 20 * 20

/-- `kYoloFacePreNmsTopK` -/
def yoloFacePreNmsTopK : Nat := 1024

/-- `kYoloFaceMaxDetections` -/
def yoloFaceMaxDetections : Nat := 100

/-- `kTile` -/
def tile : Nat := 64

/-- `kMaskWords` -/
def maskWords : Nat := yoloFacePreNmsTopK / tile

/-- The arrays that both kernels read. -/
structure SortedCandidates (C K : Type) where
  candidates : Nat → C
  sortedScores : Nat → WithBot K
  sortedIndices : Nat → Nat

/-- A thread of `nms_mask_kernel`: its block and `threadIdx.x`. -/
structure NmsThread where
  columnBlock : Nat
  rowBlock : Nat
  batch : Nat
  threadIdx : Nat
deriving DecidableEq

/-- The arrays of `YoloFaceOutput`; a candidate has the score, the box and the landmarks that
are written for it. -/
structure YoloFaceOutput (C : Type) where
  numDetections : Nat → Nat
  detections : Nat → C

variable {C K : Type} [LinearOrder K]

namespace SortedCandidates

variable (input : SortedCandidates C K)

/-- The score of a row of an image. -/
def score (batch row : Nat) : WithBot K := input.sortedScores (batch * yoloFaceAnchorCount + row)

/-- The candidate in a row of an image. -/
def candidate (batch row : Nat) : C :=
  input.candidates (batch * yoloFaceAnchorCount +
    input.sortedIndices (batch * yoloFaceAnchorCount + row))

end SortedCandidates

/-! ## `nms_mask_kernel` -/

section Masks

variable (input : SortedCandidates C K) (overlaps : C → C → Bool)

/-- `column_candidates`, which the threads of a block share. -/
def columnCandidates (batch columnBlock item : Nat) : Option C :=
  let column := columnBlock * tile + item
  if column < yoloFacePreNmsTopK then some (input.candidate batch column) else none

/-- The mask that a thread computes. -/
def maskWord (batch rowBlock columnBlock threadIdx : Nat) : BitVec 64 :=
  let row := rowBlock * tile + threadIdx
  if ⊥ < input.score batch row then
    let rowCandidate := input.candidate batch row
    let firstColumn := if columnBlock = rowBlock then threadIdx + 1 else 0
    setBits
      (fun item =>
        decide (columnBlock * tile + item < yoloFacePreNmsTopK) &&
          (columnCandidates input batch columnBlock item).any (overlaps rowCandidate))
      (List.range' firstColumn (tile - firstColumn)) 0#64
  else 0#64

def maskAddress (batch row columnBlock : Nat) : Nat :=
  (batch * yoloFacePreNmsTopK + row) * maskWords + columnBlock

/-- `nms_mask_kernel`: what a thread stores. -/
def nmsMaskKernel (batchSize : Nat) (thread : NmsThread) : Option (Nat × BitVec 64) :=
  if batchSize ≤ thread.batch ∨ thread.columnBlock < thread.rowBlock then none
  else
    let row := thread.rowBlock * tile + thread.threadIdx
    if yoloFacePreNmsTopK ≤ row then none
    else some (maskAddress thread.batch row thread.columnBlock,
      maskWord input overlaps thread.batch thread.rowBlock thread.columnBlock thread.threadIdx)

/-- The grid of the launch. -/
def nmsGrid (batchSize : Nat) : List NmsThread :=
  (List.range batchSize).flatMap fun batch =>
    (List.range maskWords).flatMap fun rowBlock =>
      (List.range maskWords).flatMap fun columnBlock =>
        (List.range tile).map fun threadIdx => ⟨columnBlock, rowBlock, batch, threadIdx⟩

end Masks

/-! ## `select_detections_kernel` -/

/-- What the loop over the rows carries. -/
structure Selection (C : Type) where
  suppressed : Nat → BitVec 64
  count : Nat
  output : YoloFaceOutput C

section Select

variable (input : SortedCandidates C K) (confidenceThreshold : K) (masks : Nat → BitVec 64)
  (batch : Nat)

/-- A row is kept: it is written, and the words from its own on are added to `suppressed`. -/
def keepRow (s : Selection C) (row : Nat) : Selection C where
  suppressed word :=
    if row / 64 ≤ word ∧ word < maskWords then
      s.suppressed word ||| masks (maskAddress batch row word)
    else s.suppressed word
  count := s.count + 1
  output :=
    { s.output with
      detections := Function.update s.output.detections
        (batch * yoloFaceMaxDetections + s.count) (input.candidate batch row) }

def selectRows : List Nat → Selection C → Selection C
  | [], s => s
  | row :: rows, s =>
      if ¬ s.count < yoloFaceMaxDetections then s
      else if input.score batch row < (confidenceThreshold : WithBot K) then s
      else if s.suppressed (row / 64) &&& (1#64 <<< (row % 64)) ≠ 0#64 then selectRows rows s
      else selectRows rows (keepRow input masks batch s row)

/-- `select_detections_kernel` for one image. -/
def selectDetectionsKernel (output : YoloFaceOutput C) : YoloFaceOutput C :=
  let s := selectRows input confidenceThreshold masks batch (List.range yoloFacePreNmsTopK)
    ⟨fun _ => 0#64, 0, output⟩
  { s.output with numDetections := Function.update s.output.numDetections batch s.count }

end Select

/-- The launch of both kernels, with the threads and the images in any order. -/
def postprocess (input : SortedCandidates C K) (overlaps : C → C → Bool) (confidenceThreshold : K)
    (batchSize : Nat) (threads : List NmsThread) (images : List Nat) (masks : Nat → BitVec 64)
    (output : YoloFaceOutput C) : YoloFaceOutput C :=
  let written := runThreads (nmsMaskKernel input overlaps batchSize) threads masks
  images.foldl (fun output batch =>
    selectDetectionsKernel input confidenceThreshold written batch output) output

/-- The detections of an image. -/
def YoloFaceOutput.image (output : YoloFaceOutput C) (batch : Nat) : List C :=
  (List.range (output.numDetections batch)).map fun index =>
    output.detections (batch * yoloFaceMaxDetections + index)

/-! ## The plain algorithm -/

/-- Scan the candidates, keep one that no kept one overlaps, and stop at a score below the
threshold or when enough are kept. -/
def greedy (overlaps : C → C → Bool) (confidenceThreshold : K) :
    (kept : List C) → List (C × WithBot K) → List C
  | kept, [] => kept
  | kept, (candidate, score) :: rest =>
      if ¬ kept.length < yoloFaceMaxDetections then kept
      else if score < (confidenceThreshold : WithBot K) then kept
      else if kept.any fun earlier => overlaps earlier candidate then
        greedy overlaps confidenceThreshold kept rest
      else greedy overlaps confidenceThreshold (kept ++ [candidate]) rest

/-- The candidates of an image before suppression. -/
def SortedCandidates.image (input : SortedCandidates C K) (batch : Nat) : List (C × WithBot K) :=
  (List.range yoloFacePreNmsTopK).map fun row =>
    (input.candidate batch row, input.score batch row)

/-! ## The words -/

section Words

variable {input : SortedCandidates C K} {overlaps : C → C → Bool} {batchSize : Nat}

/-- A bit of a mask: the row is there and overlaps the later candidate of the bit. -/
theorem getLsbD_maskWord {batch rowBlock columnBlock threadIdx item : Nat}
    (hblock : rowBlock ≤ columnBlock) (hcolumn : columnBlock < 16) (hthread : threadIdx < 64)
    (hitem : item < 64) :
    (maskWord input overlaps batch rowBlock columnBlock threadIdx).getLsbD item =
      (decide (⊥ < input.score batch (rowBlock * tile + threadIdx)) &&
        (decide (rowBlock * tile + threadIdx < columnBlock * tile + item) &&
          overlaps (input.candidate batch (rowBlock * tile + threadIdx))
            (input.candidate batch (columnBlock * tile + item)))) := by
  have hsmall : columnBlock * tile + item < yoloFacePreNmsTopK := by
    unfold tile yoloFacePreNmsTopK
    omega
  unfold maskWord
  dsimp only
  split
  · rename_i hscore
    have hshared : columnCandidates input batch columnBlock item =
        some (input.candidate batch (columnBlock * tile + item)) := if_pos hsmall
    have hfirst : item ∈ List.range' (if columnBlock = rowBlock then threadIdx + 1 else 0)
          (tile - if columnBlock = rowBlock then threadIdx + 1 else 0) ↔
        rowBlock * tile + threadIdx < columnBlock * tile + item := by
      rw [List.mem_range'_1]
      unfold tile
      -- a tile on the diagonal starts after the row, one above it lies after it as a whole
      split <;> omega
    rw [getLsbD_setBits, BitVec.getLsbD_zero, Bool.false_or, decide_eq_true hitem, Bool.true_and,
      decide_eq_true hscore, Bool.true_and, decide_eq_true hsmall, Bool.true_and, hshared,
      Option.any_some, decide_eq_decide.mpr hfirst]
  · rename_i hscore
    rw [BitVec.getLsbD_zero, decide_eq_false hscore, Bool.false_and]

theorem mem_nmsGrid {thread : NmsThread} :
    thread ∈ nmsGrid batchSize ↔ thread.batch < batchSize ∧ thread.rowBlock < 16 ∧
      thread.columnBlock < 16 ∧ thread.threadIdx < 64 := by
  obtain ⟨columnBlock, rowBlock, batch, threadIdx⟩ := thread
  simp [nmsGrid, maskWords, yoloFacePreNmsTopK, tile]

theorem nmsMaskKernel_eq_some {thread : NmsThread} {address : Nat} {value : BitVec 64}
    (h : nmsMaskKernel input overlaps batchSize thread = some (address, value)) :
    address = maskAddress thread.batch (thread.rowBlock * 64 + thread.threadIdx)
        thread.columnBlock ∧
      value = maskWord input overlaps thread.batch thread.rowBlock thread.columnBlock
        thread.threadIdx := by
  unfold nmsMaskKernel at h
  dsimp only [tile] at h
  split at h
  · cases h
  · split at h
    · cases h
    · cases h
      exact ⟨rfl, rfl⟩

/-- No two words have one address. -/
theorem maskAddress_inj {batch batch' row row' word word' : Nat} (hrow : row < 1024)
    (hrow' : row' < 1024) (hword : word < 16) (hword' : word' < 16)
    (h : maskAddress batch row word = maskAddress batch' row' word') :
    batch = batch' ∧ row = row' ∧ word = word' := by
  have h : (batch * 1024 + row) * 16 + word = (batch' * 1024 + row') * 16 + word' := h
  omega

/-- The words on and above the diagonal are written, in whatever order the threads come. -/
theorem runThreads_maskAddress {threads : List NmsThread}
    (hthreads : threads.Perm (nmsGrid batchSize)) (masks : Nat → BitVec 64)
    {batch row word : Nat} (hbatch : batch < batchSize) (hrow : row < 1024)
    (hle : row / 64 ≤ word) (hword : word < 16) :
    runThreads (nmsMaskKernel input overlaps batchSize) threads masks
        (maskAddress batch row word) =
      maskWord input overlaps batch (row / 64) word (row % 64) := by
  apply runThreads_eq
  · intro thread hthread value hstore
    obtain ⟨haddress, rfl⟩ := nmsMaskKernel_eq_some hstore
    obtain ⟨-, hrowBlock, hcolumnBlock, hthreadIdx⟩ := mem_nmsGrid.mp (hthreads.mem_iff.mp hthread)
    obtain ⟨rfl, hrows, rfl⟩ := maskAddress_inj hrow (by omega) hword hcolumnBlock haddress
    have hblock : row / 64 = thread.rowBlock := by omega
    have hindex : row % 64 = thread.threadIdx := by omega
    rw [hblock, hindex]
  · refine ⟨⟨word, row / 64, batch, row % 64⟩, ?_, ?_⟩
    · have hrowBlock : row / 64 < 16 := by omega
      have hthreadIdx : row % 64 < 64 := by omega
      exact hthreads.mem_iff.mpr (mem_nmsGrid.mpr ⟨hbatch, hrowBlock, hword, hthreadIdx⟩)
    · unfold nmsMaskKernel
      dsimp only [tile]
      have hlive : ¬ (batchSize ≤ batch ∨ word < row / 64) := by omega
      have hsame : row / 64 * 64 + row % 64 = row := by omega
      have hrow' : ¬ yoloFacePreNmsTopK ≤ row := by
        unfold yoloFacePreNmsTopK
        omega
      rw [if_neg hlive, hsame, if_neg hrow']

end Words

/-! ## The loop over the rows -/

section Rows

variable {input : SortedCandidates C K} {overlaps : C → C → Bool} {confidenceThreshold : K}
  {masks : Nat → BitVec 64} {batch : Nat}

/-- The masks of an image hold the overlaps of its rows. -/
def MasksOf (input : SortedCandidates C K) (overlaps : C → C → Bool) (batch : Nat)
    (masks : Nat → BitVec 64) : Prop :=
  ∀ row word, row < 1024 → row / 64 ≤ word → word < 16 →
    masks (maskAddress batch row word) =
      maskWord input overlaps batch (row / 64) word (row % 64)

/-- What is written for an image is the list of what is kept, and nothing else is changed. -/
structure Wrote (batch : Nat) (kept : List C) (start output : YoloFaceOutput C) (count : Nat) :
    Prop where
  count : count = kept.length
  few : kept.length ≤ 100
  written : ∀ (index : Nat) (h : index < kept.length),
    output.detections (batch * 100 + index) = kept[index]
  detections : ∀ address, address < batch * 100 ∨ batch * 100 + 100 ≤ address →
    output.detections address = start.detections address
  numDetections : output.numDetections = start.numDetections

/-- The rows to come are suppressed exactly where a kept one overlaps them. -/
def Suppresses (input : SortedCandidates C K) (overlaps : C → C → Bool) (batch next : Nat)
    (kept : List C) (suppressed : Nat → BitVec 64) : Prop :=
  ∀ row, next ≤ row → row < 1024 →
    (suppressed (row / 64)).getLsbD (row % 64) =
      kept.any fun earlier => overlaps earlier (input.candidate batch row)

omit [LinearOrder K] in
theorem wrote_keepRow {kept : List C} {start : YoloFaceOutput C} {s : Selection C} {row : Nat}
    (h : Wrote batch kept start s.output s.count) (hfew : s.count < 100) :
    Wrote batch (kept ++ [input.candidate batch row]) start
      (keepRow input masks batch s row).output (keepRow input masks batch s row).count where
  count := by
    show s.count + 1 = _
    rw [h.count, List.length_append, List.length_singleton]
  few := by
    rw [List.length_append, List.length_singleton, ← h.count]
    exact hfew
  written := by
    intro index hindex
    rw [List.length_append, List.length_singleton] at hindex
    show Function.update s.output.detections (batch * 100 + s.count) _ _ = _
    by_cases hlast : index = kept.length
    · subst hlast
      rw [h.count, Function.update_self, List.getElem_concat_length]
      rfl
    · have hindex : index < kept.length := by omega
      have hne : batch * 100 + index ≠ batch * 100 + s.count := by
        rw [h.count]
        omega
      rw [Function.update_of_ne hne, List.getElem_append_left hindex]
      exact h.written index hindex
  detections := by
    intro address haddress
    have hne : address ≠ batch * 100 + s.count := by omega
    show Function.update s.output.detections (batch * 100 + s.count) _ _ = _
    rw [Function.update_of_ne hne]
    exact h.detections address haddress
  numDetections := h.numDetections

/-- The words of a kept row add what it overlaps. -/
theorem suppresses_keepRow (hmasks : MasksOf input overlaps batch masks) {next : Nat}
    {kept : List C} {s : Selection C} (h : Suppresses input overlaps batch next kept s.suppressed)
    (hnext : next < 1024) (hscore : ⊥ < input.score batch next) :
    Suppresses input overlaps batch (next + 1) (kept ++ [input.candidate batch next])
      (keepRow input masks batch s next).suppressed := by
  intro row hlater hrow
  have hword : next / 64 ≤ row / 64 ∧ row / 64 < maskWords := by
    unfold maskWords yoloFacePreNmsTopK tile
    omega
  have hsplit : ∀ n, n / 64 * tile + n % 64 = n := by
    intro n
    unfold tile
    omega
  have hbit := @getLsbD_maskWord _ _ _ input overlaps batch (next / 64) (row / 64) (next % 64)
    (row % 64) hword.1 (by omega) (by omega) (by omega)
  rw [hsplit, hsplit, decide_eq_true hscore, decide_eq_true (show next < row by omega),
    Bool.true_and, Bool.true_and] at hbit
  show (if _ then _ else _ : BitVec 64).getLsbD _ = _
  rw [if_pos hword, BitVec.getLsbD_or, h row (by omega) hrow,
    hmasks next (row / 64) hnext hword.1 (by omega), hbit, List.any_append, List.any_cons,
    List.any_nil, Bool.or_false]

omit [LinearOrder K] in
theorem suppresses_succ {next : Nat} {kept : List C} {suppressed : Nat → BitVec 64}
    (h : Suppresses input overlaps batch next kept suppressed) :
    Suppresses input overlaps batch (next + 1) kept suppressed :=
  fun row hlater hrow => h row (by omega) hrow

/-- The loop keeps what the plain scan keeps. -/
theorem wrote_selectRows (hmasks : MasksOf input overlaps batch masks) (n : Nat) {next : Nat}
    (hnext : next + n = 1024) {kept : List C} {start : YoloFaceOutput C} {s : Selection C}
    (hwrote : Wrote batch kept start s.output s.count)
    (hsuppressed : Suppresses input overlaps batch next kept s.suppressed) :
    let last := selectRows input confidenceThreshold masks batch (List.range' next n) s
    Wrote batch
      (greedy overlaps confidenceThreshold kept
        ((List.range' next n).map fun row => (input.candidate batch row, input.score batch row)))
      start last.output last.count := by
  induction n generalizing next kept s with
  | zero => exact hwrote
  | succ n ih =>
      have hrow : next < 1024 := by omega
      have hbit : s.suppressed (next / 64) &&& (1#64 <<< (next % 64)) ≠ 0#64 ↔
          (kept.any fun earlier => overlaps earlier (input.candidate batch next)) = true := by
        rw [and_one_shiftLeft_ne_zero (Nat.mod_lt next (by decide)), hsuppressed next le_rfl hrow]
      rw [List.range'_succ, List.map_cons]
      unfold selectRows greedy
      rw [hwrote.count]
      dsimp only
      by_cases hfew : kept.length < yoloFaceMaxDetections
      · rw [if_neg (not_not.mpr hfew), if_neg (not_not.mpr hfew)]
        by_cases hscore : input.score batch next < (confidenceThreshold : WithBot K)
        · rw [if_pos hscore, if_pos hscore]
          exact hwrote
        · rw [if_neg hscore, if_neg hscore]
          by_cases hoverlap :
              (kept.any fun earlier => overlaps earlier (input.candidate batch next)) = true
          · rw [if_pos (hbit.mpr hoverlap), if_pos hoverlap]
            exact ih (by omega) hwrote (suppresses_succ hsuppressed)
          · rw [if_neg fun he => hoverlap (hbit.mp he), if_neg hoverlap]
            have hnumber : ⊥ < input.score batch next :=
              (WithBot.bot_lt_coe _).trans_le (not_lt.mp hscore)
            exact ih (by omega) (wrote_keepRow hwrote (hwrote.count ▸ hfew))
              (suppresses_keepRow hmasks hsuppressed hrow hnumber)
      · rw [if_pos hfew, if_pos hfew]
        exact hwrote

end Rows

/-! ## The launch -/

section Launch

variable {input : SortedCandidates C K} {overlaps : C → C → Bool} {confidenceThreshold : K}
  {masks : Nat → BitVec 64} {batch : Nat}

/-- The detections of an image are those of the plain scan. -/
def Selected (input : SortedCandidates C K) (overlaps : C → C → Bool) (confidenceThreshold : K)
    (batch : Nat) (output : YoloFaceOutput C) : Prop :=
  output.image batch = greedy overlaps confidenceThreshold [] (input.image batch) ∧
    output.numDetections batch ≤ yoloFaceMaxDetections

theorem wrote_kernel (hmasks : MasksOf input overlaps batch masks) (output : YoloFaceOutput C) :
    ∃ (last : YoloFaceOutput C) (count : Nat),
      selectDetectionsKernel input confidenceThreshold masks batch output =
        { last with numDetections := Function.update output.numDetections batch count } ∧
      Wrote batch (greedy overlaps confidenceThreshold [] (input.image batch)) output last
        count := by
  have hstart : Wrote batch [] output output 0 :=
    ⟨rfl, Nat.zero_le _, fun _ h => absurd h (Nat.not_lt_zero _), fun _ _ => rfl, rfl⟩
  have hnone : Suppresses input overlaps batch 0 [] fun _ => 0#64 := by
    intro row _ _
    rw [BitVec.getLsbD_zero, List.any_nil]
  have hrows : List.range yoloFacePreNmsTopK = List.range' 0 1024 := List.range_eq_range'
  let first : Selection C := ⟨fun _ => 0#64, 0, output⟩
  have hwrote := @wrote_selectRows _ _ _ input overlaps confidenceThreshold masks batch hmasks 1024
    0 rfl [] output first hstart hnone
  unfold SortedCandidates.image selectDetectionsKernel
  rw [hrows]
  refine ⟨_, _, ?_, hwrote⟩
  rw [← hwrote.numDetections]

/-- The block of an image writes its detections. -/
theorem selected_kernel (hmasks : MasksOf input overlaps batch masks) (output : YoloFaceOutput C) :
    Selected input overlaps confidenceThreshold batch
      (selectDetectionsKernel input confidenceThreshold masks batch output) := by
  obtain ⟨last, count, heq, hwrote⟩ := wrote_kernel hmasks output
  rw [heq]
  constructor
  · unfold YoloFaceOutput.image
    dsimp only
    rw [Function.update_self, hwrote.count]
    apply List.ext_getElem
    · rw [List.length_map, List.length_range]
    · intro index h h'
      rw [List.getElem_map, List.getElem_range]
      exact hwrote.written index h'
  · show Function.update output.numDetections batch count batch ≤ 100
    rw [Function.update_self, hwrote.count]
    exact hwrote.few

/-- The block of another image leaves them alone. -/
theorem selected_other {other : Nat} (hne : other ≠ batch)
    (hmasks : MasksOf input overlaps other masks) {output : YoloFaceOutput C}
    (h : Selected input overlaps confidenceThreshold batch output) :
    Selected input overlaps confidenceThreshold batch
      (selectDetectionsKernel input confidenceThreshold masks other output) := by
  obtain ⟨last, count, heq, hwrote⟩ := wrote_kernel hmasks output
  have hnum : Function.update output.numDetections other count batch =
      output.numDetections batch := Function.update_of_ne (Ne.symm hne) ..
  have hfew : output.numDetections batch ≤ 100 := h.2
  rw [heq]
  constructor
  · rw [← h.1]
    unfold YoloFaceOutput.image
    dsimp only
    rw [hnum]
    apply List.map_congr_left
    intro index hindex
    rw [List.mem_range] at hindex
    apply hwrote.detections
    unfold yoloFaceMaxDetections
    omega
  · dsimp only
    rw [hnum]
    exact h.2

/-- After all blocks, in whatever order they ran, every image has its detections. -/
theorem selected_images {images : List Nat} {batchSize : Nat}
    (hmasks : ∀ batch < batchSize, MasksOf input overlaps batch masks)
    (himages : ∀ batch ∈ images, batch < batchSize) (hbatch : batch < batchSize)
    {output : YoloFaceOutput C}
    (h : batch ∈ images ∨ Selected input overlaps confidenceThreshold batch output) :
    Selected input overlaps confidenceThreshold batch
      (images.foldl (fun output batch =>
        selectDetectionsKernel input confidenceThreshold masks batch output) output) := by
  induction images generalizing output with
  | nil =>
      rcases h with h | h
      · cases h
      · exact h
  | cons image images ih =>
      rw [List.forall_mem_cons] at himages
      rw [List.foldl_cons]
      apply ih himages.2
      by_cases hsame : image = batch
      · subst hsame
        exact .inr (selected_kernel (hmasks image hbatch) output)
      · rcases h with hmem | hselected
        · rcases List.mem_cons.mp hmem with rfl | hrest
          · exact absurd rfl hsame
          · exact .inl hrest
        · exact .inr (selected_other hsame (hmasks image himages.1) hselected)

/-- The two kernels find for each image what the plain scan of its candidates finds, in whatever
order threads and images come and whatever the masks and the output held before. -/
theorem postprocess_eq_greedy (input : SortedCandidates C K) (overlaps : C → C → Bool)
    (confidenceThreshold : K) {batchSize : Nat} {threads : List NmsThread} {images : List Nat}
    (hthreads : threads.Perm (nmsGrid batchSize)) (himages : images.Perm (List.range batchSize))
    (masks : Nat → BitVec 64) (output : YoloFaceOutput C) :
    ∀ batch < batchSize,
      (postprocess input overlaps confidenceThreshold batchSize threads images masks output).image
          batch = greedy overlaps confidenceThreshold [] (input.image batch) ∧
        (postprocess input overlaps confidenceThreshold batchSize threads images masks
          output).numDetections batch ≤ yoloFaceMaxDetections := by
  intro batch hbatch
  have hmasks : ∀ batch < batchSize, MasksOf input overlaps batch
      (runThreads (nmsMaskKernel input overlaps batchSize) threads masks) := by
    intro batch hbatch row word hrow hle hword
    exact runThreads_maskAddress hthreads masks hbatch hrow hle hword
  apply selected_images hmasks _ hbatch
  · exact .inl (himages.mem_iff.mpr (List.mem_range.mpr hbatch))
  · intro other hother
    exact List.mem_range.mp (himages.mem_iff.mp hother)

/-- Three faces at places on a line, the first two next to each other, and rejected ones. -/
def threeFaces : SortedCandidates Nat Nat where
  candidates index := [10, 12, 40].getD index 0
  sortedScores index := if index < 3 then ((90 - index : Nat) : WithBot Nat) else ⊥
  sortedIndices index := index

theorem postprocess_threeFaces :
    (postprocess threeFaces (fun a b => a < b + 5 && b < a + 5) 25 1 (nmsGrid 1).reverse [0]
      (fun _ => BitVec.allOnes 64) ⟨fun _ => 7, fun _ => 7⟩).image 0 = [10, 40] := by
  have hgreedy := (postprocess_eq_greedy threeFaces (fun a b => a < b + 5 && b < a + 5) 25
    (List.reverse_perm (nmsGrid 1)) (List.Perm.refl (List.range 1))
    (fun _ => BitVec.allOnes 64) ⟨fun _ => 7, fun _ => 7⟩ 0 (by decide)).1
  refine Eq.trans hgreedy ?_
  decide +kernel

end Launch

end Mvision.Images
