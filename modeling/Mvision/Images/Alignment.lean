import Mathlib.Algebra.BigOperators.Fin
import Mathlib.Algebra.BigOperators.Pi
import Mathlib.Algebra.Order.Floor.Semiring
import Mvision.Library.FloatBounds
import Mvision.Library.Similarity

/-!
# Aligning a face: `align_kernel`

The landmarks of a face are brought to those of a template by the closest similarity, and each
pixel of the aligned face is read where it comes from.  The kernel is modelled over any arithmetic
of its floats.  What it does to the plane is said of the exact numbers, computed without rounding:
there a coordinate that is not finite is none.
-/

namespace Mvision.Images

open Mvision.Library Mvision.Plane

/-- `kAlignedFaceWidth` -/
def alignedFaceWidth : Nat := 112

/-- `kAlignedFaceHeight` -/
def alignedFaceHeight : Nat := 112

/-- `kPixels` -/
def alignedPixels : Nat := alignedFaceWidth * alignedFaceHeight

/-- `kTemplateDevice` -/
def templateDevice : Fin 10 → ℚ :=
  ![38.2946, 51.6963, 73.5318, 51.5014, 56.0252,
    71.7366, 41.5493, 92.3655, 70.7299, 92.2041]

/-- A point of an array of coordinates. -/
def landmarkPoint {V : Type} (coordinates : Fin 10 → V) (point : Fin 5) : PlanePoint V :=
  ⟨coordinates ⟨point * 2, by omega⟩, coordinates ⟨point * 2 + 1, by omega⟩⟩

/-! ## A face in any arithmetic -/

/-- What the code does with its floats. -/
structure AlignArithmetic (V : Type) where
  literal : ℚ → V
  add : V → V → V
  sub : V → V → V
  mul : V → V → V
  div : V → V → V
  neg : V → V
  less : V → V → Bool
  lessEq : V → V → Bool
  isFinite : V → Bool
  /-- `floorf` and the conversion to `int` -/
  floor : V → Nat
  /-- `__float2uint_rn` and the conversion to `uint8_t` -/
  roundByte : V → UInt8

/-- What the kernel reads for a face. -/
structure FaceInput (V : Type) where
  image : Nat → UInt8
  pitch : Nat
  landmarks : Fin 10 → V

namespace AlignArithmetic

variable {V : Type} (a : AlignArithmetic V)

/-- The sums of the coordinates, `x` and `y` of the face and of the template. -/
def coordinateSums (source : Fin 10 → V) : V × V × V × V :=
  (List.finRange 5).foldl (fun (sums : V × V × V × V) point =>
    (a.add sums.1 (landmarkPoint source point).x,
      a.add sums.2.1 (landmarkPoint source point).y,
      a.add sums.2.2.1 (a.literal (landmarkPoint templateDevice point).x),
      a.add sums.2.2.2 (a.literal (landmarkPoint templateDevice point).y)))
    (a.literal 0, a.literal 0, a.literal 0, a.literal 0)

/-- `dot`, `cross` and `denominator`, from the means. -/
def productSums (source : Fin 10 → V) (sourceMean targetMean : PlanePoint V) : V × V × V :=
  (List.finRange 5).foldl (fun (products : V × V × V) point =>
    let sourceX := a.sub (landmarkPoint source point).x sourceMean.x
    let sourceY := a.sub (landmarkPoint source point).y sourceMean.y
    let targetX := a.sub (a.literal (landmarkPoint templateDevice point).x) targetMean.x
    let targetY := a.sub (a.literal (landmarkPoint templateDevice point).y) targetMean.y
    (a.add products.1 (a.add (a.mul sourceX targetX) (a.mul sourceY targetY)),
      a.add products.2.1 (a.sub (a.mul sourceX targetY) (a.mul sourceY targetX)),
      a.add products.2.2 (a.add (a.mul sourceX sourceX) (a.mul sourceY sourceY))))
    (a.literal 0, a.literal 0, a.literal 0)

/-- `transform_a * transform_a + transform_b * transform_b` -/
def determinant (transformA transformB : V) : V :=
  a.add (a.mul transformA transformA) (a.mul transformB transformB)

/-- What thread 0 leaves in `transform_a`, `transform_b`, `translate_x` and `translate_y`; none
if `valid` is 0. -/
def transform (source : Fin 10 → V) : Option (Similarity V) :=
  let sums := a.coordinateSums source
  let sourceMean : PlanePoint V :=
    ⟨a.mul sums.1 (a.literal (1 / 5)), a.mul sums.2.1 (a.literal (1 / 5))⟩
  let targetMean : PlanePoint V :=
    ⟨a.mul sums.2.2.1 (a.literal (1 / 5)), a.mul sums.2.2.2 (a.literal (1 / 5))⟩
  let products := a.productSums source sourceMean targetMean
  let denominator := products.2.2
  if a.isFinite denominator && a.less (a.literal (1 / 1000000)) denominator then
    let transformA := a.div products.1 denominator
    let transformB := a.div products.2.1 denominator
    if a.isFinite transformA && a.isFinite transformB &&
        a.less (a.literal (1 / 100000000)) (a.determinant transformA transformB) then
      some {
        a := transformA
        b := transformB
        shiftX := a.add (a.sub targetMean.x (a.mul transformA sourceMean.x))
          (a.mul transformB sourceMean.y)
        shiftY := a.sub (a.sub targetMean.y (a.mul transformB sourceMean.x))
          (a.mul transformA sourceMean.y) }
    else none
  else none

/-- `source_x` and `source_y` of a pixel of the aligned face. -/
def sourcePoint (m : Similarity V) (pixel : Nat) : PlanePoint V :=
  let outputX := a.literal (pixel % alignedFaceWidth : Nat)
  let outputY := a.literal (pixel / alignedFaceWidth : Nat)
  let translatedX := a.sub outputX m.shiftX
  let translatedY := a.sub outputY m.shiftY
  let determinant := a.determinant m.a m.b
  ⟨a.div (a.add (a.mul m.a translatedX) (a.mul m.b translatedY)) determinant,
    a.div (a.add (a.mul (a.neg m.b) translatedX) (a.mul m.a translatedY)) determinant⟩

/-- `sample_channel` -/
def sampleChannel (image : Nat → UInt8) (pitch : Nat) (p : PlanePoint V) (channel : Nat) : V :=
  if a.less p.x (a.literal 0) || a.less p.y (a.literal 0) ||
      a.less (a.literal ((alignedFaceWidth : ℚ) - 1)) p.x ||
      a.less (a.literal ((alignedFaceHeight : ℚ) - 1)) p.y then a.literal 0
  else
    let x0 := a.floor p.x
    let y0 := a.floor p.y
    let x1 := min (x0 + 1) (alignedFaceWidth - 1)
    let y1 := min (y0 + 1) (alignedFaceHeight - 1)
    let dx := a.sub p.x (a.literal x0)
    let dy := a.sub p.y (a.literal y0)
    let pixel (y x : Nat) : V := a.literal (image (y * pitch + x * 4 + channel)).toNat
    let top := a.add (a.mul (pixel y0 x0) (a.sub (a.literal 1) dx)) (a.mul (pixel y0 x1) dx)
    let bottom := a.add (a.mul (pixel y1 x0) (a.sub (a.literal 1) dx)) (a.mul (pixel y1 x1) dx)
    a.add (a.mul top (a.sub (a.literal 1) dy)) (a.mul bottom dy)

/-- `red`, `green` and `blue` of a pixel. -/
def pixelValue (face : FaceInput V) (pixel channel : Nat) : V :=
  match a.transform face.landmarks with
  | none => a.literal 0
  | some m => a.sampleChannel face.image face.pitch (a.sourcePoint m pixel) channel

/-- What is stored for it in `aligned_rgb`. -/
def pixelByte (face : FaceInput V) (pixel channel : Nat) : UInt8 :=
  a.roundByte (a.pixelValue face pixel channel)

end AlignArithmetic

/-- `float`, with a rounding after every operation. -/
def floatArithmetic : AlignArithmetic FloatValue where
  literal := binary32.round
  add := binary32.add
  sub := binary32.sub
  mul := binary32.mul
  div := binary32.div
  neg := FloatValue.neg
  less := FloatValue.less
  lessEq := FloatValue.lessEq
  isFinite := FloatValue.isFinite
  floor
    | .finite q => ⌊q⌋₊
    | _ => 0
  -- what is too large becomes the largest `unsigned int`, and what is no number becomes zero
  roundByte
    | .finite q => UInt8.ofNat (min (roundHalfEven q).toNat (2 ^ 32 - 1))
    | .infinite false => 255
    | _ => 0

/-! ## The transform of a face in exact numbers -/

/-- The transform of thread 0, computed without rounding. -/
def alignTransform (source : Fin 10 → ℚ) : Option (Similarity ℚ) :=
  let sums := (List.finRange 5).foldl (fun (sums : ℚ × ℚ × ℚ × ℚ) point =>
    sums + ((landmarkPoint source point).x, (landmarkPoint source point).y,
      (landmarkPoint templateDevice point).x, (landmarkPoint templateDevice point).y)) 0
  let sourceMeanX := sums.1 * (1 / 5)
  let sourceMeanY := sums.2.1 * (1 / 5)
  let targetMeanX := sums.2.2.1 * (1 / 5)
  let targetMeanY := sums.2.2.2 * (1 / 5)
  let products := (List.finRange 5).foldl (fun (products : ℚ × ℚ × ℚ) point =>
    let sourceX := (landmarkPoint source point).x - sourceMeanX
    let sourceY := (landmarkPoint source point).y - sourceMeanY
    let targetX := (landmarkPoint templateDevice point).x - targetMeanX
    let targetY := (landmarkPoint templateDevice point).y - targetMeanY
    products + (sourceX * targetX + sourceY * targetY, sourceX * targetY - sourceY * targetX,
      sourceX * sourceX + sourceY * sourceY)) 0
  let denominator := products.2.2
  if 1 / 1000000 < denominator then
    let transformA := products.1 / denominator
    let transformB := products.2.1 / denominator
    if 1 / 100000000 < transformA * transformA + transformB * transformB then
      some {
        a := transformA
        b := transformB
        shiftX := targetMeanX - transformA * sourceMeanX + transformB * sourceMeanY
        shiftY := targetMeanY - transformB * sourceMeanX - transformA * sourceMeanY }
    else none
  else none

/-- The coordinates if all are finite. -/
def finiteLandmarks (source : Fin 10 → Option ℚ) : Option (Fin 10 → ℚ) :=
  if ∀ coordinate, (source coordinate).isSome then
    some fun coordinate => (source coordinate).getD 0
  else none

section Transform

/-- The template and the landmarks of a face as points. -/
abbrev templatePoints : Fin 5 → PlanePoint ℚ := landmarkPoint templateDevice

theorem foldl_add_finRange {A : Type*} [AddCommMonoid A] {n : Nat} (f : Fin n → A) :
    (List.finRange n).foldl (fun sum i => sum + f i) 0 = ∑ i, f i := by
  rw [Fin.sum_univ_def, List.sum_eq_foldl, List.foldl_map]

theorem centroid_five_x (p : Fin 5 → PlanePoint ℚ) :
    (centroid Finset.univ p).x = (∑ i, (p i).x) * (1 / 5) := by
  simp [centroid, div_eq_mul_inv]

theorem centroid_five_y (p : Fin 5 → PlanePoint ℚ) :
    (centroid Finset.univ p).y = (∑ i, (p i).y) * (1 / 5) := by
  simp [centroid, div_eq_mul_inv]

/-- The transform is the closest similarity, unless the landmarks or their images are too close
together. -/
theorem alignTransform_eq (source : Fin 10 → ℚ) :
    alignTransform source =
      if 1 / 1000000 < spread Finset.univ (landmarkPoint source) ∧
          1 / 100000000 < (fit Finset.univ (landmarkPoint source) templatePoints).determinant then
        some (fit Finset.univ (landmarkPoint source) templatePoints)
      else none := by
  unfold alignTransform
  simp only [foldl_add_finRange, Prod.fst_sum, Prod.snd_sum, ← centroid_five_x,
    ← centroid_five_y]
  rw [ite_and]
  rfl

variable {source : Fin 10 → ℚ} {m : Similarity ℚ}

theorem alignTransform_eq_some_iff :
    alignTransform source = some m ↔
      1 / 1000000 < spread Finset.univ (landmarkPoint source) ∧
        1 / 100000000 < m.determinant ∧
        m = fit Finset.univ (landmarkPoint source) templatePoints := by
  rw [alignTransform_eq, Option.ite_none_right_eq_some, Option.some.injEq]
  constructor
  · rintro ⟨⟨hspread, hdet⟩, rfl⟩
    exact ⟨hspread, hdet, rfl⟩
  · rintro ⟨hspread, hdet, rfl⟩
    exact ⟨⟨hspread, hdet⟩, rfl⟩

/-- A face is aligned by a similarity exactly if it brings the landmarks closest to the template,
and neither the landmarks nor their images are too close together. -/
theorem alignTransform_closest (source : Fin 10 → ℚ) (m : Similarity ℚ) :
    alignTransform source = some m ↔
      1 / 1000000 < spread Finset.univ (landmarkPoint source) ∧
        1 / 100000000 < m.determinant ∧
        ∀ other : Similarity ℚ,
          residual Finset.univ (landmarkPoint source) templatePoints m ≤
            residual Finset.univ (landmarkPoint source) templatePoints other := by
  rw [alignTransform_eq_some_iff]
  constructor
  · rintro ⟨hspread, hdet, rfl⟩
    exact ⟨hspread, hdet, residual_fit_le (by linarith)⟩
  · rintro ⟨hspread, hdet, hleast⟩
    exact ⟨hspread, hdet, eq_fit_of_residual_le (by linarith) (hleast _)⟩

/-- A face that is turned, scaled and shifted is read at the points of the face that it was
before, turned, scaled and shifted. -/
theorem alignTransform_moved {source moved : Fin 10 → ℚ} {l m m' : Similarity ℚ}
    (hl : 0 < l.determinant)
    (hmoved : ∀ point, landmarkPoint moved point = l.apply (landmarkPoint source point))
    (h : alignTransform source = some m) (h' : alignTransform moved = some m')
    (q : PlanePoint ℚ) : m'.back q = l.apply (m.back q) := by
  obtain ⟨hspread, -, hm⟩ := alignTransform_eq_some_iff.mp h
  obtain ⟨-, hdet', hm'⟩ := alignTransform_eq_some_iff.mp h'
  rw [funext hmoved] at hm'
  have hcomp : m'.comp l = m := by
    rw [hm, hm']
    exact fit_apply_comp (by linarith) hl
  have hback : m.back q = l.back (m'.back q) := by
    rw [← hcomp, Similarity.back_comp (by linarith) hl.ne']
  rw [hback, Similarity.apply_back hl.ne']

/-- A face that is twice as large. -/
def doubledTemplate (coordinate : Fin 10) : ℚ := 2 * templateDevice coordinate

theorem alignTransform_moved_doubled :
    (fit Finset.univ (landmarkPoint doubledTemplate) templatePoints).back ⟨1, 1⟩ =
      Similarity.apply ⟨2, 0, 0, 0⟩
        ((fit Finset.univ templatePoints templatePoints).back ⟨1, 1⟩) := by
  refine alignTransform_moved (by decide +kernel) (fun point => ?_)
    (alignTransform_eq_some_iff.mpr ⟨by decide +kernel, by decide +kernel, rfl⟩)
    (alignTransform_eq_some_iff.mpr ⟨by decide +kernel, by decide +kernel, rfl⟩) ⟨1, 1⟩
  ext <;> simp [landmarkPoint, doubledTemplate, Similarity.apply]

end Transform

/-! ## The pixels of a face in exact numbers -/

/-- `sample_channel`, computed without rounding. -/
def sampleChannel (image : Nat → UInt8) (pitch : Nat) (p : PlanePoint ℚ) (channel : Nat) : ℚ :=
  if p.x < 0 ∨ p.y < 0 ∨ (alignedFaceWidth : ℚ) - 1 < p.x ∨ (alignedFaceHeight : ℚ) - 1 < p.y then 0
  else
    let x0 := ⌊p.x⌋₊
    let y0 := ⌊p.y⌋₊
    let x1 := min (x0 + 1) (alignedFaceWidth - 1)
    let y1 := min (y0 + 1) (alignedFaceHeight - 1)
    let dx := p.x - x0
    let dy := p.y - y0
    let top := ((image (y0 * pitch + x0 * 4 + channel)).toNat : ℚ) * (1 - dx) +
      ((image (y0 * pitch + x1 * 4 + channel)).toNat : ℚ) * dx
    let bottom := ((image (y1 * pitch + x0 * 4 + channel)).toNat : ℚ) * (1 - dx) +
      ((image (y1 * pitch + x1 * 4 + channel)).toNat : ℚ) * dx
    top * (1 - dy) + bottom * dy

section Sample

variable {image image' : Nat → UInt8} {pitch channel : Nat} {p : PlanePoint ℚ}

/-- A mixture lies between its parts. -/
theorem mix_mem {lo hi a b t : ℚ} (ha : lo ≤ a ∧ a ≤ hi) (hb : lo ≤ b ∧ b ≤ hi) (ht : 0 ≤ t)
    (ht' : t ≤ 1) : lo ≤ a * (1 - t) + b * t ∧ a * (1 - t) + b * t ≤ hi := by
  have hrest := sub_nonneg.mpr ht'
  constructor
  · calc lo = lo * (1 - t) + lo * t := by ring
      _ ≤ a * (1 - t) + b * t :=
          add_le_add (mul_le_mul_of_nonneg_right ha.1 hrest) (mul_le_mul_of_nonneg_right hb.1 ht)
  · calc a * (1 - t) + b * t ≤ hi * (1 - t) + hi * t :=
          add_le_add (mul_le_mul_of_nonneg_right ha.2 hrest) (mul_le_mul_of_nonneg_right hb.2 ht)
      _ = hi := by ring

theorem byte_mem (x : UInt8) : (0 : ℚ) ≤ (x.toNat : ℚ) ∧ ((x.toNat : ℕ) : ℚ) ≤ 255 := by
  refine ⟨Nat.cast_nonneg _, ?_⟩
  have hlt := x.toNat_lt
  exact_mod_cast Nat.le_of_lt_succ hlt

theorem sampleChannel_mem (image : Nat → UInt8) (pitch : Nat) (p : PlanePoint ℚ) (channel : Nat) :
    0 ≤ sampleChannel image pitch p channel ∧ sampleChannel image pitch p channel ≤ 255 := by
  unfold sampleChannel
  split
  · exact ⟨le_rfl, by norm_num⟩
  · rename_i hinside
    simp only [not_or, not_lt] at hinside
    obtain ⟨hx, hy, -, -⟩ := hinside
    have hdx : p.x - ⌊p.x⌋₊ ≤ 1 := by linarith [Nat.lt_floor_add_one p.x]
    have hdy : p.y - ⌊p.y⌋₊ ≤ 1 := by linarith [Nat.lt_floor_add_one p.y]
    have hdx' := sub_nonneg.mpr (Nat.floor_le hx)
    have hdy' := sub_nonneg.mpr (Nat.floor_le hy)
    exact mix_mem (mix_mem (byte_mem _) (byte_mem _) hdx' hdx)
      (mix_mem (byte_mem _) (byte_mem _) hdx' hdx) hdy' hdy

/-- Nothing is read outside of the crop. -/
theorem sampleChannel_congr (hcrop : ∀ y < alignedFaceHeight, ∀ x < alignedFaceWidth,
      image (y * pitch + x * 4 + channel) = image' (y * pitch + x * 4 + channel)) :
    sampleChannel image pitch p channel = sampleChannel image' pitch p channel := by
  unfold sampleChannel
  split
  · rfl
  · rename_i hinside
    simp only [not_or, not_lt] at hinside
    obtain ⟨hx, hy, hx', hy'⟩ := hinside
    have hx0 : ⌊p.x⌋₊ < alignedFaceWidth := by
      apply (Nat.floor_lt hx).mpr
      linarith
    have hy0 : ⌊p.y⌋₊ < alignedFaceHeight := by
      apply (Nat.floor_lt hy).mpr
      linarith
    have hx1 : min (⌊p.x⌋₊ + 1) (alignedFaceWidth - 1) < alignedFaceWidth :=
      min_lt_of_right_lt (by decide)
    have hy1 : min (⌊p.y⌋₊ + 1) (alignedFaceHeight - 1) < alignedFaceHeight :=
      min_lt_of_right_lt (by decide)
    simp only [hcrop _ hy0 _ hx0, hcrop _ hy0 _ hx1, hcrop _ hy1 _ hx0, hcrop _ hy1 _ hx1]

end Sample

namespace FaceInput

variable (face : FaceInput (Option ℚ))

def transform : Option (Similarity ℚ) :=
  (finiteLandmarks face.landmarks).bind alignTransform

/-- The place of a pixel of the aligned face. -/
def outputPoint (pixel : Nat) : PlanePoint ℚ :=
  ⟨(pixel % alignedFaceWidth : Nat), (pixel / alignedFaceWidth : Nat)⟩

/-- A value of a pixel. -/
def value (pixel channel : Nat) : ℚ :=
  match face.transform with
  | none => 0
  | some m => sampleChannel face.image face.pitch (m.back (outputPoint pixel)) channel

/-- The value as a byte. -/
def byte (pixel channel : Nat) : UInt8 :=
  UInt8.ofNat (roundHalfEven (face.value pixel channel)).toNat

end FaceInput

namespace FaceInput

theorem value_mem (face : FaceInput (Option ℚ)) (pixel channel : Nat) :
    0 ≤ face.value pixel channel ∧ face.value pixel channel ≤ 255 := by
  unfold value
  split
  · exact ⟨le_rfl, by norm_num⟩
  · exact sampleChannel_mem _ _ _ _

/-- The conversion to a byte does not wrap. -/
theorem byte_toNat (face : FaceInput (Option ℚ)) (pixel channel : Nat) :
    ((face.byte pixel channel).toNat : ℤ) = roundHalfEven (face.value pixel channel) := by
  obtain ⟨hnonneg, hle⟩ := face.value_mem pixel channel
  have hround : 0 ≤ roundHalfEven (face.value pixel channel) :=
    le_roundHalfEven (by exact_mod_cast hnonneg)
  have hround' : roundHalfEven (face.value pixel channel) ≤ 255 :=
    roundHalfEven_le (by exact_mod_cast hle)
  unfold byte
  rw [UInt8.toNat_ofNat']
  omega

theorem value_congr {face : FaceInput (Option ℚ)} {image : Nat → UInt8} {pixel channel : Nat}
    (hcrop : ∀ y < alignedFaceHeight, ∀ x < alignedFaceWidth,
      face.image (y * face.pitch + x * 4 + channel) = image (y * face.pitch + x * 4 + channel)) :
    face.value pixel channel = { face with image := image }.value pixel channel := by
  unfold value transform
  cases (finiteLandmarks face.landmarks).bind alignTransform with
  | none => rfl
  | some m => exact sampleChannel_congr hcrop

end FaceInput

/-! ## The kernel in exact numbers -/

/-- Numbers without rounding; what is not finite is none. -/
def exactArithmetic : AlignArithmetic (Option ℚ) where
  literal q := some q
  add := Option.map₂ (· + ·)
  sub := Option.map₂ (· - ·)
  mul := Option.map₂ (· * ·)
  div p q := p.bind fun x => q.bind fun y => if y = 0 then none else some (x / y)
  neg := Option.map (- ·)
  less p q := (Option.map₂ (fun x y => decide (x < y)) p q).getD false
  lessEq p q := (Option.map₂ (fun x y => decide (x ≤ y)) p q).getD false
  isFinite := Option.isSome
  floor p := ⌊p.getD 0⌋₊
  roundByte p := UInt8.ofNat (roundHalfEven (p.getD 0)).toNat

section Exact

/-- A similarity whose numbers are all finite. -/
def finiteSimilarity (m : Similarity ℚ) : Similarity (Option ℚ) :=
  ⟨some m.a, some m.b, some m.shiftX, some m.shiftY⟩

/-- Once it is not finite, a part of what a loop carries stays so. -/
theorem foldl_eq_none {α S : Type} {part : S → Option ℚ} {f : S → α → S}
    (hkeep : ∀ s x, part s = none → part (f s x) = none) {x : α} {l : List α} (hx : x ∈ l)
    (hnone : ∀ s, part (f s x) = none) (s : S) : part (l.foldl f s) = none := by
  have hstays : ∀ (l : List α) (s : S), part s = none → part (l.foldl f s) = none := by
    intro l
    induction l with
    | nil => exact fun _ h => h
    | cons y l ih => exact fun s h => ih _ (hkeep s y h)
  induction l generalizing s with
  | nil => cases hx
  | cons y l ih =>
      rw [List.foldl_cons]
      rcases List.mem_cons.mp hx with rfl | hrest
      · exact hstays l _ (hnone s)
      · exact ih hrest _

/-- The sums of a face with a coordinate that is not finite. -/
theorem coordinateSums_none {source : Fin 10 → Option ℚ} {coordinate : Fin 10}
    (h : source coordinate = none) :
    (exactArithmetic.coordinateSums source).1 = none ∨
      (exactArithmetic.coordinateSums source).2.1 = none := by
  unfold AlignArithmetic.coordinateSums
  rcases Nat.mod_two_eq_zero_or_one coordinate with hx | hy
  · have hindex : coordinate = ⟨coordinate / 2 * 2, by omega⟩ := Fin.ext (by dsimp only; omega)
    left
    apply @foldl_eq_none _ _ Prod.fst _ _ (⟨coordinate / 2, by omega⟩ : Fin 5)
    · exact List.mem_finRange _
    · intro s
      show Option.map₂ (· + ·) s.1 (source ⟨coordinate / 2 * 2, _⟩) = none
      rw [← hindex, h, Option.map₂_none_right]
    · rintro s point hnone
      show Option.map₂ (· + ·) s.1 _ = none
      rw [hnone, Option.map₂_none_left]
  · have hindex : coordinate = ⟨coordinate / 2 * 2 + 1, by omega⟩ :=
      Fin.ext (by dsimp only; omega)
    right
    apply @foldl_eq_none _ _ (fun s : Option ℚ × Option ℚ × Option ℚ × Option ℚ => s.2.1) _ _
      (⟨coordinate / 2, by omega⟩ : Fin 5)
    · exact List.mem_finRange _
    · intro s
      show Option.map₂ (· + ·) s.2.1 (source ⟨coordinate / 2 * 2 + 1, _⟩) = none
      rw [← hindex, h, Option.map₂_none_right]
    · rintro s point hnone
      show Option.map₂ (· + ·) s.2.1 _ = none
      rw [hnone, Option.map₂_none_left]

/-- `denominator` is finite only if both means are. -/
theorem productSums_none {source : Fin 10 → Option ℚ} {sourceMean : PlanePoint (Option ℚ)}
    (targetMean : PlanePoint (Option ℚ)) (h : sourceMean.x = none ∨ sourceMean.y = none) :
    (exactArithmetic.productSums source sourceMean targetMean).2.2 = none := by
  unfold AlignArithmetic.productSums
  apply @foldl_eq_none _ _ (fun s : Option ℚ × Option ℚ × Option ℚ => s.2.2) _ _ (0 : Fin 5)
  · exact List.mem_finRange _
  · intro s
    show Option.map₂ (· + ·) s.2.2 (Option.map₂ (· + ·) _ _) = none
    rcases h with hx | hy
    · simp [exactArithmetic, hx]
    · simp [exactArithmetic, hy]
  · rintro s point hnone
    show Option.map₂ (· + ·) s.2.2 _ = none
    rw [hnone, Option.map₂_none_left]

section Operations

variable (x y : ℚ)

@[simp] theorem exact_literal : exactArithmetic.literal x = some x := rfl

@[simp] theorem exact_add : exactArithmetic.add (some x) (some y) = some (x + y) := rfl

@[simp] theorem exact_sub : exactArithmetic.sub (some x) (some y) = some (x - y) := rfl

@[simp] theorem exact_mul : exactArithmetic.mul (some x) (some y) = some (x * y) := rfl

@[simp] theorem exact_neg : exactArithmetic.neg (some x) = some (-x) := rfl

@[simp] theorem exact_less : exactArithmetic.less (some x) (some y) = decide (x < y) := rfl

@[simp] theorem exact_isFinite : exactArithmetic.isFinite (some x) = true := rfl

@[simp] theorem exact_floor : exactArithmetic.floor (some x) = ⌊x⌋₊ := rfl

theorem exact_div {y : ℚ} (hy : y ≠ 0) : exactArithmetic.div (some x) (some y) = some (x / y) :=
  if_neg hy

end Operations

/-- The loops of the transform on finite landmarks. -/
theorem coordinateSums_some (s : Fin 10 → ℚ) :
    exactArithmetic.coordinateSums (fun coordinate => some (s coordinate)) =
      (some (∑ i, (landmarkPoint s i).x), some (∑ i, (landmarkPoint s i).y),
        some (∑ i, (templatePoints i).x), some (∑ i, (templatePoints i).y)) := by
  simp only [Fin.sum_univ_five]
  simp [AlignArithmetic.coordinateSums, List.finRange_succ, landmarkPoint]

theorem productSums_some (s : Fin 10 → ℚ) (sourceX sourceY targetX targetY : ℚ) :
    exactArithmetic.productSums (fun coordinate => some (s coordinate))
        ⟨some sourceX, some sourceY⟩ ⟨some targetX, some targetY⟩ =
      (some (∑ i, (((landmarkPoint s i).x - sourceX) * ((templatePoints i).x - targetX) +
          ((landmarkPoint s i).y - sourceY) * ((templatePoints i).y - targetY))),
        some (∑ i, (((landmarkPoint s i).x - sourceX) * ((templatePoints i).y - targetY) -
          ((landmarkPoint s i).y - sourceY) * ((templatePoints i).x - targetX))),
        some (∑ i, (((landmarkPoint s i).x - sourceX) * ((landmarkPoint s i).x - sourceX) +
          ((landmarkPoint s i).y - sourceY) * ((landmarkPoint s i).y - sourceY)))) := by
  simp only [Fin.sum_univ_five]
  simp [AlignArithmetic.productSums, List.finRange_succ, landmarkPoint]

/-- In exact numbers the kernel finds the transform, of finite landmarks. -/
theorem exact_transform (source : Fin 10 → Option ℚ) :
    exactArithmetic.transform source =
      ((finiteLandmarks source).bind alignTransform).map finiteSimilarity := by
  unfold finiteLandmarks
  split
  · rename_i hfinite
    obtain ⟨s, rfl⟩ : ∃ s : Fin 10 → ℚ, source = fun coordinate => some (s coordinate) :=
      ⟨fun coordinate => (source coordinate).get (hfinite coordinate),
        funext fun coordinate => (Option.some_get _).symm⟩
    rw [Option.bind_some]
    unfold AlignArithmetic.transform alignTransform AlignArithmetic.determinant
    simp only [coordinateSums_some, foldl_add_finRange, Prod.fst_sum, Prod.snd_sum, exact_literal,
      exact_mul, productSums_some, exact_isFinite, exact_less, Bool.true_and, decide_eq_true_eq,
      Option.getD_some]
    split
    · rename_i hlarge
      have hdenominator := ((by norm_num : (0 : ℚ) < 1 / 1000000).trans hlarge).ne'
      simp only [exact_div _ hdenominator, exact_isFinite, exact_mul, exact_add, exact_sub,
        exact_less, Bool.true_and, decide_eq_true_eq]
      split
      · rfl
      · rfl
    · rfl
  · rename_i hmissing
    push Not at hmissing
    obtain ⟨coordinate, hcoordinate⟩ := hmissing
    have hnone := Option.not_isSome_iff_eq_none.mp hcoordinate
    have hdenominator (targetMean : PlanePoint (Option ℚ)) := @productSums_none source
      ⟨exactArithmetic.mul (exactArithmetic.coordinateSums source).1
          (exactArithmetic.literal (1 / 5)),
        exactArithmetic.mul (exactArithmetic.coordinateSums source).2.1
          (exactArithmetic.literal (1 / 5))⟩
      targetMean (by
        rcases coordinateSums_none hnone with hx | hy
        · left
          rw [hx]
          rfl
        · right
          rw [hy]
          rfl)
    unfold AlignArithmetic.transform
    dsimp only
    rw [Option.bind_none, Option.map_none, if_neg]
    intro h
    have hfinite := (Bool.and_eq_true_iff.mp h).1
    rw [hdenominator] at hfinite
    cases hfinite

/-- A pixel comes from where the transform brings it back to. -/
theorem exact_sourcePoint {m : Similarity ℚ} (hm : m.determinant ≠ 0) (pixel : Nat) :
    exactArithmetic.sourcePoint (finiteSimilarity m) pixel =
      ⟨some (m.back (FaceInput.outputPoint pixel)).x,
        some (m.back (FaceInput.outputPoint pixel)).y⟩ := by
  have hm : m.a * m.a + m.b * m.b ≠ 0 := hm
  simp only [AlignArithmetic.sourcePoint, AlignArithmetic.determinant, finiteSimilarity,
    exact_literal, exact_sub, exact_mul, exact_neg, exact_add, exact_div _ hm]
  rfl

theorem exact_sampleChannel (image : Nat → UInt8) (pitch : Nat) (p : PlanePoint ℚ)
    (channel : Nat) :
    exactArithmetic.sampleChannel image pitch ⟨some p.x, some p.y⟩ channel =
      some (sampleChannel image pitch p channel) := by
  unfold AlignArithmetic.sampleChannel sampleChannel
  simp only [exact_literal, exact_less, exact_floor, exact_sub, exact_mul, exact_add,
    Bool.or_eq_true, decide_eq_true_eq, or_assoc]
  split
  · rfl
  · rfl

/-- In exact numbers the kernel finds the values of a pixel. -/
theorem exact_pixelValue (face : FaceInput (Option ℚ)) (pixel channel : Nat) :
    exactArithmetic.pixelValue face pixel channel = some (face.value pixel channel) := by
  unfold AlignArithmetic.pixelValue FaceInput.value FaceInput.transform
  rw [exact_transform]
  cases hfound : (finiteLandmarks face.landmarks).bind alignTransform with
  | none => rfl
  | some m =>
      obtain ⟨source, -, hsource⟩ := Option.bind_eq_some_iff.mp hfound
      have hdeterminant := (alignTransform_eq_some_iff.mp hsource).2.1
      rw [Option.map_some]
      dsimp only
      rw [exact_sourcePoint ((by norm_num : (0 : ℚ) < 1 / 100000000).trans hdeterminant).ne',
        exact_sampleChannel]

end Exact

namespace FaceInput

/-- In exact numbers a pixel of an aligned face depends on the bytes of the crop only, it is the
value of a byte, and the byte that is stored is the nearest one. -/
theorem value_sound {face : FaceInput (Option ℚ)} {image : Nat → UInt8} {pixel channel : Nat}
    (hcrop : ∀ y < alignedFaceHeight, ∀ x < alignedFaceWidth,
      face.image (y * face.pitch + x * 4 + channel) = image (y * face.pitch + x * 4 + channel)) :
    ∃ value, exactArithmetic.pixelValue face pixel channel = some value ∧
      exactArithmetic.pixelValue { face with image := image } pixel channel = some value ∧
      0 ≤ value ∧ value ≤ 255 ∧
      |((exactArithmetic.pixelByte face pixel channel).toNat : ℚ) - value| ≤ 1 / 2 := by
  obtain ⟨hnonneg, hle⟩ := face.value_mem pixel channel
  have hstored : exactArithmetic.pixelByte face pixel channel = face.byte pixel channel := by
    unfold AlignArithmetic.pixelByte
    rw [exact_pixelValue]
    rfl
  refine ⟨face.value pixel channel, exact_pixelValue face pixel channel, ?_, hnonneg, hle, ?_⟩
  · rw [exact_pixelValue, value_congr hcrop]
  · have hbyte : ((face.byte pixel channel).toNat : ℚ) =
        (roundHalfEven (face.value pixel channel) : ℤ) := by
      rw [← byte_toNat]
      rfl
    rw [hstored, hbyte]
    exact roundHalfEven_near _

/-- A crop whose bytes grow to the right and grey behind it, and landmarks where the template has
them. -/
def upright : FaceInput (Option ℚ) where
  image address := if address < 112 * 448 then UInt8.ofNat (address % 448 / 4 * 2) else 9
  pitch := 448
  landmarks coordinate := some (templateDevice coordinate)

theorem value_sound_upright :
    ∃ value, exactArithmetic.pixelValue upright 120 1 = some value ∧
      exactArithmetic.pixelValue
        { upright with image := fun address => UInt8.ofNat (address % 448 / 4 * 2) } 120 1 =
          some value ∧
      0 ≤ value ∧ value ≤ 255 ∧
      |((exactArithmetic.pixelByte upright 120 1).toNat : ℚ) - value| ≤ 1 / 2 := by
  refine value_sound fun y hy x hx => ?_
  have hy : y < 112 := hy
  have hx : x < 112 := hx
  exact if_pos (by unfold upright; dsimp only; omega)

end FaceInput

end Mvision.Images
