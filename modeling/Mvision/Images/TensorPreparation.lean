import Mvision.Images.Alignment
import Mvision.Library.Kernels
import Mvision.Library.Saga

/-!
# Aligning the faces of a batch: `MvisionCustomTensorPreparation`

A batch of objects becomes the input tensor of the embedding network, one aligned face after the
other.  The arrays of a context keep what the batches before have left.  Nothing is assumed of the
arithmetic: it may round, overflow or give values that are no numbers.
-/

namespace Mvision.Images

open Mvision.Library

/-! ## The threads of `align_kernel` -/

variable {V : Type}

/-- The arrays that the kernel reads. -/
structure AlignInputs (V : Type) where
  inputRgb : Nat → Nat → UInt8
  inputPitch : Nat → Nat
  sourceLandmarksXy : Nat → V

def AlignInputs.face (inputs : AlignInputs V) (face : Nat) : FaceInput V :=
  ⟨inputs.inputRgb face, inputs.inputPitch face,
    fun coordinate => inputs.sourceLandmarksXy (face * 10 + coordinate)⟩

/-- An iteration of a thread of the block of a face, and a channel that it stores. -/
structure AlignStep where
  face : Nat
  threadIdx : Nat
  iteration : Nat
  channel : Nat
deriving DecidableEq

namespace AlignStep

variable (step : AlignStep)

def pixel : Nat := step.threadIdx + step.iteration * 256

/-- The step is one of the launch. -/
def Launched (batchSize : Nat) : Prop :=
  step.face < batchSize ∧ step.threadIdx < 256 ∧ step.pixel < alignedPixels ∧ step.channel < 3

end AlignStep

def rgbAddress (face pixel channel : Nat) : Nat := face * alignedPixels * 3 + pixel * 3 + channel

def tensorAddress (face pixel channel : Nat) : Nat :=
  face * alignedPixels * 3 + alignedPixels * channel + pixel

section Stores

variable (a : AlignArithmetic V) (inputs : AlignInputs V) (step : AlignStep)

def storeRgb : Option (Nat × UInt8) :=
  some (rgbAddress step.face step.pixel step.channel,
    a.pixelByte (inputs.face step.face) step.pixel step.channel)

def storeTensor : Option (Nat × V) :=
  some (tensorAddress step.face step.pixel step.channel,
    a.pixelValue (inputs.face step.face) step.pixel step.channel)

end Stores

/-- The orders in which the two arrays are stored. -/
structure AlignOrder where
  rgb : List AlignStep
  tensor : List AlignStep

/-- All steps come, and no others. -/
def AlignOrder.Complete (order : AlignOrder) (batchSize : Nat) : Prop :=
  (∀ step, step ∈ order.rgb ↔ step.Launched batchSize) ∧
    ∀ step, step ∈ order.tensor ↔ step.Launched batchSize

/-- `launch_face_alignment`: `aligned_rgb` and `aligned_nchw`. -/
def launchFaceAlignment (a : AlignArithmetic V) (inputs : AlignInputs V) (order : AlignOrder)
    (alignedRgb : Nat → UInt8) (alignedNchw : Nat → V) : (Nat → UInt8) × (Nat → V) :=
  (runThreads (storeRgb a inputs) order.rgb alignedRgb,
    runThreads (storeTensor a inputs) order.tensor alignedNchw)

section Launch

variable {a : AlignArithmetic V} {inputs : AlignInputs V} {order : AlignOrder}
  {batchSize face pixel channel : Nat}

/-- The step that stores a pixel. -/
theorem exists_launched (hface : face < batchSize) (hpixel : pixel < alignedPixels)
    (hchannel : channel < 3) :
    ∃ step : AlignStep, step.Launched batchSize ∧ step.face = face ∧ step.pixel = pixel ∧
      step.channel = channel := by
  have hsplit : pixel % 256 + pixel / 256 * 256 = pixel := by omega
  refine ⟨⟨face, pixel % 256, pixel / 256, channel⟩,
    ⟨hface, Nat.mod_lt _ (by decide), ?_, hchannel⟩, rfl, hsplit, rfl⟩
  show pixel % 256 + pixel / 256 * 256 < alignedPixels
  rwa [hsplit]

theorem rgbAddress_inj {step : AlignStep} (hstep : step.Launched batchSize)
    (hpixel : pixel < alignedPixels) (hchannel : channel < 3)
    (h : rgbAddress step.face step.pixel step.channel = rgbAddress face pixel channel) :
    step.face = face ∧ step.pixel = pixel ∧ step.channel = channel := by
  obtain ⟨-, -, hpixel', hchannel'⟩ := hstep
  simp only [rgbAddress, alignedPixels, alignedFaceWidth, alignedFaceHeight] at h hpixel hpixel'
  omega

theorem tensorAddress_inj {step : AlignStep} (hstep : step.Launched batchSize)
    (hpixel : pixel < alignedPixels) (hchannel : channel < 3)
    (h : tensorAddress step.face step.pixel step.channel = tensorAddress face pixel channel) :
    step.face = face ∧ step.pixel = pixel ∧ step.channel = channel := by
  obtain ⟨-, -, hpixel', hchannel'⟩ := hstep
  simp only [tensorAddress, alignedPixels, alignedFaceWidth, alignedFaceHeight] at h hpixel hpixel'
  omega

theorem launch_rgb (horder : order.Complete batchSize) (hface : face < batchSize)
    (hpixel : pixel < alignedPixels) (hchannel : channel < 3) (alignedRgb : Nat → UInt8)
    (alignedNchw : Nat → V) :
    (launchFaceAlignment a inputs order alignedRgb alignedNchw).1 (rgbAddress face pixel channel) =
      a.pixelByte (inputs.face face) pixel channel := by
  apply runThreads_eq
  · intro step hstep v hstore
    obtain ⟨haddress, rfl⟩ := Prod.mk.inj (Option.some.inj hstore)
    obtain ⟨rfl, rfl, rfl⟩ := rgbAddress_inj ((horder.1 step).mp hstep) hpixel hchannel haddress
    rfl
  · obtain ⟨step, hstep, rfl, rfl, rfl⟩ := exists_launched hface hpixel hchannel
    exact ⟨step, (horder.1 step).mpr hstep, rfl⟩

theorem launch_tensor (horder : order.Complete batchSize) (hface : face < batchSize)
    (hpixel : pixel < alignedPixels) (hchannel : channel < 3) (alignedRgb : Nat → UInt8)
    (alignedNchw : Nat → V) :
    (launchFaceAlignment a inputs order alignedRgb alignedNchw).2
        (tensorAddress face pixel channel) =
      a.pixelValue (inputs.face face) pixel channel := by
  apply runThreads_eq
  · intro step hstep v hstore
    obtain ⟨haddress, rfl⟩ := Prod.mk.inj (Option.some.inj hstore)
    obtain ⟨rfl, rfl, rfl⟩ :=
      tensorAddress_inj ((horder.2 step).mp hstep) hpixel hchannel haddress
    rfl
  · obtain ⟨step, hstep, rfl, rfl, rfl⟩ := exists_launched hface hpixel hchannel
    exact ⟨step, (horder.2 step).mpr hstep, rfl⟩

end Launch

/-! ## `MvisionCustomTensorPreparation` -/

/-- The metadata of an object. -/
structure FaceObject (V : Type) where
  maskData : Option (Nat → V)
  maskSize : Nat
  left : V
  top : V
  width : V
  height : V

structure PreprocessUnit (V : Type) where
  objectMeta : Option (FaceObject V)
  convertedFrame : Option (Nat → UInt8)
  convertedPitch : Option Nat

/-- The landmarks in the coordinates of the crop. -/
def FaceObject.cropLandmarks (a : AlignArithmetic V) (object : FaceObject V) (data : Nat → V)
    (coordinate : Fin 10) : V :=
  let landmark : Nat := coordinate / 2
  if (coordinate : Nat) % 2 = 0 then
    a.div (a.mul (a.sub (data (landmark * 3)) object.left) (a.literal alignedFaceWidth))
      object.width
  else
    a.div (a.mul (a.sub (data (landmark * 3 + 1)) object.top) (a.literal alignedFaceHeight))
      object.height

/-- What is read of a unit; none if its parameters are invalid. -/
def PreprocessUnit.faceInput (a : AlignArithmetic V) (unit : PreprocessUnit V) :
    Option (FaceInput V) := do
  let object ← unit.objectMeta
  let data ← object.maskData
  guard (15 * 4 ≤ object.maskSize)
  let image ← unit.convertedFrame
  let pitch ← unit.convertedPitch
  -- a side that is no number is not refused
  guard (a.lessEq object.width (a.literal 0) = false ∧
    a.lessEq object.height (a.literal 0) = false)
  pure ⟨image, pitch, object.cropLandmarks a data⟩

/-- A `CustomCtx`. -/
structure AlignContext (V : Type) where
  maxBatch : Nat
  host : AlignInputs V
  device : AlignInputs V
  alignedRgb : Nat → UInt8

inductive PreprocessError
  | invalidParams
  | resourceError
  | cudaError
deriving DecidableEq, Repr

/-- What the calls of CUDA and of the acquirer do. -/
structure PreparationCalls (V : Type) where
  setDevice : Bool
  acquired : Option (Nat → V)
  copyInputs : Bool
  copyPitches : Bool
  copyLandmarks : Bool
  launch : Bool
  synchronize : Bool
  order : AlignOrder

structure PreparedTensor (V : Type) where
  memory : Nat → V
  faceCount : Nat

abbrev Preparing (V : Type) := Saga (AlignContext V) PreprocessError

/-- The host arrays with a face. -/
def AlignInputs.store (inputs : AlignInputs V) (index : Nat) (face : FaceInput V) :
    AlignInputs V where
  inputRgb := Function.update inputs.inputRgb index face.image
  inputPitch := Function.update inputs.inputPitch index face.pitch
  sourceLandmarksXy :=
    storeList inputs.sourceLandmarksXy (index * 10) (List.ofFn face.landmarks)

/-- The loop over the units, from one on. -/
def readUnits (a : AlignArithmetic V) (index : Nat) : List (PreprocessUnit V) → Preparing V Unit
  | [] => pure ()
  | unit :: units => do
      match unit.faceInput a with
      | none => throw .invalidParams
      | some face =>
          modify fun ctx => { ctx with host := ctx.host.store index face }
          readUnits a (index + 1) units

/-- A call of CUDA that does something unless it fails. -/
def cudaCall (succeeds : Bool) (effect : AlignContext V → AlignContext V) : Preparing V Unit :=
  if succeeds then modify effect else throw .cudaError

/-- The first elements of an array are copied. -/
def copyFirst {ν : Type} (count : Nat) (source target : Nat → ν) (i : Nat) : ν :=
  if i < count then source i else target i

/-- The checks of the batch. -/
def checkBatch (calls : PreparationCalls V) (units : List (PreprocessUnit V)) :
    Preparing V Unit := do
  let ctx ← get
  if units = [] ∨ ctx.maxBatch < units.length ∨ calls.setDevice = false then
    throw .invalidParams
  else pure ()

/-- `acquirer->acquire()` -/
def acquire (calls : PreparationCalls V) : Preparing V (Nat → V) :=
  match calls.acquired with
  | none => throw .resourceError
  | some memory => pure memory

/-- `launch_face_alignment` on the arrays of the device; the tensor that it leaves. -/
def launchPrepared (a : AlignArithmetic V) (calls : PreparationCalls V) (memory : Nat → V) :
    Preparing V (Nat → V) := do
  let ctx ← get
  let aligned := launchFaceAlignment a ctx.device calls.order ctx.alignedRgb memory
  cudaCall calls.launch fun ctx => { ctx with alignedRgb := aligned.1 }
  pure aligned.2

/-- `MvisionCustomTensorPreparation` -/
def tensorPreparation (a : AlignArithmetic V) (calls : PreparationCalls V)
    (units : List (PreprocessUnit V)) : Preparing V (PreparedTensor V) := do
  checkBatch calls units
  readUnits a 0 units
  let memory ← acquire calls
  cudaCall calls.copyInputs fun ctx => { ctx with
    device.inputRgb := copyFirst units.length ctx.host.inputRgb ctx.device.inputRgb }
  cudaCall calls.copyPitches fun ctx => { ctx with
    device.inputPitch := copyFirst units.length ctx.host.inputPitch ctx.device.inputPitch }
  cudaCall calls.copyLandmarks fun ctx => { ctx with
    device.sourceLandmarksXy := copyFirst (units.length * 10) ctx.host.sourceLandmarksXy
      ctx.device.sourceLandmarksXy }
  let tensor ← launchPrepared a calls memory
  cudaCall calls.synchronize id
  pure ⟨tensor, units.length⟩

section Preparation

variable {a : AlignArithmetic V} {calls : PreparationCalls V} {units done : List (PreprocessUnit V)}
  {ctx : AlignContext V}

theorem face_store (inputs : AlignInputs V) (index i : Nat) (face : FaceInput V) :
    (inputs.store index face).face i = if i = index then face else inputs.face i := by
  split
  · subst i
    have hlandmarks : ∀ coordinate : Fin 10,
        storeList inputs.sourceLandmarksXy (index * 10) (List.ofFn face.landmarks)
          (index * 10 + coordinate) = face.landmarks coordinate := by
      intro coordinate
      rw [storeList_of_lt (by rw [List.length_ofFn]; exact coordinate.2), List.getElem_ofFn]
    simp only [AlignInputs.face, AlignInputs.store, Function.update_self, hlandmarks]
  · rename_i hother
    have hlandmarks : ∀ coordinate : Fin 10,
        storeList inputs.sourceLandmarksXy (index * 10) (List.ofFn face.landmarks)
          (i * 10 + coordinate) = inputs.sourceLandmarksXy (i * 10 + coordinate) := by
      intro coordinate
      apply storeList_other
      rw [List.length_ofFn]
      omega
    simp only [AlignInputs.face, AlignInputs.store, Function.update_of_ne hother, hlandmarks]

/-- The faces of the units are the first ones of the arrays. -/
def Holds (a : AlignArithmetic V) (units : List (PreprocessUnit V)) (inputs : AlignInputs V) :
    Prop :=
  ∀ i unit, units[i]? = some unit → unit.faceInput a = some (inputs.face i)

theorem Holds.store {inputs : AlignInputs V} (h : Holds a done inputs) {unit : PreprocessUnit V}
    {face : FaceInput V} (hface : unit.faceInput a = some face) :
    Holds a (done ++ [unit]) (inputs.store done.length face) := by
  intro i other hother
  rw [face_store]
  rcases lt_trichotomy i done.length with hlt | rfl | hlt
  · rw [List.getElem?_append_left hlt] at hother
    rw [if_neg hlt.ne]
    exact h i other hother
  · rw [List.getElem?_concat_length] at hother
    obtain rfl := Option.some.inj hother
    rw [if_pos rfl]
    exact hface
  · have hpast : (done ++ [unit]).length ≤ i := by
      rw [List.length_append, List.length_singleton]
      exact hlt
    rw [List.getElem?_eq_none hpast] at hother
    cases hother

theorem ends_readUnits (h : Holds a done ctx.host) :
    Saga.Ends (fun _ t => Holds a (done ++ units) t.host)
      (fun _ _ => ∃ unit ∈ units, unit.faceInput a = none) (readUnits a done.length units) ctx := by
  -- on the units that are left; those that are done are in the host arrays
  induction units generalizing done ctx with
  | nil =>
      apply Saga.ends_pure
      rwa [List.append_nil]
  | cons unit units ih =>
      unfold readUnits
      split
      · rename_i hnone
        exact Saga.ends_throw ⟨unit, List.mem_cons_self, hnone⟩
      · rename_i face hface
        apply Saga.ends_modify_bind
        have hstored := @ih (done ++ [unit]) { ctx with host := ctx.host.store done.length face }
          (h.store hface)
        rw [List.length_append, List.append_assoc] at hstored
        refine hstored.imp (fun _ t ht => ht) fun _ t ht => ?_
        obtain ⟨other, hother, hnone⟩ := ht
        exact ⟨other, List.mem_cons_of_mem _ hother, hnone⟩

/-- The batch fits the context, all its units are valid and all calls succeed. -/
structure Ready (a : AlignArithmetic V) (calls : PreparationCalls V)
    (units : List (PreprocessUnit V)) (ctx : AlignContext V) : Prop where
  nonempty : units ≠ []
  fits : units.length ≤ ctx.maxBatch
  setDevice : calls.setDevice = true
  valid : ∀ unit ∈ units, unit.faceInput a ≠ none
  acquired : calls.acquired ≠ none
  copyInputs : calls.copyInputs = true
  copyPitches : calls.copyPitches = true
  copyLandmarks : calls.copyLandmarks = true
  launch : calls.launch = true
  synchronize : calls.synchronize = true

theorem ends_cudaCall {succeeds : Bool} {effect : AlignContext V → AlignContext V} {P : Prop}
    (hfails : succeeds = false → P) :
    Saga.Ends (fun _ t => succeeds = true ∧ t = effect ctx) (fun _ _ => P)
      (cudaCall succeeds effect) ctx := by
  unfold cudaCall
  split
  · rename_i h
    exact Saga.ends_modify ⟨h, rfl⟩
  · rename_i h
    exact Saga.ends_throw (hfails (Bool.eq_false_iff.mpr h))

theorem copyFirst_of_lt {ν : Type} {count i : Nat} (source target : Nat → ν) (h : i < count) :
    copyFirst count source target i = source i := if_pos h

theorem ends_checkBatch :
    Saga.Ends (fun _ t => t = ctx ∧ units ≠ [] ∧ units.length ≤ ctx.maxBatch ∧
        calls.setDevice = true)
      (fun _ _ => ¬ Ready a calls units ctx) (checkBatch calls units) ctx := by
  unfold checkBatch
  apply Saga.ends_get_bind
  split
  · rename_i hrefused
    refine Saga.ends_throw fun hready => ?_
    rcases hrefused with hempty | hlarge | hdevice
    · exact hready.nonempty hempty
    · exact absurd hready.fits (not_le.mpr hlarge)
    · rw [hready.setDevice] at hdevice
      cases hdevice
  · rename_i haccepted
    simp only [not_or, not_lt, Bool.not_eq_false] at haccepted
    exact Saga.ends_pure ⟨rfl, haccepted⟩

theorem ends_acquire :
    Saga.Ends (fun memory t => calls.acquired = some memory ∧ t = ctx)
      (fun _ _ => calls.acquired = none) (acquire calls) ctx := by
  unfold acquire
  split
  · rename_i h
    exact Saga.ends_throw h
  · rename_i memory h
    exact Saga.ends_pure ⟨h, rfl⟩

/-- The faces of the device are those of the host. -/
theorem face_copied {host device : AlignInputs V} {count i : Nat} (h : i < count) :
    ({ inputRgb := copyFirst count host.inputRgb device.inputRgb
       inputPitch := copyFirst count host.inputPitch device.inputPitch
       sourceLandmarksXy := copyFirst (count * 10) host.sourceLandmarksXy
         device.sourceLandmarksXy } : AlignInputs V).face i = host.face i := by
  have hlandmarks : ∀ coordinate : Fin 10,
      copyFirst (count * 10) host.sourceLandmarksXy device.sourceLandmarksXy
        (i * 10 + coordinate) = host.sourceLandmarksXy (i * 10 + coordinate) := by
    intro coordinate
    exact copyFirst_of_lt _ _ (by omega)
  simp only [AlignInputs.face, copyFirst_of_lt _ _ h, hlandmarks]

theorem Holds.valid {inputs : AlignInputs V} (h : Holds a units inputs) :
    ∀ unit ∈ units, unit.faceInput a ≠ none := by
  intro unit hunit
  obtain ⟨i, hi⟩ := List.mem_iff_getElem?.mp hunit
  rw [h i unit hi]
  exact Option.some_ne_none _

/-- What a launch leaves, where the arrays hold the faces. -/
theorem ends_launchPrepared {inputs : AlignInputs V} (hheld : Holds a units inputs)
    (hdevice : ∀ i < units.length, ctx.device.face i = inputs.face i)
    (horder : calls.order.Complete units.length) (memory : Nat → V) {P : Prop}
    (hfails : calls.launch = false → P) :
    Saga.Ends
      (fun tensor t => calls.launch = true ∧
        ∀ i unit, units[i]? = some unit → ∃ face, unit.faceInput a = some face ∧
          ∀ pixel < alignedPixels, ∀ channel < 3,
            tensor (tensorAddress i pixel channel) = a.pixelValue face pixel channel ∧
            t.alignedRgb (rgbAddress i pixel channel) = a.pixelByte face pixel channel)
      (fun _ _ => P) (launchPrepared a calls memory) ctx := by
  unfold launchPrepared
  apply Saga.ends_get_bind
  refine (ends_cudaCall hfails).bind fun _ t ht => ?_
  obtain ⟨hlaunch, rfl⟩ := ht
  refine Saga.ends_pure ⟨hlaunch, fun i unit hunit => ⟨_, hheld i unit hunit, ?_⟩⟩
  intro pixel hpixel channel hchannel
  have hi : i < units.length := (List.getElem?_eq_some_iff.mp hunit).1
  rw [← hdevice i hi]
  exact ⟨launch_tensor horder hi hpixel hchannel ctx.alignedRgb memory,
    launch_rgb horder hi hpixel hchannel ctx.alignedRgb memory⟩

/-- Whatever the arithmetic of the floats is, whatever the batches before have left in the arrays,
and in whatever order the threads run: a batch is prepared exactly if it is ready, and then the
tensor and the aligned pictures have each unit's face at its place. -/
theorem tensorPreparation_spec (horder : calls.order.Complete units.length) :
    Saga.Ends
      (fun tensor t => Ready a calls units ctx ∧ tensor.faceCount = units.length ∧
        ∀ i unit, units[i]? = some unit → ∃ face, unit.faceInput a = some face ∧
          ∀ pixel < alignedPixels, ∀ channel < 3,
            tensor.memory (tensorAddress i pixel channel) = a.pixelValue face pixel channel ∧
            t.alignedRgb (rgbAddress i pixel channel) = a.pixelByte face pixel channel)
      (fun _ _ => ¬ Ready a calls units ctx) (tensorPreparation a calls units) ctx := by
  unfold tensorPreparation
  refine ends_checkBatch.bind fun _ t ht => ?_
  obtain ⟨rfl, hnonempty, hfits, hdevice⟩ := ht
  have hread := @ends_readUnits V a units [] t (fun i unit h => by cases h)
  refine (hread.imp (fun _ u hu => hu) fun _ u hu hready => ?_).bind fun _ u hheld => ?_
  · obtain ⟨unit, hunit, hnone⟩ := hu
    exact hready.valid unit hunit hnone
  refine (ends_acquire.imp (fun _ v hv => hv) fun _ v hv hready =>
    hready.acquired hv).bind fun memory v hv => ?_
  obtain ⟨hacquired, rfl⟩ := hv
  refine (ends_cudaCall fun hfails hready =>
    absurd hready.copyInputs (Bool.eq_false_iff.mp hfails)).bind fun _ w hw => ?_
  obtain ⟨hinputs, rfl⟩ := hw
  refine (ends_cudaCall fun hfails hready =>
    absurd hready.copyPitches (Bool.eq_false_iff.mp hfails)).bind fun _ w hw => ?_
  obtain ⟨hpitches, rfl⟩ := hw
  refine (ends_cudaCall fun hfails hready =>
    absurd hready.copyLandmarks (Bool.eq_false_iff.mp hfails)).bind fun _ w hw => ?_
  obtain ⟨hlandmarks, rfl⟩ := hw
  refine (ends_launchPrepared hheld (fun i hi => face_copied hi) horder memory fun hfails hready =>
    absurd hready.launch (Bool.eq_false_iff.mp hfails)).bind fun tensor w hw => ?_
  obtain ⟨hlaunch, hfaces⟩ := hw
  refine (ends_cudaCall fun hfails hready =>
    absurd hready.synchronize (Bool.eq_false_iff.mp hfails)).bind fun _ x hx => ?_
  obtain ⟨hsynchronize, rfl⟩ := hx
  refine Saga.ends_pure ⟨⟨hnonempty, hfits, hdevice, hheld.valid, ?_, hinputs, hpitches,
    hlandmarks, hlaunch, hsynchronize⟩, rfl, hfaces⟩
  rw [hacquired]
  exact Option.some_ne_none memory

/-- The steps of the faces of a batch, one after the other. -/
def alignSteps (batchSize : Nat) : List AlignStep :=
  (List.range batchSize).flatMap fun face => (List.range alignedPixels).flatMap fun pixel =>
    (List.range 3).map fun channel => ⟨face, pixel % 256, pixel / 256, channel⟩

theorem mem_alignSteps {batchSize : Nat} (step : AlignStep) :
    step ∈ alignSteps batchSize ↔ step.Launched batchSize := by
  simp only [alignSteps, List.mem_flatMap, List.mem_map, List.mem_range]
  constructor
  · rintro ⟨face, hface, pixel, hpixel, channel, hchannel, rfl⟩
    refine ⟨hface, Nat.mod_lt _ (by decide), ?_, hchannel⟩
    show pixel % 256 + pixel / 256 * 256 < alignedPixels
    omega
  · rintro ⟨hface, hthread, hpixel, hchannel⟩
    refine ⟨step.face, hface, step.pixel, hpixel, step.channel, hchannel, ?_⟩
    have hidx : step.pixel % 256 = step.threadIdx := by
      unfold AlignStep.pixel
      omega
    have hiteration : step.pixel / 256 = step.iteration := by
      unfold AlignStep.pixel
      omega
    rw [hidx, hiteration]

theorem complete_alignSteps (batchSize : Nat) :
    AlignOrder.Complete ⟨alignSteps batchSize, alignSteps batchSize⟩ batchSize :=
  ⟨mem_alignSteps, mem_alignSteps⟩

/-- Two faces, the second one with sides that are no numbers, which is not refused. -/
def twoUnits : List (PreprocessUnit FloatValue) :=
  [⟨some ⟨some fun i => .finite i, 60, .finite 0, .finite 0, .finite 112, .finite 112⟩,
      some fun _ => 255, some 448⟩,
    ⟨some ⟨some fun i => .finite i, 60, .finite 0, .finite 0, .nan, .nan⟩, some fun _ => 255,
      some 448⟩]

/-- Calls that succeed, on arrays that have been used. -/
def goodCalls : PreparationCalls FloatValue where
  setDevice := true
  acquired := some fun _ => .finite 7
  copyInputs := true
  copyPitches := true
  copyLandmarks := true
  launch := true
  synchronize := true
  order := ⟨alignSteps 2, alignSteps 2⟩

def usedContext : AlignContext FloatValue where
  maxBatch := 4
  host := ⟨fun _ _ => 1, fun _ => 2, fun _ => .finite 3⟩
  device := ⟨fun _ _ => 4, fun _ => 5, fun _ => .infinite true⟩
  alignedRgb _ := 8

theorem ready_twoUnits : Ready floatArithmetic goodCalls twoUnits usedContext where
  nonempty := by
    rintro ⟨⟩
  fits := by decide
  setDevice := rfl
  valid := by
    simp only [twoUnits, List.forall_mem_cons]
    refine ⟨?_, ?_, List.forall_mem_nil _⟩
    · rintro ⟨⟩
    · rintro ⟨⟩
  acquired := by
    rintro ⟨⟩
  copyInputs := rfl
  copyPitches := rfl
  copyLandmarks := rfl
  launch := rfl
  synchronize := rfl

theorem tensorPreparation_twoUnits :
    Ready floatArithmetic goodCalls twoUnits usedContext ∧
      Saga.Ends
        (fun tensor t => tensor.faceCount = 2 ∧
          ∀ i unit, twoUnits[i]? = some unit → ∃ face, unit.faceInput floatArithmetic = some face ∧
            ∀ pixel < alignedPixels, ∀ channel < 3,
              tensor.memory (tensorAddress i pixel channel) =
                floatArithmetic.pixelValue face pixel channel ∧
              t.alignedRgb (rgbAddress i pixel channel) =
                floatArithmetic.pixelByte face pixel channel)
        (fun _ _ => False) (tensorPreparation floatArithmetic goodCalls twoUnits) usedContext := by
  have hspec := @tensorPreparation_spec _ floatArithmetic goodCalls twoUnits usedContext
    (complete_alignSteps 2)
  exact ⟨ready_twoUnits, hspec.imp (fun _ _ h => h.2) fun _ _ h => h ready_twoUnits⟩

end Preparation

end Mvision.Images
