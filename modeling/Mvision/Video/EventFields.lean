import Mvision.Library.PythonFields
import Mvision.Video.EventProtocol

/-!
# What escapes `decode_video_event`

The fields of an event in the order in which they are read.  An infinite float for an integer and
a count of bytes for the image raise what the decoder does not catch, unless a field before them
was rejected; so does a payload that is no dictionary.
-/

namespace Mvision.Video.Events

open Mvision.Library Mvision.Library.Python

/-! ## The fields -/

section Fields

variable (python : Interpreter)

/-- `_finite` -/
def finiteField (value : Value) : Field := ⟨(finite python value).isOk, value.tooLarge⟩

/-- `_non_negative` -/
def countField (value : Value) : Field := ⟨(nonNegative python value).isOk, value.isInfinite⟩

/-- The number of items of a value. -/
def length (value : Option Value) : Nat :=
  match value with
  | some value =>
      match items value with
      | .ok list => list.length
      | .error _ => 0
  | none => 0

def progressFields (payload : Value) : List Field :=
  [entryField (payload.field "progress_percent") (finiteField python),
    .test (match number python payload "progress_percent" with
      | .ok progress => decide (0 ≤ progress ∧ progress ≤ 100)
      | .error _ => false),
    entryField (payload.field "decoded_frame") (countField python),
    entryField (payload.field "processed_frames") (countField python),
    entryField (payload.field "total_frames") (countField python)]

def numbersFields (value : Value) (name : String) : List Field :=
  listFields (value.field name) fun item => [finiteField python item]

def detectionFields (item : Value) : List Field :=
  [entryField (item.field "frame") (countField python),
    entryField (item.field "timestamp") (finiteField python),
    entryField (item.field "x") (finiteField python),
    entryField (item.field "y") (finiteField python),
    entryField (item.field "width") (finiteField python),
    entryField (item.field "height") (finiteField python),
    entryField (item.field "detector_confidence") (finiteField python)] ++
  numbersFields python item "landmarks"

/-- Every detection has ten landmark coordinates. -/
def landmarksComplete (payload : Value) : Bool :=
  match payload.field "detections" with
  | some value =>
      match items value with
      | .ok list => list.all fun item => length (item.field "landmarks") == 10
      | .error _ => false
  | none => false

def trackFields (payload : Value) : List Field :=
  numbersFields python payload "embedding" ++
    (.test (length (payload.field "embedding") == 512) ::
      (listFields (payload.field "detections") (detectionFields python) ++
        [.test (landmarksComplete payload),
          entryField (payload.field "tracker_id") (countField python),
          entryField (payload.field "representative_jpeg") (bytesField python)]))

def completedFields (payload : Value) : List Field :=
  [entryField (payload.field "decoded_frames") (countField python),
    entryField (payload.field "processed_frames") (countField python),
    entryField (payload.field "track_count") (countField python)]

def failedFields (payload : Value) : List Field :=
  [.test (payload.field "error_code").isSome, .test (payload.field "message").isSome]

/-- The fields of the type of an event. -/
def typeFields (payload type : Value) : List Field :=
  if type.equalsText "progress" then progressFields python payload
  else if type.equalsText "track" then trackFields python payload
  else if type.equalsText "completed" then completedFields python payload
  else if type.equalsText "failed" then failedFields payload
  else [.test false]

def eventFields (payload : Value) : List Field :=
  [dictField payload,
    .test (((payload.field "protocol_version").getD .none).equalsInt protocolVersion)] ++
  match payload.field "event_type" with
  | some type => typeFields python payload type
  | none => [.test false]

end Fields

/-! ## They describe the decoder -/

section Describes

variable {python : Interpreter} {caught : List ErrorKind}

/-- What `finite` does with a value that it has converted. -/
def numberOrRaise : FloatValue → Except Error ℚ
  | .finite q => .ok q
  | _ => valueError "NON_FINITE_VALUE"

theorem describes_finite (h : Catches caught) (value : Value) :
    Describes (leaves caught) [finiteField python value] (finite python value) := by
  apply Describes.single isOk_iff
  have hbool : ∀ text, Escapes (leaves caught) (valueError text : Except Error ℚ) ↔
      false = true := by
    intro text
    rw [valueError, escapes_error, leaves, decide_eq_true_eq]
    exact iff_of_false (not_not_intro h.value) Bool.false_ne_true
  have hparsed : ∀ result : Option FloatValue,
      Escapes (leaves caught) (parsed result >>= numberOrRaise) ↔ false = true := by
    intro result
    cases result with
    | none => exact Catches.rejects h.value
    | some x =>
        cases x with
        | finite q => exact accepted
        | infinite negative => exact hbool _
        | nan => exact hbool _
  cases value with
  | int n =>
      show Escapes _ (floatOfInt n >>= numberOrRaise) ↔ (Value.int n).tooLarge = true
      unfold floatOfInt
      dsimp only [Value.tooLarge]
      cases binary64.round n with
      | finite q => exact accepted
      | infinite negative => exact Catches.escapes h.overflow
      | nan => exact hbool _
  | float x =>
      cases x with
      | finite q => exact accepted
      | infinite negative => exact hbool _
      | nan => exact hbool _
  | str text => exact hparsed _
  | none | bool _ | bytes _ | list _ | dict _ | ext _ _ | timestamp _ _ => exact hbool _

theorem describes_nonNegative (h : Catches caught) (value : Value) :
    Describes (leaves caught) [countField python value] (nonNegative python value) := by
  apply Describes.single isOk_iff
  have hbool : ∀ text, Escapes (leaves caught) (valueError text : Except Error Nat) ↔
      false = true := by
    intro text
    rw [valueError, escapes_error, leaves, decide_eq_true_eq]
    exact iff_of_false (not_not_intro h.value) Bool.false_ne_true
  have hsign : ∀ n : Int, Escapes (leaves caught) (do
      require (decide (0 ≤ n)) "NEGATIVE_VALUE"
      return n.toNat) ↔ false = true := by
    intro n
    by_cases hn : 0 ≤ n
    · rw [decide_eq_true hn]
      exact accepted
    · rw [decide_eq_false hn]
      exact hbool _
  cases value with
  | int n => exact hsign n
  | float x =>
      cases x with
      | finite q => exact hsign (truncated q)
      | infinite negative => exact Catches.escapes h.overflow
      | nan => exact Catches.rejects h.value
  | str text =>
      show Escapes _ (parsed (integerOf (python.ascii text)) >>= _) ↔ _
      cases integerOf (python.ascii text) with
      | none => exact Catches.rejects h.value
      | some n => exact hsign n
  | none | bool _ | bytes _ | list _ | dict _ | ext _ _ | timestamp _ _ => exact hbool _

variable (h : Catches caught) (hkey : ErrorKind.key ∈ caught)

include h hkey

theorem describes_count (value : Value) (name : String) :
    Describes (leaves caught) [entryField (value.field name) (countField python)]
      (count python value name) :=
  describes_entry h hkey (describes_nonNegative h)

theorem describes_number (value : Value) (name : String) :
    Describes (leaves caught) [entryField (value.field name) (finiteField python)]
      (number python value name) :=
  describes_entry h hkey (describes_finite h)

theorem describes_numbers (value : Value) (name : String) :
    Describes (leaves caught) (numbersFields python value name) (numbers python value name) :=
  describes_list h hkey (describes_finite h)

theorem describes_progress (payload : Value) :
    Describes (leaves caught) (progressFields python payload) (decodeProgress python payload) := by
  have hcount := @describes_count python _ h hkey payload
  refine Describes.step (describes_number h hkey payload "progress_percent") ?_
  intro progress hprogress
  rw [hprogress]
  refine Describes.step (describes_require h.value _ _) ?_
  intro _ _
  refine Describes.step (hcount "decoded_frame") ?_
  intro decodedFrame _
  refine Describes.step (hcount "processed_frames") ?_
  intro processedFrames _
  exact .last (hcount "total_frames") _

theorem describes_detection (item : Value) :
    Describes (leaves caught) (detectionFields python item) (decodeDetection python item) := by
  have hnumber := @describes_number python _ h hkey item
  refine Describes.step (describes_count h hkey item "frame") ?_
  intro frame _
  refine Describes.step (hnumber "timestamp") ?_
  intro timestamp _
  refine Describes.step (hnumber "x") ?_
  intro x _
  refine Describes.step (hnumber "y") ?_
  intro y _
  refine Describes.step (hnumber "width") ?_
  intro width _
  refine Describes.step (hnumber "height") ?_
  intro height _
  refine Describes.step (hnumber "detector_confidence") ?_
  intro detectorConfidence _
  exact .last (describes_numbers h hkey item "landmarks") _

theorem describes_completed (payload : Value) :
    Describes (leaves caught) (completedFields python payload)
      (decodeCompleted python payload) := by
  have hcount := @describes_count python _ h hkey payload
  refine Describes.step (hcount "decoded_frames") ?_
  intro decodedFrames _
  refine Describes.step (hcount "processed_frames") ?_
  intro processedFrames _
  exact .last (hcount "track_count") _

theorem describes_found (value : Value) (name : String) :
    Describes (leaves caught) [.test (value.field name).isSome] (subscript value name) := by
  have hfound : Describes (leaves caught) [entryField (value.field name) fun _ => .test true]
      (subscript value name >>= pure) :=
    describes_entry h hkey fun found => .single (iff_of_true ⟨found, rfl⟩ rfl) accepted
  rw [bind_pure] at hfound
  cases hfield : value.field name with
  | some found =>
      rw [hfield] at hfound
      exact hfound
  | none =>
      rw [hfield] at hfound
      exact hfound

theorem describes_failed (payload : Value) :
    Describes (leaves caught) (failedFields payload) (decodeFailed python payload) := by
  refine Describes.step (describes_found h hkey payload "error_code") ?_
  intro errorCode _
  exact .last (describes_found h hkey payload "message") _

omit h hkey in
/-- A list that was read has the items of the value. -/
theorem length_of_read {α : Type} {value : Value} {name : String} {f : Value → Except Error α}
    {results : List α} (hread : (subscript value name >>= items >>= List.mapM f) = .ok results) :
    length (value.field name) = results.length := by
  obtain ⟨found, list, hfound, hlist, hresults⟩ := items_of_read hread
  rw [hfound, length, hlist]
  exact hresults.length_eq

omit h hkey in
theorem landmarks_of_detection {item : Value} {detection : VideoDetection}
    (hread : decodeDetection python item = .ok detection) :
    length (item.field "landmarks") = detection.landmarks.length := by
  have hensures : Ensures (fun detection : VideoDetection =>
      length (item.field "landmarks") = detection.landmarks.length)
      (decodeDetection python item) := by
    iterate 7 refine ensures_after fun _ => ?_
    refine Ensures.bind (P := fun landmarks => length (item.field "landmarks") = landmarks.length)
      ?_ fun landmarks hlandmarks => ensures_ok hlandmarks
    intro landmarks hlandmarks
    exact length_of_read hlandmarks
  exact hensures detection hread

omit h hkey in
theorem landmarksComplete_eq {payload : Value} {detections : List VideoDetection}
    (hread : (subscript payload "detections" >>= items >>= List.mapM (decodeDetection python)) =
      .ok detections) :
    landmarksComplete payload = detections.all fun item => item.landmarks.length == 10 := by
  obtain ⟨found, list, hfound, hlist, hresults⟩ := items_of_read hread
  rw [landmarksComplete, hfound]
  dsimp only
  rw [hlist]
  dsimp only
  clear hlist hread
  induction hresults with
  | nil => rfl
  | cons hfirst _ ih => rw [List.all_cons, List.all_cons, ih, landmarks_of_detection hfirst]

theorem describes_track (payload : Value) :
    Describes (leaves caught) (trackFields python payload) (decodeTrack python payload) := by
  refine Describes.bind (describes_numbers h hkey payload "embedding") ?_
  intro embedding hembedding
  rw [length_of_read hembedding]
  refine Describes.step (describes_require h.value _ _) ?_
  intro _ _
  refine Describes.bind (describes_list h hkey (describes_detection h hkey)) ?_
  intro detections hdetections
  rw [landmarksComplete_eq hdetections]
  refine Describes.step (describes_require h.value _ _) ?_
  intro _ _
  refine Describes.step (describes_count h hkey payload "tracker_id") ?_
  intro trackerId _
  exact .last (describes_entry h hkey (describes_toBytes h)) _

/-- A version that is not there is `None`, which is no version. -/
theorem describes_payload (payload : Value) :
    Describes (leaves caught) (eventFields python payload) (decodePayload python payload) := by
  refine Describes.step (describes_get h.noAttribute payload "protocol_version") ?_
  intro version hversion
  have hfield : (payload.field "protocol_version").getD .none = version := by
    obtain ⟨entries, rfl, hfound⟩ := eq_dict_of_get hversion
    exact hfound
  rw [hfield]
  refine Describes.step (describes_require h.value _ _) ?_
  intro _ _
  rcases subscript_bind hkey h.type payload "event_type" (fun type =>
    if type.equalsText "progress" then decodeProgress python payload
    else if type.equalsText "track" then decodeTrack python payload
    else if type.equalsText "completed" then decodeCompleted python payload
    else if type.equalsText "failed" then decodeFailed python payload
    else valueError "UNKNOWN_EVENT_TYPE") with ⟨type, htype, heq⟩ | ⟨hnone, kind, hkind, heq⟩
  · rw [htype, heq]
    show Describes _ (typeFields python payload type) _
    unfold typeFields
    split
    · exact describes_progress h hkey payload
    split
    · exact describes_track h hkey payload
    split
    · exact describes_completed h hkey payload
    split
    · exact describes_failed h hkey payload
    · exact describes_valueError h.value _
  · rw [hnone, heq]
    exact describes_throwing hkind

end Describes

/-! ## What escapes -/

/-- `decode_video_event` returns or raises a `ValueError`: the payload, if it is unpacked, lets no
other exception escape. -/
theorem decodeVideoEvent_raises_iff (python : Interpreter)
    (unpackb : List UInt8 → Except UnpackError Value) (frame : List UInt8) :
    (∀ e, decodeVideoEvent python unpackb frame = .error e → e.kind = .value) ↔
      (frame.length = headerSize + bigEndian (frame.take headerSize) →
        bigEndian (frame.take headerSize) ≤ maxEventBytes →
        ∀ payload, unpackb (frame.drop headerSize) = .ok payload →
          Field.Clean (eventFields python payload)) := by
  have hcatches : Catches [ErrorKind.key, .type, .value] :=
    ⟨by decide, by decide, by decide, by decide, by decide⟩
  unfold decodeVideoEvent
  by_cases hshort : frame.length < headerSize
  · rw [if_pos hshort]
    refine iff_of_true (valueError_raises _) ?_
    intro hlength
    omega
  rw [if_neg hshort]
  by_cases hlarge : maxEventBytes < bigEndian (frame.take headerSize)
  · rw [if_pos hlarge]
    refine iff_of_true (valueError_raises _) ?_
    intro _ hle
    omega
  rw [if_neg hlarge]
  by_cases hlength : frame.length = headerSize + bigEndian (frame.take headerSize)
  · rw [if_neg (not_not_intro hlength)]
    cases hunpack : unpackb (frame.drop headerSize) with
    | error e =>
        refine iff_of_true ?_ ?_
        · cases e with
          | other =>
              rintro e he
              obtain rfl := Except.error.inj he
              rfl
          | extraData | formatError | stackError => exact valueError_raises _
        · rintro _ _ payload ⟨⟩
    | ok payload =>
        have hdescribes : Describes (leaves [ErrorKind.value]) (eventFields python payload)
            (catching [.key, .type] ⟨.value, "INVALID_EVENT_PAYLOAD"⟩
              (decodePayload python payload)) :=
          describes_catching (describes_payload hcatches (by decide) payload) (by decide)
        dsimp only
        rw [raises_iff hdescribes]
        constructor
        · rintro hall _ _ other hother
          obtain rfl := Except.ok.inj hother
          exact hall
        · intro hall
          exact hall hlength (by omega) payload rfl
  · rw [if_pos hlength]
    exact iff_of_true (valueError_raises _) fun h => absurd h hlength

end Mvision.Video.Events
