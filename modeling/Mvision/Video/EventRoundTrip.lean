import Mvision.Library.Checks
import Mvision.Video.EventEncoder

/-!
# Video events from C++ to Python

Every event that `encode_video_event` packs is read by `decode_video_event` with the same values;
floats are widened.
-/

namespace Mvision.Video.Events

open Mvision.Library Mvision.Library.Python

/-! ## The same event -/

/-- The numbers are the same. -/
abbrev Widened (sent : Single) (received : ℚ) : Prop := sent.val = .finite received

structure SameDetection (sent : Native.VideoDetection) (received : VideoDetection) : Prop where
  frame : received.frame = sent.frame.toNat
  timestamp : sent.timestamp.val = .finite received.timestamp
  x : Widened sent.x received.x
  y : Widened sent.y received.y
  width : Widened sent.width received.width
  height : Widened sent.height received.height
  detectorConfidence : Widened sent.detectorConfidence received.detectorConfidence
  landmarks : List.Forall₂ Widened sent.landmarks.toList received.landmarks

structure SameTrack (sent : Native.VideoTrackOutput) (received : VideoTrackOutput) : Prop where
  trackerId : received.trackerId = sent.trackerId.toNat
  embedding : List.Forall₂ Widened sent.embedding.toList received.embedding
  representativeJpeg : received.representativeJpeg = sent.representativeJpeg
  detections : List.Forall₂ SameDetection sent.detections received.detections

/-- The event has the values of the one that was sent. -/
def Same : Native.VideoEvent → VideoEvent → Prop
  | .progress sent, .progress received =>
      received.decodedFrame = sent.decodedFrame.toNat ∧
        received.processedFrames = sent.processedFrames.toNat ∧
        received.totalFrames = sent.totalFrames.toNat ∧
        Widened sent.progressPercent received.progressPercent
  | .track sent, .track received => SameTrack sent received
  | .completed sent, .completed received =>
      received.decodedFrames = sent.decodedFrames.toNat ∧
        received.processedFrames = sent.processedFrames.toNat ∧
        received.trackCount = sent.trackCount.toNat
  | .failed sent, .failed received =>
      utf8 received.errorCode = sent.errorCode ∧ utf8 received.message = sent.message
  | _, _ => False

/-- The texts of the event are UTF-8. -/
def Native.VideoEvent.ValidTexts : Native.VideoEvent → Prop
  | .failed event => (ofUtf8 event.errorCode).isSome ∧ (ofUtf8 event.message).isSome
  | _ => True

/-- The size of the image is not changed by the cast to 32 bits. -/
def Native.VideoEvent.Sized : Native.VideoEvent → Prop
  | .track event => event.representativeJpeg.length < 4294967296
  | _ => True

/-! ## What Python reads -/

section Values

variable {python : Interpreter} {packing : FloatPacking}

theorem carries_unsigned (n : UInt64) : Carries (Native.packUnsigned n) (.int n.toNat) := by
  have hlt := n.toNat_lt
  exact carries_integer ⟨by omega, by omega⟩

theorem finite_written {x : FloatValue} {q : ℚ} (hx : binary64.Has 11 x) (h : x = .finite q) :
    finite python (written packing x) = .ok q := by
  unfold finite
  rw [written_isBool, written_isNumeric, toFloat_written hx, h]
  rfl

theorem nonNegative_int (n : Nat) : nonNegative python (.int n) = .ok n := by
  unfold nonNegative
  show (require (decide ((0 : Int) ≤ n)) "NEGATIVE_VALUE" >>= _) = _
  rw [decide_eq_true (Int.natCast_nonneg n)]
  rfl

theorem mapM_finite {sent : List Single} {received : List ℚ}
    (h : List.Forall₂ Widened sent received) :
    (sent.map fun x => written packing x.val).mapM (finite python) = .ok received := by
  apply mapM_of_forall₂
  rw [List.forall₂_map_left_iff]
  exact h.imp fun x _ hsame => finite_written (has_double x.property) hsame

/-! ### Fields -/

variable {values : List (String × Value)} {name : String}

theorem count_dictOf {n : Nat} (h : values.lookup name = some (.int n)) :
    count python (dictOf values) name = .ok n := by
  rw [count, subscript_dictOf h]
  exact @nonNegative_int python n

theorem number_dictOf {x : FloatValue} {q : ℚ}
    (h : values.lookup name = some (written packing x)) (hx : binary64.Has 11 x)
    (hq : x = .finite q) : number python (dictOf values) name = .ok q := by
  rw [number, subscript_dictOf h]
  exact finite_written hx hq

theorem numbers_dictOf {sent : List Single} {received : List ℚ}
    (h : values.lookup name = some (floatsValue packing sent))
    (hsame : List.Forall₂ Widened sent received) :
    numbers python (dictOf values) name = .ok received := by
  rw [numbers, subscript_dictOf h]
  exact mapM_finite hsame

/-! ### Frames -/

def eventValue (eventType : String) (values : List (String × Value)) : Value :=
  dictOf (("protocol_version", .int 1) :: ("event_type", .str eventType) :: values)

theorem carries_eventMap {eventType : String} {fieldCount : Nat} {fields : List (String × Packed)}
    (hsize : fields.length = fieldCount)
    (hnodup : ("protocol_version" :: "event_type" :: values.map Prod.fst).Nodup)
    (h : List.Forall₂ (fun entry value => entry.1 = value.1 ∧ Carries entry.2 value.2)
      fields values) :
    Carries (Native.eventMap eventType fieldCount fields) (eventValue eventType values) := by
  refine carries_fields (by rw [List.length_cons, List.length_cons, hsize]) hnodup ?_
  refine .cons ⟨rfl, carries_integer ⟨by decide, by decide⟩⟩ (.cons ⟨rfl, ?_⟩ h)
  exact carries_text (ofUtf8_eq_some_iff.mpr rfl)

/-- The payload of a frame is the map that was packed. -/
theorem decodeVideoEvent_packEvent {eventType : String} {fieldCount : Nat}
    {fields : List (String × Packed)} {value : Value} {frame : List UInt8} {received : VideoEvent}
    (hcarries : Carries (Native.eventMap eventType fieldCount fields) value)
    (hreceived : decodePayload python value = .ok received)
    (h : Native.packEvent eventType fieldCount fields = .ok frame) :
    decodeVideoEvent python unpackb frame = .ok received := by
  unfold Native.packEvent Native.framePayload at h
  generalize Native.eventMap eventType fieldCount fields = packed at hcarries h
  split at h
  · cases h
  rename_i hsize
  obtain rfl := Except.ok.inj h
  have hmost : packed.bytes.length ≤ 64 * 1024 * 1024 := not_lt.mp hsize
  -- the limits of the two sides are the same
  have hevent : ¬ maxEventBytes < packed.bytes.length := hsize
  have hheader : (toBigEndian 4 packed.bytes.length ++ packed.bytes).take headerSize =
      toBigEndian 4 packed.bytes.length := List.take_left' (length_toBigEndian 4 _)
  have hpayload : (toBigEndian 4 packed.bytes.length ++ packed.bytes).drop headerSize =
      packed.bytes := List.drop_left' (length_toBigEndian 4 _)
  have hread : bigEndian (toBigEndian 4 packed.bytes.length) = packed.bytes.length :=
    bigEndian_toBigEndian (by omega)
  have hlength : (toBigEndian 4 packed.bytes.length ++ packed.bytes).length =
      headerSize + packed.bytes.length := by
    rw [List.length_append, length_toBigEndian]
    rfl
  unfold decodeVideoEvent
  rw [hheader, hread, hpayload, hlength, if_neg (by omega), if_neg hevent,
    if_neg (not_not_intro rfl), unpackb_eq hcarries (by omega)]
  dsimp only
  rw [hreceived]
  rfl

/-- The version is the one that is expected. -/
theorem decodePayload_eventValue (eventType : String) (values : List (String × Value)) :
    decodePayload python (eventValue eventType values) =
      if eventType == "progress" then decodeProgress python (eventValue eventType values)
      else if eventType == "track" then decodeTrack python (eventValue eventType values)
      else if eventType == "completed" then decodeCompleted python (eventValue eventType values)
      else if eventType == "failed" then decodeFailed python (eventValue eventType values)
      else valueError "UNKNOWN_EVENT_TYPE" := by
  have hversion : get (eventValue eventType values) "protocol_version" = .ok (.int 1) :=
    get_dictOf rfl
  have htype : subscript (eventValue eventType values) "event_type" = .ok (.str eventType) :=
    subscript_dictOf rfl
  unfold decodePayload
  rw [hversion, htype]
  rfl

theorem decodePayload_progress (values : List (String × Value)) :
    decodePayload python (eventValue "progress" values) =
      decodeProgress python (eventValue "progress" values) :=
  (decodePayload_eventValue _ _).trans (if_pos (by decide))

theorem decodePayload_track (values : List (String × Value)) :
    decodePayload python (eventValue "track" values) =
      decodeTrack python (eventValue "track" values) := by
  rw [decodePayload_eventValue, if_neg (by decide), if_pos (by decide)]

theorem decodePayload_completed (values : List (String × Value)) :
    decodePayload python (eventValue "completed" values) =
      decodeCompleted python (eventValue "completed" values) := by
  rw [decodePayload_eventValue, if_neg (by decide), if_neg (by decide), if_pos (by decide)]

theorem decodePayload_failed (values : List (String × Value)) :
    decodePayload python (eventValue "failed" values) =
      decodeFailed python (eventValue "failed" values) := by
  rw [decodePayload_eventValue, if_neg (by decide), if_neg (by decide), if_neg (by decide),
    if_pos (by decide)]

/-! ### What was sent is finite -/

theorem finite_of_requireFinite {x : FloatValue} {result : Unit}
    (h : Native.requireFinite x = .ok result) : ∃ q, x = .finite q := by
  unfold Native.requireFinite at h
  split at h
  · rename_i hfinite
    exact FloatValue.isFinite_iff.mp hfinite
  · cases h

theorem exists_widened {sent : List Single} {result : Unit}
    (h : (sent.forM fun x => Native.requireFinite x.val) = .ok result) :
    ∃ received, List.Forall₂ Widened sent received := by
  have hall := forall_of_forM_ok h
  clear h
  induction sent with
  | nil => exact ⟨[], .nil⟩
  | cons x rest ih =>
      rw [List.forall_mem_cons] at hall
      obtain ⟨q, hq⟩ := finite_of_requireFinite hall.1
      obtain ⟨received, hreceived⟩ := ih hall.2
      exact ⟨q :: received, .cons hq hreceived⟩

/-! ### Every event -/

def progressValue (packing : FloatPacking) (sent : Native.VideoProgress) : Value :=
  eventValue "progress"
    [("decoded_frame", .int sent.decodedFrame.toNat),
     ("processed_frames", .int sent.processedFrames.toNat),
     ("total_frames", .int sent.totalFrames.toNat),
     ("progress_percent", written packing sent.progressPercent.val)]

theorem carries_progress (sent : Native.VideoProgress) :
    Carries (Native.eventMap "progress" 4 (sent.fields packing)) (progressValue packing sent) :=
  carries_eventMap rfl (by simp) <|
    .cons ⟨rfl, carries_unsigned _⟩ <| .cons ⟨rfl, carries_unsigned _⟩ <|
    .cons ⟨rfl, carries_unsigned _⟩ <| .cons ⟨rfl, carries_single _⟩ .nil

def completedValue (sent : Native.VideoCompleted) : Value :=
  eventValue "completed"
    [("decoded_frames", .int sent.decodedFrames.toNat),
     ("processed_frames", .int sent.processedFrames.toNat),
     ("track_count", .int sent.trackCount.toNat)]

theorem carries_completed (sent : Native.VideoCompleted) :
    Carries (Native.eventMap "completed" 3 sent.fields) (completedValue sent) :=
  carries_eventMap rfl (by simp) <|
    .cons ⟨rfl, carries_unsigned _⟩ <| .cons ⟨rfl, carries_unsigned _⟩ <|
    .cons ⟨rfl, carries_unsigned _⟩ .nil

def failedValue (errorCode message : String) : Value :=
  eventValue "failed" [("error_code", .str errorCode), ("message", .str message)]

theorem carries_failed {sent : Native.VideoFailed} {errorCode message : String}
    (herror : ofUtf8 sent.errorCode = some errorCode)
    (hmessage : ofUtf8 sent.message = some message) :
    Carries (Native.eventMap "failed" 2 sent.fields) (failedValue errorCode message) :=
  carries_eventMap rfl (by simp) <|
    .cons ⟨rfl, carries_text herror⟩ <| .cons ⟨rfl, carries_text hmessage⟩ .nil

theorem decode_progress {sent : Native.VideoProgress} {frame : List UInt8}
    (h : Native.encodeVideoEvent packing (.progress sent) = .ok frame) :
    ∃ received, decodeVideoEvent python unpackb frame = .ok received ∧
      Same (.progress sent) received := by
  obtain ⟨_, hfinite, h⟩ := bind_ok_iff.mp h
  obtain ⟨q, hq⟩ := finite_of_requireFinite hfinite
  split at h
  · cases h
  rename_i hrange
  have hin : 0 ≤ q ∧ q ≤ 100 := by
    rwa [hq, FloatValue.less_finite, FloatValue.less_finite, Bool.or_eq_true, decide_eq_true_eq,
      decide_eq_true_eq, not_or, not_lt, not_lt] at hrange
  have hprogress : number python (progressValue packing sent) "progress_percent" = .ok q :=
    number_dictOf rfl (has_double sent.progressPercent.property) hq
  have hdecoded : count python (progressValue packing sent) "decoded_frame" =
      .ok sent.decodedFrame.toNat := count_dictOf rfl
  have hprocessed : count python (progressValue packing sent) "processed_frames" =
      .ok sent.processedFrames.toNat := count_dictOf rfl
  have htotal : count python (progressValue packing sent) "total_frames" =
      .ok sent.totalFrames.toNat := count_dictOf rfl
  have hreceived : decodeProgress python (progressValue packing sent) =
      .ok (.progress ⟨sent.decodedFrame.toNat, sent.processedFrames.toNat,
        sent.totalFrames.toNat, q⟩) := by
    unfold decodeProgress
    rw [hprogress, hdecoded, hprocessed, htotal]
    show (require (decide (0 ≤ q ∧ q ≤ 100)) "INVALID_PROGRESS" >>= _) = _
    rw [decide_eq_true hin]
    rfl
  exact ⟨_, decodeVideoEvent_packEvent (carries_progress sent)
    ((decodePayload_progress _).trans hreceived) h, rfl, rfl, rfl, hq⟩

theorem decode_completed {sent : Native.VideoCompleted} {frame : List UInt8}
    (h : Native.encodeVideoEvent packing (.completed sent) = .ok frame) :
    ∃ received, decodeVideoEvent python unpackb frame = .ok received ∧
      Same (.completed sent) received := by
  have hdecoded : count python (completedValue sent) "decoded_frames" =
      .ok sent.decodedFrames.toNat := count_dictOf rfl
  have hprocessed : count python (completedValue sent) "processed_frames" =
      .ok sent.processedFrames.toNat := count_dictOf rfl
  have htracks : count python (completedValue sent) "track_count" =
      .ok sent.trackCount.toNat := count_dictOf rfl
  have hreceived : decodeCompleted python (completedValue sent) =
      .ok (.completed ⟨sent.decodedFrames.toNat, sent.processedFrames.toNat,
        sent.trackCount.toNat⟩) := by
    unfold decodeCompleted
    rw [hdecoded, hprocessed, htracks]
    rfl
  exact ⟨_, decodeVideoEvent_packEvent (carries_completed sent)
    ((decodePayload_completed _).trans hreceived) h, rfl, rfl, rfl⟩

theorem decode_failed {sent : Native.VideoFailed} {frame : List UInt8}
    (htexts : (Native.VideoEvent.failed sent).ValidTexts)
    (h : Native.encodeVideoEvent packing (.failed sent) = .ok frame) :
    ∃ received, decodeVideoEvent python unpackb frame = .ok received ∧
      Same (.failed sent) received := by
  obtain ⟨errorCode, herror⟩ := Option.isSome_iff_exists.mp htexts.1
  obtain ⟨message, hmessage⟩ := Option.isSome_iff_exists.mp htexts.2
  have hcode : subscript (failedValue errorCode message) "error_code" = .ok (.str errorCode) :=
    subscript_dictOf rfl
  have htext : subscript (failedValue errorCode message) "message" = .ok (.str message) :=
    subscript_dictOf rfl
  have hreceived : decodeFailed python (failedValue errorCode message) =
      .ok (.failed ⟨errorCode, message⟩) := by
    unfold decodeFailed
    rw [hcode, htext]
    rfl
  exact ⟨_, decodeVideoEvent_packEvent (carries_failed herror hmessage)
    ((decodePayload_failed _).trans hreceived) h,
    ofUtf8_eq_some_iff.mp herror, ofUtf8_eq_some_iff.mp hmessage⟩

/-! ### Tracks -/

def detectionValue (packing : FloatPacking) (sent : Native.VideoDetection) : Value :=
  dictOf
    [("frame", .int sent.frame.toNat),
     ("timestamp", written packing sent.timestamp.val),
     ("x", written packing sent.x.val),
     ("y", written packing sent.y.val),
     ("width", written packing sent.width.val),
     ("height", written packing sent.height.val),
     ("detector_confidence", written packing sent.detectorConfidence.val),
     ("landmarks", floatsValue packing sent.landmarks.toList)]

theorem carries_detection (sent : Native.VideoDetection) :
    Carries (sent.packed packing) (detectionValue packing sent) :=
  carries_fields rfl (by simp) <|
    .cons ⟨rfl, carries_unsigned _⟩ <| .cons ⟨rfl, carries_double _⟩ <|
    .cons ⟨rfl, carries_single _⟩ <| .cons ⟨rfl, carries_single _⟩ <|
    .cons ⟨rfl, carries_single _⟩ <| .cons ⟨rfl, carries_single _⟩ <|
    .cons ⟨rfl, carries_single _⟩ <| .cons ⟨rfl, carries_floats _⟩ .nil

def trackValue (packing : FloatPacking) (sent : Native.VideoTrackOutput) : Value :=
  eventValue "track"
    [("tracker_id", .int sent.trackerId.toNat),
     ("embedding", floatsValue packing sent.embedding.toList),
     ("representative_jpeg", .bytes sent.representativeJpeg),
     ("detections", .list (sent.detections.map (detectionValue packing)))]

theorem carries_track {sent : Native.VideoTrackOutput}
    (hsized : sent.representativeJpeg.length < 4294967296) :
    Carries (Native.eventMap "track" 4 (sent.fields packing)) (trackValue packing sent) := by
  have hdetections : List.Forall₂ Carries
      (sent.detections.map (Native.VideoDetection.packed packing))
      (sent.detections.map (detectionValue packing)) := by
    rw [List.forall₂_map_left_iff, List.forall₂_map_right_iff]
    exact List.forall₂_same.mpr fun detection _ => carries_detection detection
  exact carries_eventMap rfl (by simp) <|
    .cons ⟨rfl, carries_unsigned _⟩ <| .cons ⟨rfl, carries_floats _⟩ <|
    .cons ⟨rfl, carries_binCast hsized⟩ <| .cons ⟨rfl, carries_arrayCast hdetections⟩ .nil

theorem exists_sameDetection {sent : Native.VideoDetection} {result : Unit}
    (h : sent.requireFinite = .ok result) : ∃ received, SameDetection sent received := by
  obtain ⟨_, htimestamp, h⟩ := bind_ok_iff.mp h
  obtain ⟨_, hx, h⟩ := bind_ok_iff.mp h
  obtain ⟨_, hy, h⟩ := bind_ok_iff.mp h
  obtain ⟨_, hwidth, h⟩ := bind_ok_iff.mp h
  obtain ⟨_, hheight, h⟩ := bind_ok_iff.mp h
  obtain ⟨_, hconfidence, h⟩ := bind_ok_iff.mp h
  obtain ⟨timestamp, htimestamp⟩ := finite_of_requireFinite htimestamp
  obtain ⟨x, hx⟩ := finite_of_requireFinite hx
  obtain ⟨y, hy⟩ := finite_of_requireFinite hy
  obtain ⟨width, hwidth⟩ := finite_of_requireFinite hwidth
  obtain ⟨height, hheight⟩ := finite_of_requireFinite hheight
  obtain ⟨confidence, hconfidence⟩ := finite_of_requireFinite hconfidence
  obtain ⟨landmarks, hlandmarks⟩ := exists_widened h
  exact ⟨⟨sent.frame.toNat, timestamp, x, y, width, height, confidence, landmarks⟩,
    rfl, htimestamp, hx, hy, hwidth, hheight, hconfidence, hlandmarks⟩

theorem decodeDetection_detectionValue {sent : Native.VideoDetection} {received : VideoDetection}
    (h : SameDetection sent received) :
    decodeDetection python (detectionValue packing sent) = .ok received := by
  have hframe : count python (detectionValue packing sent) "frame" = .ok sent.frame.toNat :=
    count_dictOf rfl
  have htimestamp : number python (detectionValue packing sent) "timestamp" =
      .ok received.timestamp := number_dictOf rfl sent.timestamp.property h.timestamp
  have hx : number python (detectionValue packing sent) "x" = .ok received.x :=
    number_dictOf rfl (has_double sent.x.property) h.x
  have hy : number python (detectionValue packing sent) "y" = .ok received.y :=
    number_dictOf rfl (has_double sent.y.property) h.y
  have hwidth : number python (detectionValue packing sent) "width" = .ok received.width :=
    number_dictOf rfl (has_double sent.width.property) h.width
  have hheight : number python (detectionValue packing sent) "height" = .ok received.height :=
    number_dictOf rfl (has_double sent.height.property) h.height
  have hconfidence : number python (detectionValue packing sent) "detector_confidence" =
      .ok received.detectorConfidence :=
    number_dictOf rfl (has_double sent.detectorConfidence.property) h.detectorConfidence
  have hlandmarks : numbers python (detectionValue packing sent) "landmarks" =
      .ok received.landmarks := numbers_dictOf rfl h.landmarks
  unfold decodeDetection
  rw [hframe, htimestamp, hx, hy, hwidth, hheight, hconfidence, hlandmarks, ← h.frame]
  rfl

theorem mapM_decodeDetection {sent : List Native.VideoDetection} {received : List VideoDetection}
    (h : List.Forall₂ SameDetection sent received) :
    (sent.map (detectionValue packing)).mapM (decodeDetection python) = .ok received := by
  apply mapM_of_forall₂
  rw [List.forall₂_map_left_iff]
  exact h.imp fun _ _ hsame => decodeDetection_detectionValue hsame

theorem exists_sameDetections {sent : List Native.VideoDetection} {result : Unit}
    (h : sent.forM Native.VideoDetection.requireFinite = .ok result) :
    ∃ received, List.Forall₂ SameDetection sent received := by
  have hall := forall_of_forM_ok h
  clear h
  induction sent with
  | nil => exact ⟨[], .nil⟩
  | cons first rest ih =>
      rw [List.forall_mem_cons] at hall
      obtain ⟨item, hitem⟩ := exists_sameDetection hall.1
      obtain ⟨received, hreceived⟩ := ih hall.2
      exact ⟨item :: received, .cons hitem hreceived⟩

/-- Every detection that was received has its ten coordinates. -/
theorem landmarks_length {sent : List Native.VideoDetection} {received : List VideoDetection}
    (h : List.Forall₂ SameDetection sent received) :
    (received.all fun item => item.landmarks.length == 10) = true := by
  induction h with
  | nil => rfl
  | cons hfirst hrest ih =>
      rw [List.all_cons, ih, Bool.and_true, ← hfirst.landmarks.length_eq, Vector.length_toList]
      rfl

theorem decode_track {sent : Native.VideoTrackOutput} {frame : List UInt8}
    (hsized : (Native.VideoEvent.track sent).Sized)
    (h : Native.encodeVideoEvent packing (.track sent) = .ok frame) :
    ∃ received, decodeVideoEvent python unpackb frame = .ok received ∧
      Same (.track sent) received := by
  obtain ⟨_, hembedding, h⟩ := bind_ok_iff.mp h
  obtain ⟨_, hdetections, h⟩ := bind_ok_iff.mp h
  obtain ⟨embedding, hembedding⟩ := exists_widened hembedding
  obtain ⟨detections, hdetections⟩ := exists_sameDetections hdetections
  have hnumbers : numbers python (trackValue packing sent) "embedding" = .ok embedding :=
    numbers_dictOf rfl hembedding
  have hlength : (embedding.length == 512) = true := by
    rw [← hembedding.length_eq, Vector.length_toList]
    rfl
  have hlist : subscript (trackValue packing sent) "detections" =
      .ok (.list (sent.detections.map (detectionValue packing))) := subscript_dictOf rfl
  have htracker : count python (trackValue packing sent) "tracker_id" =
      .ok sent.trackerId.toNat := count_dictOf rfl
  have hjpeg : subscript (trackValue packing sent) "representative_jpeg" =
      .ok (.bytes sent.representativeJpeg) := subscript_dictOf rfl
  have hreceived : decodeTrack python (trackValue packing sent) =
      .ok (.track ⟨sent.trackerId.toNat, embedding, sent.representativeJpeg, detections⟩) := by
    unfold decodeTrack
    rw [hnumbers, hlist, htracker, hjpeg]
    show (require (embedding.length == 512) "INVALID_EMBEDDING" >>= fun _ =>
      (sent.detections.map (detectionValue packing)).mapM (decodeDetection python) >>= _) = _
    rw [hlength, mapM_decodeDetection hdetections]
    show (require (detections.all fun item => item.landmarks.length == 10) _ >>= _) = _
    rw [landmarks_length hdetections]
    rfl
  exact ⟨_, decodeVideoEvent_packEvent (carries_track hsized)
    ((decodePayload_track _).trans hreceived) h, rfl, hembedding, rfl, hdetections⟩

/-- Every event is received as it was sent. -/
theorem decode_encodeVideoEvent {sent : Native.VideoEvent} {frame : List UInt8}
    (htexts : sent.ValidTexts) (hsized : sent.Sized)
    (h : Native.encodeVideoEvent packing sent = .ok frame) :
    ∃ received, decodeVideoEvent python unpackb frame = .ok received ∧ Same sent received := by
  cases sent with
  | progress sent => exact decode_progress h
  | track sent => exact decode_track hsized h
  | completed sent => exact decode_completed h
  | failed sent => exact decode_failed htexts h

end Values

/-! ### A track with two detections -/

/-- A face of 64 pixels at (10, 0). -/
def sampleDetection (frame : UInt64) : Native.VideoDetection where
  frame
  timestamp := (Single.ofBits 0x3f000000).toDouble
  x := .ofBits 0x41200000
  y := .ofBits 0
  width := .ofBits 0x42800000
  height := .ofBits 0x42800000
  detectorConfidence := .ofBits 0x3f400000
  landmarks := Vector.replicate 10 (.ofBits 0x42000000)

theorem zero_lt_dimension : 0 < 512 := by decide

def sampleTrack : Native.VideoTrackOutput where
  trackerId := 7
  embedding := (Vector.replicate 512 (.ofBits 0)).set 0 (.ofBits 0x3f800000) zero_lt_dimension
  representativeJpeg := [0xff, 0xd8, 0xff, 0xd9]
  detections := [sampleDetection 3, sampleDetection 4]

end Mvision.Video.Events
