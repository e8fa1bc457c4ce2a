import Mathlib.Tactic.Ring
import Mvision.Library.Checks
import Mvision.Library.Loops
import Mvision.Live.TextFormats

/-!
# The size check of a snapshot

`MinIOAdapter._validate_live_snapshot`, which looks for the frame header of a JPEG.  The scan
makes progress in every pass, and in a JPEG made of segments it stays on their boundaries, so
no payload is taken for a frame header.
-/

namespace Mvision.Live

open Mvision.Library

namespace MinIOAdapter

/-- `LIVE_OBJECT_KEY_PATTERN.fullmatch`: each UUID has 36 characters. -/
def liveObjectKey (objectKey : String) : Bool :=
  let text := codes objectKey
  decide (text.take 5 = codes "live/") && uuidText hexadecimal ((text.drop 5).take 36) &&
    decide ((text.drop 41).take 1 = codes "/") &&
    uuidText hexadecimal ((text.drop 42).take 36) && decide (text.drop 78 = codes "/aligned")

/-- `_validate_live_key` -/
def validateLiveKey (objectKey : String) : Except String Unit :=
  if liveObjectKey objectKey then .ok () else .error "Invalid live snapshot key format"

def sofMarkers : List UInt8 :=
  [0xC0, 0xC1, 0xC2, 0xC3, 0xC5, 0xC6, 0xC7, 0xC9, 0xCA, 0xCB, 0xCD, 0xCE, 0xCF]

/-- `int.from_bytes` -/
def fromBytes (bytes : List UInt8) : Nat := bytes.foldl (fun n byte => 256 * n + byte.toNat) 0

/-- `int.from_bytes(data[index : index + 2])` -/
def word (data : List UInt8) (index : Nat) : Nat := fromBytes ((data.drop index).take 2)

/-- A pass of the `while` loop: `continue`, `return`, `break` or the end. -/
def scanPass (data : List UInt8) (index : Nat) : Pass Nat (Except String Unit) :=
  if h : index + 8 < data.length then
    -- a byte that is not the start of a marker is passed over
    if data[index] ≠ 0xFF then .next (index + 1)
    else if data[index + 1] ∈ sofMarkers then
      let height := word data (index + 5)
      let width := word data (index + 7)
      if (width, height) ≠ (112, 112) then .done (.error "Live snapshot must be 112x112")
      else .done (.ok ())
    -- checked again, although eight more bytes are there
    else if index + 4 > data.length then .done (.error "Live snapshot dimensions are unavailable")
    else
      let segmentSize := word data (index + 2)
      if segmentSize < 2 then .done (.error "Live snapshot dimensions are unavailable")
      else .next (index + (2 + segmentSize))
  else .done (.error "Live snapshot dimensions are unavailable")

/-- `_validate_live_snapshot`, with fuel for the loop. -/
def validateLiveSnapshot (fuel : Nat) (objectKey : String) (data : List UInt8) :
    Option (Except String Unit) :=
  match validateLiveKey objectKey with
  | .error message => some (.error message)
  | .ok () =>
      if data.length > 512 * 1024 then some (.error "Live snapshot exceeds size limit")
      else if data.length < 4 ∨ data.take 2 ≠ [0xFF, 0xD8] ∨
          data.drop (data.length - 2) ≠ [0xFF, 0xD9] then
        some (.error "Live snapshot is not a JPEG")
      else loop (scanPass data) fuel 2

/-! ## Progress -/

/-- A pass that goes on moves towards the end of the data. -/
theorem scanPass_progress {data : List UInt8} {index index' : Nat}
    (h : scanPass data index = .next index') :
    data.length - index' < data.length - index := by
  unfold scanPass at h
  split at h
  · rename_i hlength
    split at h
    · obtain rfl := Pass.next.inj h
      omega
    · dsimp only at h
      split at h
      · split at h <;> cases h
      · split at h
        · cases h
        · split at h
          · cases h
          · obtain rfl := Pass.next.inj h
            omega
  · cases h

/-- Fuel for the bytes of the snapshot is enough. -/
theorem validateLiveSnapshot_returns (objectKey : String) (data : List UInt8) :
    ∃ verdict, ∀ fuel, data.length ≤ fuel →
      validateLiveSnapshot fuel objectKey data = some verdict := by
  unfold validateLiveSnapshot
  cases validateLiveKey objectKey with
  | error message => exact ⟨.error message, fun _ _ => rfl⟩
  | ok _ =>
      dsimp only
      split
      · exact ⟨_, fun _ _ => rfl⟩
      · split
        · exact ⟨_, fun _ _ => rfl⟩
        · rename_i hjpeg
          have hlength : 4 ≤ data.length := not_lt.mp fun hshort => hjpeg (.inl hshort)
          -- the bytes behind the index get fewer with every pass
          obtain ⟨verdict, hverdict, -⟩ := loop_total (I := fun _ => True) (Q := fun _ => True)
            (fun index => data.length - index)
            (fun _ _ _ hpass => ⟨trivial, scanPass_progress hpass⟩) (fun _ _ _ _ => trivial)
            trivial (show data.length - 2 < data.length by omega)
          exact ⟨verdict, fun fuel hfuel => loop_mono hverdict hfuel⟩

/-! ## Well-formed files -/

/-- A two-byte length or size. -/
def wordBytes (n : Nat) : List UInt8 := [UInt8.ofNat (n / 256), UInt8.ofNat (n % 256)]

/-- A segment that is not a frame header. -/
structure Segment where
  marker : UInt8
  payload : List UInt8
  not_frame : marker ∉ sofMarkers
  fits : 2 + payload.length < 2 ^ 16

def Segment.bytes (segment : Segment) : List UInt8 :=
  [0xFF, segment.marker] ++ wordBytes (2 + segment.payload.length) ++ segment.payload

/-- SOF0 to SOF15 other than C4, C8 and CC, with the components of the frame. -/
structure FrameHeader where
  marker : UInt8
  precision : UInt8
  height : UInt16
  width : UInt16
  components : List (UInt8 × UInt8 × UInt8)
  is_frame : marker ∈ sofMarkers
  fits : components.length < 2 ^ 8

/-- The number of components and their parameters. -/
def FrameHeader.parameters (frame : FrameHeader) : List UInt8 :=
  UInt8.ofNat frame.components.length ::
    frame.components.flatMap fun (identifier, sampling, table) => [identifier, sampling, table]

def FrameHeader.bytes (frame : FrameHeader) : List UInt8 :=
  [0xFF, frame.marker] ++ wordBytes (8 + 3 * frame.components.length) ++ [frame.precision] ++
    wordBytes frame.height.toNat ++ wordBytes frame.width.toNat ++ frame.parameters

/-- SOI, segments, the first frame header, what follows it, and EOI. -/
structure Jpeg where
  segments : List Segment
  frame : FrameHeader
  scans : List UInt8

def Jpeg.body (jpeg : Jpeg) : List UInt8 := jpeg.frame.bytes ++ jpeg.scans ++ [0xFF, 0xD9]

def Jpeg.bytes (jpeg : Jpeg) : List UInt8 :=
  [0xFF, 0xD8] ++ jpeg.segments.flatMap Segment.bytes ++ jpeg.body

/-! ## The scan of a well-formed file -/

theorem fromBytes_wordBytes {n : Nat} (h : n < 2 ^ 16) : fromBytes (wordBytes n) = n := by
  have hhigh : n / 256 % 256 = n / 256 := Nat.mod_eq_of_lt (by omega)
  have hlow : n % 256 % 256 = n % 256 := Nat.mod_mod n 256
  calc fromBytes (wordBytes n) =
      256 * (256 * 0 + (UInt8.ofNat (n / 256)).toNat) + (UInt8.ofNat (n % 256)).toNat := rfl
    _ = 256 * (n / 256) + n % 256 := by
        rw [UInt8.toNat_ofNat', UInt8.toNat_ofNat', hhigh, hlow]
        ring
    _ = n := Nat.div_add_mod n 256

variable {data rest : List UInt8} {index : Nat}

/-- What stands at a place after `index`, for data known from `index` on. -/
theorem getElem_of_drop {seen : List UInt8} (h : data.drop index = seen) {offset : Nat}
    (hat : index + offset < data.length) (hoffset : offset < seen.length) :
    data[index + offset] = seen[offset] := by
  subst h
  rw [List.getElem_drop]

theorem word_of_drop (before rest : List UInt8) {n offset : Nat} (hn : n < 2 ^ 16)
    (h : data.drop index = before ++ (wordBytes n ++ rest)) (hoffset : before.length = offset) :
    word data (index + offset) = n := by
  have hdrop : data.drop (index + offset) = wordBytes n ++ rest := by
    rw [← List.drop_drop, h, ← hoffset, List.drop_left]
  have htake : (wordBytes n ++ rest).take 2 = wordBytes n := rfl
  rw [word, hdrop, htake, fromBytes_wordBytes hn]

theorem lt_length_of_drop {seen : List UInt8} (h : data.drop index = seen) {n : Nat}
    (hn : n < seen.length) : index + n < data.length := by
  have hlength := congrArg List.length h
  rw [List.length_drop] at hlength
  omega

/-- At a segment the scan goes on behind its payload, whatever its bytes. -/
theorem scanPass_segment {segment : Segment} (h : data.drop index = segment.bytes ++ rest)
    (hrest : 8 ≤ rest.length) :
    scanPass data index = .next (index + segment.bytes.length) := by
  have hbytes : segment.bytes.length = 2 + (2 + segment.payload.length) := by
    have hmarker : ([0xFF, segment.marker] ++
        wordBytes (2 + segment.payload.length)).length = 4 := rfl
    rw [Segment.bytes, List.length_append, hmarker]
    omega
  have hend : index + 8 < data.length := by
    apply lt_length_of_drop h
    rw [List.length_append]
    omega
  have hfirst : data[index] = 0xFF := getElem_of_drop h (by omega) (Nat.zero_lt_succ _)
  have hmarker : data[index + 1] = segment.marker :=
    getElem_of_drop h (by omega) (Nat.succ_lt_succ (Nat.zero_lt_succ _))
  have hsize : word data (index + 2) = 2 + segment.payload.length := by
    refine word_of_drop [0xFF, segment.marker] (segment.payload ++ rest) segment.fits ?_ rfl
    rw [h, Segment.bytes]
    simp only [List.append_assoc]
  unfold scanPass
  rw [dif_pos hend, if_neg (not_not.mpr hfirst), hmarker, if_neg segment.not_frame,
    if_neg (by omega)]
  dsimp only
  rw [hsize, if_neg (by omega), hbytes]

/-- At the frame header the scan compares its two sizes. -/
theorem scanPass_frame {frame : FrameHeader} (h : data.drop index = frame.bytes ++ rest) :
    scanPass data index =
      if frame.width.toNat = 112 ∧ frame.height.toNat = 112 then .done (.ok ())
      else .done (.error "Live snapshot must be 112x112") := by
  have hend : index + 8 < data.length := by
    apply lt_length_of_drop h
    simp only [FrameHeader.bytes, wordBytes, List.length_append, List.length_cons]
    omega
  have hfirst : data[index] = 0xFF := getElem_of_drop h (by omega) (Nat.zero_lt_succ _)
  have hmarker : data[index + 1] = frame.marker :=
    getElem_of_drop h (by omega) (Nat.succ_lt_succ (Nat.zero_lt_succ _))
  have hheight : word data (index + 5) = frame.height.toNat := by
    refine word_of_drop ([0xFF, frame.marker] ++ wordBytes (8 + 3 * frame.components.length) ++
      [frame.precision]) (wordBytes frame.width.toNat ++ (frame.parameters ++ rest))
      frame.height.toNat_lt ?_ rfl
    rw [h, FrameHeader.bytes]
    simp only [List.append_assoc]
  have hwidth : word data (index + 7) = frame.width.toNat := by
    refine word_of_drop ([0xFF, frame.marker] ++ wordBytes (8 + 3 * frame.components.length) ++
      [frame.precision] ++ wordBytes frame.height.toNat) (frame.parameters ++ rest)
      frame.width.toNat_lt ?_ rfl
    rw [h, FrameHeader.bytes]
    simp only [List.append_assoc]
  unfold scanPass
  rw [dif_pos hend, if_neg (not_not.mpr hfirst), hmarker, if_pos frame.is_frame]
  dsimp only
  rw [hheight, hwidth]
  simp only [ne_eq, Prod.mk.injEq, ite_not]

/-- The verdict on the sizes of a file that has its frame header. -/
def Jpeg.verdict (jpeg : Jpeg) : Except String Unit :=
  if jpeg.frame.width.toNat = 112 ∧ jpeg.frame.height.toNat = 112 then .ok ()
  else .error "Live snapshot must be 112x112"

/-- The index stands where a segment or the frame header starts. -/
def OnBoundary (jpeg : Jpeg) (index : Nat) : Prop :=
  ∃ segments : List Segment,
    jpeg.bytes.drop index = segments.flatMap Segment.bytes ++ jpeg.body

theorem onBoundary_start (jpeg : Jpeg) : OnBoundary jpeg 2 := by
  refine ⟨jpeg.segments, ?_⟩
  rw [Jpeg.bytes, List.append_assoc]
  rfl

theorem eight_le_length_body (jpeg : Jpeg) : 8 ≤ jpeg.body.length := by
  simp only [Jpeg.body, FrameHeader.bytes, wordBytes, List.length_append, List.length_cons]
  omega

/-- A pass leads from one boundary to the next, or ends at the frame header. -/
theorem scanPass_onBoundary {jpeg : Jpeg} (h : OnBoundary jpeg index) :
    (∃ index', scanPass jpeg.bytes index = .next index' ∧ OnBoundary jpeg index') ∨
      scanPass jpeg.bytes index = .done jpeg.verdict := by
  obtain ⟨segments, hsegments⟩ := h
  -- the segments that are left: none before the frame header
  cases segments with
  | nil =>
      right
      rw [List.flatMap_nil, List.nil_append, Jpeg.body, List.append_assoc] at hsegments
      rw [scanPass_frame hsegments, Jpeg.verdict, apply_ite Pass.done]
  | cons segment segments =>
      left
      rw [List.flatMap_cons, List.append_assoc] at hsegments
      refine ⟨_, scanPass_segment hsegments ?_, segments, ?_⟩
      · have hbody := eight_le_length_body jpeg
        rw [List.length_append]
        omega
      · rw [← List.drop_drop, hsegments, List.drop_left]

/-- The scan of a well-formed file ends with the verdict on its first frame header. -/
theorem loop_scanPass_jpeg {jpeg : Jpeg} {fuel : Nat} (hfuel : jpeg.bytes.length ≤ fuel) :
    loop (scanPass jpeg.bytes) fuel 2 = some jpeg.verdict := by
  have hlength : 2 < jpeg.bytes.length := by
    have hbody := eight_le_length_body jpeg
    rw [Jpeg.bytes, List.length_append]
    omega
  have hnext : ∀ index index', OnBoundary jpeg index →
      scanPass jpeg.bytes index = .next index' →
      OnBoundary jpeg index' ∧ jpeg.bytes.length - index' < jpeg.bytes.length - index := by
    intro index index' hindex hpass
    refine ⟨?_, scanPass_progress hpass⟩
    obtain ⟨next, hnext, hboundary⟩ | hdone := scanPass_onBoundary hindex
    · obtain rfl := Pass.next.inj (hnext.symm.trans hpass)
      exact hboundary
    · cases hdone.symm.trans hpass
  have hdone : ∀ index verdict, OnBoundary jpeg index →
      scanPass jpeg.bytes index = .done verdict → verdict = jpeg.verdict := by
    intro index verdict hindex hpass
    obtain ⟨next, hnext, -⟩ | hdone := scanPass_onBoundary hindex
    · cases hnext.symm.trans hpass
    · exact Pass.done.inj (hpass.symm.trans hdone)
  obtain ⟨verdict, hverdict, rfl⟩ := loop_total (fun index => jpeg.bytes.length - index) hnext
    hdone (onBoundary_start jpeg) (show jpeg.bytes.length - 2 < fuel by omega)
  exact hverdict

/-- A well-formed file passes the checks of its length and its two ends. -/
theorem validateLiveSnapshot_jpeg {objectKey : String} {jpeg : Jpeg} {fuel : Nat}
    (hfuel : jpeg.bytes.length ≤ fuel) :
    validateLiveSnapshot fuel objectKey jpeg.bytes =
      match validateLiveKey objectKey with
      | .error message => some (.error message)
      | .ok () =>
          if jpeg.bytes.length > 512 * 1024 then some (.error "Live snapshot exceeds size limit")
          else some jpeg.verdict := by
  have hlast : jpeg.bytes.drop (jpeg.bytes.length - 2) = [0xFF, 0xD9] := by
    have hsplit : jpeg.bytes = ([0xFF, 0xD8] ++ jpeg.segments.flatMap Segment.bytes ++
        (jpeg.frame.bytes ++ jpeg.scans)) ++ [0xFF, 0xD9] := by
      simp only [Jpeg.bytes, Jpeg.body, List.append_assoc]
    have hlength := congrArg List.length hsplit
    rw [List.length_append, List.length_cons, List.length_singleton] at hlength
    rw [hlength, Nat.add_sub_cancel, hsplit, List.drop_left]
  have hfirst : jpeg.bytes.take 2 = [0xFF, 0xD8] := by
    rw [Jpeg.bytes, List.append_assoc]
    rfl
  have hlength : ¬ jpeg.bytes.length < 4 := by
    have hbody := eight_le_length_body jpeg
    rw [Jpeg.bytes, List.length_append]
    omega
  unfold validateLiveSnapshot
  rw [if_neg (c := _ ∨ _) (by simp [hlength, hfirst, hlast]), loop_scanPass_jpeg hfuel]

/-- Every check ends, and it accepts the well-formed files of 112 by 112 under a valid key. -/
theorem live_snapshot_exact :
    (∀ objectKey data, ∃ verdict, ∀ fuel, data.length ≤ fuel →
      validateLiveSnapshot fuel objectKey data = some verdict) ∧
    ∀ objectKey (jpeg : Jpeg) fuel, jpeg.bytes.length ≤ fuel →
      (validateLiveSnapshot fuel objectKey jpeg.bytes = some (.ok ()) ↔
        validateLiveKey objectKey = .ok () ∧ jpeg.bytes.length ≤ 524288 ∧
          jpeg.frame.width.toNat = 112 ∧ jpeg.frame.height.toNat = 112) := by
  refine ⟨validateLiveSnapshot_returns, fun objectKey jpeg fuel hfuel => ?_⟩
  rw [validateLiveSnapshot_jpeg hfuel]
  cases validateLiveKey objectKey with
  | error message => simp
  | ok _ =>
      dsimp only
      rw [Jpeg.verdict]
      split
      · rename_i hlong
        constructor
        · intro h
          cases Option.some.inj h
        · rintro ⟨-, hshort, -⟩
          omega
      · rename_i hshort
        split
        · rename_i hsizes
          exact ⟨fun _ => ⟨rfl, by omega, hsizes⟩, fun _ => rfl⟩
        · rename_i hsizes
          constructor
          · intro h
            cases Option.some.inj h
          · rintro ⟨-, -, h⟩
            exact absurd h hsizes

/-- A payload that reads as the frame header of a picture of 64 by 64. -/
def snapshotWithThumbnail : Jpeg where
  segments := [⟨0xE0, [0xFF, 0xD8, 0xFF, 0xC0, 0, 11, 8, 0, 64, 0, 64, 0], by decide, by decide⟩]
  frame := ⟨0xC2, 8, 112, 112, [(1, 0x22, 0)], by decide, by decide⟩
  scans := [0xFF, 0xDA, 0, 2]

theorem snapshot_with_thumbnail_accepted :
    validateLiveSnapshot 64
      ("live/019b0000-0000-7000-8000-000000000001/" ++
        "019b0000-0000-7000-8000-000000000003/aligned")
      snapshotWithThumbnail.bytes = some (.ok ()) :=
  (live_snapshot_exact.2 _ snapshotWithThumbnail 64 (by decide)).mpr
    ⟨by decide, by decide, rfl, rfl⟩

end MinIOAdapter

end Mvision.Live
