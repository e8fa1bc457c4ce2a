import Mvision.Library.Checks
import Mvision.Library.PythonNumbers
import Mvision.Protocols.UntrustedInput
import Mvision.Video.Upload

/-!
# The source of a video job: `VideoJobService.source` and `MinIOAdapter.read_video_range`

A client may ask for a range of the bytes.  The table of decimal digits is a parameter, and the
object store gives the bytes of an object from an offset on, up to a length.
-/

namespace Mvision.Video

open Mvision.Library

/-- The row of a job with the column that cleaning sets. -/
structure RetainedJob extends SourcedJob where
  sourceDeletedAt : Option Timestamp
deriving DecidableEq

abbrev RetainedJobs := Table fun job : RetainedJob => job.jobId

inductive SourceError where
  | jobNotFound (jobId : String)
  | videoError (e : ServiceError)
  /-- `int` raises. -/
  | valueError
  | objectValidationError
  | objectNotFound
  | objectStorageError
deriving DecidableEq, Repr

def invalidRange : SourceError :=
  .videoError ⟨"Invalid video byte range", "INVALID_RANGE", 416, none⟩

def videoExpired : SourceError :=
  .videoError ⟨"Retained source video has expired", "VIDEO_EXPIRED", 410, none⟩

/-! ## `_parse_range` -/

section Range

variable (digits : Python.DecimalDigits)

/-- `\d` -/
def rangeDigit (c : Char) : Bool := (digits.digit c).isSome

/-- The groups of `re.fullmatch(r"bytes=(\d*)-(\d*)", text)` -/
def rangeGroups (text : List Char) : Option (List Char × List Char) :=
  if text.take 6 = "bytes=".toList then
    match (text.drop 6).dropWhile (rangeDigit digits) with
    | '-' :: second =>
        if second.all (rangeDigit digits) then
          some ((text.drop 6).takeWhile (rangeDigit digits), second)
        else none
    | _ => none
  else none

/-- `int(group)` -/
def groupInteger (group : List Char) : Except SourceError Int :=
  match Python.integerOf (digits.ascii (String.ofList group)) with
  | some n => .ok n
  | none => .error .valueError

/-- `int(group) if group else default` -/
def groupIntegerOr (default : Int) (group : List Char) : Except SourceError Int :=
  if group = [] then .ok default else groupInteger digits group

/-- The offset and the last byte that the groups ask for, before they are compared. -/
def requestedRange (total : Int) (first second : List Char) : Except SourceError (Int × Int) :=
  if first = [] then do
    let length ← groupInteger digits second
    return (max 0 (total - length), total - 1)
  else do
    let offset ← groupInteger digits first
    let last ← groupIntegerOr digits (total - 1) second
    return (offset, last)

/-- `_parse_range` -/
def parseRange (value : Option String) (total : Int) : Except SourceError (Int × Int) :=
  match value with
  | none => .ok (0, total - 1)
  | some value =>
      match rangeGroups digits (stripped value).toList with
      | none => .error invalidRange
      | some (first, second) =>
          if first = [] ∧ second = [] then .error invalidRange
          else do
            let range ← requestedRange digits total first second
            if range.1 < 0 ∨ total ≤ range.1 ∨ range.2 < range.1 then .error invalidRange
            else return (range.1, min range.2 (total - 1))

/-! ## `source` -/

/-- `MinIOAdapter.read_video_range` -/
def readVideoRange (objects : String → Option (List UInt8)) (objectKey : String)
    (offset length : Int) : Except SourceError (List UInt8) :=
  if videoObjectKey objectKey = false then .error .objectValidationError
  else if offset < 0 ∨ length ≤ 0 then .error .objectValidationError
  else
    match objects objectKey with
    | none => .error .objectNotFound
    | some content =>
        if (content.length : Int) ≤ offset then .error .objectStorageError
        else .ok ((content.drop offset.toNat).take length.toNat)

/-- A request whose row and range are known. -/
structure OpenSource where
  job : RetainedJob
  offset : Int
  last : Int
  ranged : Bool
deriving DecidableEq

structure SourceResponse where
  data : List UInt8
  contentType : String
  statusCode : Nat
  headers : List (String × String)
deriving DecidableEq, Repr

/-- `source` up to the read. -/
def openSource (jobs : RetainedJobs) (now : Timestamp) (jobId : String)
    (rangeHeader : Option String) : Except SourceError OpenSource :=
  match jobs.get jobId with
  | none => .error (.jobNotFound jobId)
  | some job =>
      if job.sourceDeletedAt.isSome ∨ job.sourceRetentionUntil ≤ now then .error videoExpired
      else do
        let range ← parseRange digits rangeHeader job.sourceSize
        return ⟨job, range.1, range.2, rangeHeader.isSome⟩

/-- The bytes of an open request. -/
def OpenSource.read (source : OpenSource) (objects : String → Option (List UInt8)) :
    Except SourceError (List UInt8) :=
  readVideoRange objects source.job.sourceObjectKey source.offset
    (source.last - source.offset + 1)

/-- The response with the bytes. -/
def OpenSource.respond (source : OpenSource) (data : List UInt8) : SourceResponse where
  data := data
  contentType := source.job.sourceContentType
  statusCode := if source.ranged then 206 else 200
  headers :=
    [("Accept-Ranges", "bytes"), ("Content-Length", toString data.length)] ++
      if source.ranged then
        [("Content-Range", s!"bytes {source.offset}-{source.last}/{source.job.sourceSize}")]
      else []

/-- `VideoJobService.source` -/
def source (jobs : RetainedJobs) (objects : String → Option (List UInt8)) (now : Timestamp)
    (jobId : String) (rangeHeader : Option String) : Except SourceError SourceResponse := do
  let opened ← openSource digits jobs now jobId rangeHeader
  let data ← opened.read objects
  return opened.respond data

end Range

/-! ## Ranges are inside of the object -/

section Bounds

variable {digits : Python.DecimalDigits} {jobs : RetainedJobs} {objects : String → Option (List UInt8)}
  {now : Timestamp} {jobId : String} {job : RetainedJob} {content : List UInt8} {offset last : Int}

theorem parseRange_ok {value : Option String} {total : Int} (htotal : 0 < total)
    (h : parseRange digits value total = .ok (offset, last)) :
    0 ≤ offset ∧ offset ≤ last ∧ last < total := by
  unfold parseRange at h
  split at h
  · cases h
    omega
  · split at h
    · cases h
    · split at h
      · cases h
      · obtain ⟨⟨o, l⟩, -, hrange⟩ := bind_ok_iff.mp h
        split at hrange
        · cases hrange
        · rename_i hinside
          cases hrange
          simp only [not_or, not_lt, not_le] at hinside
          omega

/-- What the store gives of a range inside of an object. -/
theorem readVideoRange_ok {key : String} (hkey : videoObjectKey key = true)
    (hobject : objects key = some content) (hoffset : 0 ≤ offset) (hle : offset ≤ last)
    (hlast : last < content.length) :
    readVideoRange objects key offset (last - offset + 1) =
      .ok ((content.drop offset.toNat).take (last - offset + 1).toNat) := by
  unfold readVideoRange
  rw [if_neg (by simp [hkey]), if_neg (by omega), hobject]
  exact if_neg (by omega)

theorem length_range (hoffset : 0 ≤ offset) (hle : offset ≤ last)
    (hlast : last < content.length) :
    ((content.drop offset.toNat).take (last - offset + 1).toNat).length =
      (last - offset + 1).toNat := by
  rw [List.length_take, List.length_drop]
  omega

/-- The row and the object of a job belong together. -/
structure Intact (objects : String → Option (List UInt8)) (job : RetainedJob)
    (content : List UInt8) : Prop where
  key : videoObjectKey job.sourceObjectKey = true
  object : objects job.sourceObjectKey = some content
  size : job.sourceSize = content.length
  nonempty : content ≠ []

theorem openSource_ok {opened : OpenSource} {rangeHeader : Option String}
    (h : openSource digits jobs now jobId rangeHeader = .ok opened) :
    jobs.get jobId = some opened.job ∧ opened.job.sourceDeletedAt = none ∧
      now < opened.job.sourceRetentionUntil ∧
      parseRange digits rangeHeader opened.job.sourceSize = .ok (opened.offset, opened.last) ∧
      opened.ranged = rangeHeader.isSome := by
  unfold openSource at h
  split at h
  · cases h
  · rename_i job hget
    split at h
    · cases h
    · rename_i havailable
      simp only [not_or, not_le, Option.not_isSome_iff_eq_none] at havailable
      obtain ⟨⟨offset, last⟩, hrange, hopened⟩ := bind_ok_iff.mp h
      cases hopened
      exact ⟨hget, havailable.1, havailable.2, hrange, rfl⟩

/-- The bytes of an open request whose object is there. -/
theorem OpenSource.read_ok {opened : OpenSource} {value : Option String}
    (hintact : Intact objects opened.job content)
    (hrange : parseRange digits value opened.job.sourceSize = .ok (opened.offset, opened.last)) :
    ∃ data, opened.read objects = .ok data ∧
      data = (content.drop opened.offset.toNat).take (opened.last - opened.offset + 1).toNat ∧
      (data.length : Int) = opened.last - opened.offset + 1 ∧
      0 ≤ opened.offset ∧ opened.offset ≤ opened.last ∧ opened.last < content.length := by
  have hpos := List.length_pos_of_ne_nil hintact.nonempty
  rw [hintact.size] at hrange
  obtain ⟨hoffset, hle, hlast⟩ := parseRange_ok (by omega) hrange
  refine ⟨_, readVideoRange_ok hintact.key hintact.object hoffset hle hlast, rfl, ?_, hoffset, hle,
    hlast⟩
  rw [length_range hoffset hle hlast]
  omega

end Bounds

/-! ## A download in ranges -/

section Download

/-- The header that asks for a chunk. -/
def chunkHeader (size index : Nat) : String :=
  s!"bytes={index * size}-{index * size + size - 1}"

variable {digits : Python.DecimalDigits} {a b : Nat}

theorem toList_header (a b : Nat) :
    s!"bytes={a}-{b}".toList =
      "bytes=".toList ++ (Nat.toDigits 10 a ++ '-' :: Nat.toDigits 10 b) := by
  simp only [String.toList_append, Nat.toString_eq_ofList_toDigits, String.toList_ofList,
    List.append_assoc]
  rfl

theorem stripped_header (a b : Nat) :
    (stripped s!"bytes={a}-{b}").toList = s!"bytes={a}-{b}".toList := by
  unfold stripped
  rw [String.toList_ofList, toList_header]
  have hfront : ("bytes=".toList ++ (Nat.toDigits 10 a ++ '-' :: Nat.toDigits 10 b)).dropWhile
      isSpace = "bytes=".toList ++ (Nat.toDigits 10 a ++ '-' :: Nat.toDigits 10 b) := rfl
  rw [hfront, List.rdropWhile_eq_self_iff]
  intro hne
  have hlast : ("bytes=".toList ++ (Nat.toDigits 10 a ++ '-' :: Nat.toDigits 10 b)).getLast hne ∈
      Nat.toDigits 10 b := by
    rw [List.getLast_append_of_ne_nil _ (by simp), List.getLast_append_of_ne_nil _ (by simp),
      List.getLast_cons Nat.toDigits_ne_nil]
    exact List.getLast_mem _
  rw [Python.not_isSpace_of_isDigit (Python.isDigit_toDigits hlast)]
  exact Bool.false_ne_true

theorem rangeGroups_header (a b : Nat) :
    rangeGroups digits ("bytes=".toList ++ (Nat.toDigits 10 a ++ '-' :: Nat.toDigits 10 b)) =
      some (Nat.toDigits 10 a, Nat.toDigits 10 b) := by
  have hdigit : ∀ n : Nat, ∀ c ∈ Nat.toDigits 10 n, rangeDigit digits c = true := by
    intro n c hc
    rw [rangeDigit, digits.digit_toDigits hc, Option.isSome_some]
  have hminus : ¬ rangeDigit digits '-' = true := by
    rw [rangeDigit, digits.digit_of_ascii '-' (by decide)]
    decide
  have htake : ("bytes=".toList ++ (Nat.toDigits 10 a ++ '-' :: Nat.toDigits 10 b)).take 6 =
      "bytes=".toList := rfl
  have hdrop : ("bytes=".toList ++ (Nat.toDigits 10 a ++ '-' :: Nat.toDigits 10 b)).drop 6 =
      Nat.toDigits 10 a ++ '-' :: Nat.toDigits 10 b := rfl
  have hsecond : (Nat.toDigits 10 b).all (rangeDigit digits) = true :=
    List.all_eq_true.mpr (hdigit b)
  unfold rangeGroups
  rw [if_pos htake, hdrop, List.dropWhile_append_of_pos (hdigit a),
    List.takeWhile_append_of_pos (hdigit a), List.dropWhile_cons_of_neg hminus,
    List.takeWhile_cons_of_neg hminus, List.append_nil]
  exact if_pos hsecond

theorem groupInteger_toDigits {n : Nat} (h : n < 10 ^ Python.maxDigits) :
    groupInteger digits (Nat.toDigits 10 n) = .ok (n : Int) := by
  have hlength : (Nat.toDigits 10 n).length ≤ Python.maxDigits :=
    (Nat.length_toDigits_le_iff (by decide) (by decide)).mpr h
  unfold groupInteger
  rw [digits.ascii_toDigits, Python.integerOf_toDigits hlength]

/-- A range that a client writes as numbers. -/
theorem parseRange_header {total : Nat} (ha : a < 10 ^ Python.maxDigits)
    (hb : b < 10 ^ Python.maxDigits) (hab : a ≤ b) (hinside : a < total) :
    parseRange digits (some s!"bytes={a}-{b}") total = .ok (a, min (b : Int) (total - 1)) := by
  unfold parseRange
  simp only [stripped_header, toList_header, rangeGroups_header]
  rw [if_neg (fun h => Nat.toDigits_ne_nil h.1)]
  unfold requestedRange
  rw [if_neg Nat.toDigits_ne_nil, groupIntegerOr, if_neg Nat.toDigits_ne_nil,
    groupInteger_toDigits ha, groupInteger_toDigits hb]
  simp only [ok_bind, pure, Except.pure]
  rw [if_neg (by omega)]

theorem flatten_chunks {α : Type*} (content : List α) (size count : Nat) :
    ((List.range count).map fun index => (content.drop (index * size)).take size).flatten =
      content.take (count * size) := by
  induction count with
  | zero => rw [Nat.zero_mul, List.take_zero, List.range_zero, List.map_nil, List.flatten_nil]
  | succ count ih =>
      rw [List.range_succ, List.map_append, List.flatten_append, ih, List.map_singleton,
        List.flatten_singleton, Nat.succ_mul, List.take_add]

variable {jobs : RetainedJobs} {objects : String → Option (List UInt8)} {now : Timestamp}
  {jobId : String} {job : RetainedJob} {content : List UInt8} {size : Nat}

/-- The answer to a range that begins inside of the object. -/
theorem source_header (hget : jobs.get jobId = some job) (havailable : job.sourceDeletedAt = none)
    (hretained : now < job.sourceRetentionUntil) (hintact : Intact objects job content)
    (ha : a < 10 ^ Python.maxDigits) (hb : b < 10 ^ Python.maxDigits) (hab : a ≤ b)
    (hinside : a < content.length) :
    ∃ response, source digits jobs objects now jobId (some s!"bytes={a}-{b}") = .ok response ∧
      response.data = (content.drop a).take (b + 1 - a) := by
  have hrange := @parseRange_header digits a b content.length ha hb hab hinside
  have hopen : openSource digits jobs now jobId (some s!"bytes={a}-{b}") =
      .ok ⟨job, a, min (b : Int) (content.length - 1), true⟩ := by
    have hadmitted : ¬ (job.sourceDeletedAt.isSome = true ∨ job.sourceRetentionUntil ≤ now) := by
      rw [havailable]
      rintro (h | h)
      · cases h
      · exact absurd h (not_le.mpr hretained)
    unfold openSource
    rw [hget]
    show (if _ then _ else _) = _
    rw [if_neg hadmitted, hintact.size, hrange]
    rfl
  have hread : (OpenSource.mk job a (min (b : Int) (content.length - 1)) true).read objects =
      .ok ((content.drop a).take (b + 1 - a)) := by
    have hle : (a : Int) ≤ min (b : Int) (content.length - 1) := by omega
    have hlast : min (b : Int) (content.length - 1) < content.length := by omega
    have htake : (content.drop (a : Int).toNat).take
        (min (b : Int) (content.length - 1) - a + 1).toNat =
          (content.drop a).take (b + 1 - a) := by
      rw [Int.toNat_natCast, List.take_eq_take_iff, List.length_drop]
      omega
    exact (readVideoRange_ok hintact.key hintact.object (Int.natCast_nonneg a) hle hlast).trans
      (congrArg Except.ok htake)
  refine ⟨(OpenSource.mk job a (min (b : Int) (content.length - 1)) true).respond
    ((content.drop a).take (b + 1 - a)), ?_, rfl⟩
  unfold source
  rw [hopen, ok_bind, hread]
  rfl

/-- A client that asks for the chunks of a source one after the other gets its bytes. -/
theorem download_in_ranges (hget : jobs.get jobId = some job)
    (havailable : job.sourceDeletedAt = none) (hretained : now < job.sourceRetentionUntil)
    (hintact : Intact objects job content) (hsize : 0 < size)
    (hdigits : content.length + size ≤ 10 ^ Python.maxDigits) :
    ∃ responses, ((List.range ((content.length + size - 1) / size)).mapM fun index =>
        source digits jobs objects now jobId (some (chunkHeader size index))) = .ok responses ∧
      (responses.map fun response => response.data).flatten = content := by
  have hchunk : ∀ index ∈ List.range ((content.length + size - 1) / size),
      ∃ response, source digits jobs objects now jobId (some (chunkHeader size index)) =
          .ok response ∧ response.data = (content.drop (index * size)).take size := by
    intro index hindex
    have hlt : index * size < content.length := by
      have hle := Nat.mul_le_mul_right size (Nat.succ_le_of_lt (List.mem_range.mp hindex))
      have hdiv := Nat.div_mul_le_self (content.length + size - 1) size
      rw [Nat.succ_mul] at hle
      omega
    have hfirst : index * size < 10 ^ Python.maxDigits := by omega
    have hlast : index * size + size - 1 < 10 ^ Python.maxDigits := by omega
    have hordered : index * size ≤ index * size + size - 1 := by omega
    have hanswer : ∃ response, source digits jobs objects now jobId
        (some (chunkHeader size index)) = .ok response ∧ response.data =
          (content.drop (index * size)).take (index * size + size - 1 + 1 - index * size) :=
      source_header hget havailable hretained hintact hfirst hlast hordered hlt
    obtain ⟨response, hsource, hdata⟩ := hanswer
    refine ⟨response, hsource, ?_⟩
    have hlength : index * size + size - 1 + 1 - index * size = size := by omega
    rw [hdata, hlength]
  obtain ⟨responses, hresponses, hforall⟩ := exists_mapM_forall₂ hchunk
  refine ⟨responses, hresponses, ?_⟩
  have hdata : responses.map (fun response => response.data) =
      (List.range ((content.length + size - 1) / size)).map fun index =>
        (content.drop (index * size)).take size := by
    rw [← List.forall₂_eq_eq_eq]
    exact List.forall₂_map_left_iff.mpr (List.forall₂_map_right_iff.mpr hforall.flip)
  rw [hdata, flatten_chunks]
  apply List.take_of_length_le
  -- the chunks reach the end
  have hmod := Nat.div_add_mod (content.length + size - 1) size
  have hlt := Nat.mod_lt (content.length + size - 1) hsize
  rw [Nat.mul_comm] at hmod
  omega

/-- A video of three bytes. -/
def sampleSource : RetainedJob where
  jobId := "019b0000-0000-7000-8000-000000000001"
  processId := "019b0000-0000-7000-8000-000000000002"
  status := .completed
  stage := "completed"
  progressPercent := 100
  cancellationRequested := false
  attemptCount := 1
  maxAttempts := 3
  availableAt := 0
  workerId := none
  leaseToken := none
  leaseExpiresAt := none
  errorCode := none
  processedFrames := 5
  personCount := 0
  createdAt := 0
  startedAt := some 0
  completedAt := some 0
  cancelledAt := none
  sourceBucket := "mvision-videos"
  sourceObjectKey := "videos/019b0000-0000-7000-8000-000000000001/source"
  sourceContentType := "video/mp4"
  sourceSize := 3
  sourceSha256 := "digest"
  sourceRetentionUntil := 10
  containerFormat := "mp4"
  videoCodec := "h264"
  durationSeconds := .finite 1
  fps := .finite 25
  width := 640
  height := 480
  totalFrames := 25
  sampling := ⟨"every_n_frames", .finite 5, 5, .finite 5⟩
  sourceDeletedAt := none

def sampleSources : RetainedJobs := Table.empty.insert sampleSource

theorem download_in_ranges_two :
    ∃ responses, ((List.range 2).mapM fun index =>
        source Protocols.asciiInterpreter.toDecimalDigits sampleSources (fun _ => some [1, 2, 3]) 0
          sampleSource.jobId (some (chunkHeader 2 index))) = .ok responses ∧
      (responses.map fun response => response.data).flatten = [1, 2, 3] := by
  have hdigits : 5 ≤ 10 ^ Python.maxDigits := by
    have hten : 10 ^ 1 ≤ 10 ^ Python.maxDigits := Nat.pow_le_pow_right (by decide) (by decide)
    exact Nat.le_trans (by decide) hten
  have hget : sampleSources.get sampleSource.jobId = some sampleSource :=
    Table.get_insert_self rfl
  exact @download_in_ranges Protocols.asciiInterpreter.toDecimalDigits sampleSources
    (fun _ => some [1, 2, 3]) 0 sampleSource.jobId sampleSource [1, 2, 3] 2 hget rfl (by decide)
    ⟨by decide, rfl, rfl, by decide⟩ (by decide) hdigits

end Download

end Mvision.Video
