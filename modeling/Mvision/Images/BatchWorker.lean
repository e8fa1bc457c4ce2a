import Mathlib.Data.List.TakeWhile
import Mvision.Library.Joins
import Mvision.Library.Machine

/-!
# The image worker: `worker_main` and `PersistentJpegPipeline`

A connection brings one batch.  The worker pushes its frames into a pipeline
that outlives the connection, and waits until as many frames have come out of
the pipeline as it has counted over all the batches.  The frames of a batch are
counted together, after the last one is pushed.
-/

namespace Mvision.Images

open Mvision.Library

structure ImageRequest where
  requestId : List UInt8
  encodedJpeg : List UInt8
deriving DecidableEq

/-- `ImageDetectionResult`, for detections of any kind. -/
structure ImageDetectionResult (φ : Type) where
  ptsToken : Nat
  faces : List φ
deriving DecidableEq

/-- `ImageResult`; a face goes with its ordinal. -/
structure ImageResult (φ : Type) where
  requestId : List UInt8
  status : String
  errorCode : String
  faces : List (Nat × φ)
deriving DecidableEq

/-- What the pipeline and its frames do that the worker has no say in. -/
structure WorkerConfig (φ : Type) where
  slots : Nat
  /-- The decoder makes a frame of it. -/
  decodable : List UInt8 → Bool
  /-- `encode_result` does not throw `FRAME_TOO_LARGE`. -/
  fits : ImageResult φ → Bool

/-- `PersistentJpegPipeline::Impl`, with the frames that are inside. -/
structure JpegPipeline (φ : Type) where
  frameCount : Nat := 0
  results : List (ImageDetectionResult φ) := []
  inFlight : List Nat := []

namespace JpegPipeline

variable {φ : Type}

/-- `push_jpeg`; nothing comes of a frame that cannot be decoded. -/
def pushJpeg (config : WorkerConfig φ) (jpeg : List UInt8) (ptsToken : Nat) (flowOk : Bool)
    (p : JpegPipeline φ) : Except String (JpegPipeline φ) :=
  if jpeg = [] then .error "pipeline is not ready for input"
  else if !flowOk then .error "failed to push JPEG buffer"
  else .ok { p with
    inFlight := if config.decodable jpeg then p.inFlight ++ [ptsToken] else p.inFlight }

/-- `on_buffer`; a buffer without batch metadata counts as one frame. -/
def onBuffer (batchResults : Option (List (ImageDetectionResult φ))) (p : JpegPipeline φ) :
    JpegPipeline φ :=
  match batchResults with
  | none => { p with frameCount := p.frameCount + 1 }
  | some results =>
      { frameCount := p.frameCount + results.length
        results := p.results ++ results
        inFlight := p.inFlight.filter fun token => token ∉ results.map (·.ptsToken) }

/-- The predicate that `wait_for_frames` waits for. -/
def framesReady (expected : Nat) (p : JpegPipeline φ) : Bool := decide (expected ≤ p.frameCount)

def takeResults (p : JpegPipeline φ) : List (ImageDetectionResult φ) × JpegPipeline φ :=
  (p.results, { p with results := [] })

end JpegPipeline

/-- The locals of a connection: its count and its `request_ids`, with the frames that they were
made for. -/
structure Batch where
  count : Nat
  requests : List (Nat × ImageRequest)
deriving DecidableEq

inductive Phase where
  | accepting
  | reading (batch : Batch)
  /-- `wait_for_frames` until the deadline. -/
  | waiting (batch : Batch) (deadline : Nat)

/-- The locals of `main`. -/
structure Worker (φ : Type) where
  pipeline : JpegPipeline φ := {}
  nextToken : Nat := 1
  completedTotal : Nat := 0
  phase : Phase := .accepting

/-- A connection that has been closed. -/
structure Closed (φ : Type) where
  batch : Batch
  /-- Of the wait, if it came to it. -/
  deadline : Option Nat
  responses : List (ImageResult φ)
  /-- A write has failed. -/
  hungUp : Bool

namespace Worker

variable {φ : Type} (config : WorkerConfig φ)

def respond (requestId : List UInt8) (result : ImageDetectionResult φ) : ImageResult φ :=
  ⟨requestId, "OK", "", result.faces.zipIdx.map Prod.swap⟩

/-- The loop over the sorted results; a token of no request is skipped. -/
def responses (requests : List (Nat × ImageRequest)) (results : List (ImageDetectionResult φ)) :
    List (ImageResult φ) :=
  (results.insertionSort fun left right => left.ptsToken ≤ right.ptsToken).filterMap fun result =>
    (requests.find? fun request => request.1 = result.ptsToken).map fun request =>
      respond request.2.requestId result

/-- What is written until `encode_result` or `write_exact` throws. -/
def written (writes : Option Nat) (responses : List (ImageResult φ)) : List (ImageResult φ) :=
  let encoded := responses.takeWhile config.fits
  match writes with
  | none => encoded
  | some n => encoded.take n

/-- The end of the `try` block, in any way. -/
def close (batch : Batch) (deadline : Option Nat) (responses : List (ImageResult φ))
    (hungUp : Bool) (w : Worker φ) : Worker φ × List (Closed φ) :=
  ({ w with phase := .accepting }, [⟨batch, deadline, responses, hungUp⟩])

def accept (count : Option Nat) (w : Worker φ) : Worker φ × List (Closed φ) :=
  match count with
  | none => w.close ⟨0, []⟩ none [] false
  | some count =>
      if count = 0 ∨ config.slots < count then w.close ⟨count, []⟩ none [] false
      else ({ w with phase := .reading ⟨count, []⟩ }, [])

/-- One iteration of the loop over the frames, and what follows the last one.  `none` is a frame
that `read_frame` or `decode_request` throws on. -/
def frame (time : Nat) (received : Option ImageRequest) (flowOk : Bool) (batch : Batch)
    (w : Worker φ) : Worker φ × List (Closed φ) :=
  match received with
  | none => w.close batch none [] false
  | some request =>
      let batch : Batch := { batch with requests := batch.requests ++ [(w.nextToken, request)] }
      match w.pipeline.pushJpeg config request.encodedJpeg w.nextToken flowOk with
      | .error _ => { w with nextToken := w.nextToken + 1 }.close batch none [] false
      | .ok pipeline =>
          let w := { w with pipeline := pipeline, nextToken := w.nextToken + 1 }
          if batch.requests.length < batch.count then ({ w with phase := .reading batch }, [])
          else ({ w with
            completedTotal := w.completedTotal + batch.count
            phase := .waiting batch (time + 120000) }, [])

/-- `wait_for_frames` has returned true. -/
def wake (writes : Option Nat) (batch : Batch) (deadline : Nat) (w : Worker φ) :
    Worker φ × List (Closed φ) :=
  let (results, pipeline) := w.pipeline.takeResults
  let responses := responses batch.requests results
  { w with pipeline := pipeline }.close batch (some deadline) (written config writes responses)
    (writes.any (· < responses.length))

end Worker

inductive WorkerEvent (φ : Type) where
  | buffer (batchResults : Option (List (ImageDetectionResult φ)))
  /-- A connection and its count; `none` if it ends before. -/
  | accept (count : Option Nat)
  | frame (received : Option ImageRequest) (flowOk : Bool)
  /-- The wait ends well; `writes` is how many writes succeed, if not all do. -/
  | wake (writes : Option Nat)
  | timeout

structure WorkerStep (φ : Type) where
  time : Nat
  event : WorkerEvent φ

/-- The worker, with what has been sent to the clients and when the frames came out. -/
structure WorkerState (φ : Type) where
  worker : Worker φ := {}
  now : Nat := 0
  closed : List (Closed φ) := []
  delivered : List (Nat × ImageDetectionResult φ) := []

namespace WorkerState

variable {φ : Type} (config : WorkerConfig φ)

/-- What the event does to the worker. -/
def act (time : Nat) (w : Worker φ) : WorkerEvent φ → Worker φ × List (Closed φ)
  | .buffer batchResults => ({ w with pipeline := w.pipeline.onBuffer batchResults }, [])
  | .accept count => w.accept config count
  | .frame received flowOk =>
      match w.phase with
      | .reading batch => w.frame config time received flowOk batch
      | _ => (w, [])
  | .wake writes =>
      match w.phase with
      | .waiting batch deadline => w.wake config writes batch deadline
      | _ => (w, [])
  | .timeout =>
      match w.phase with
      | .waiting batch deadline => w.close batch (some deadline) [] false
      | _ => (w, [])

def next (s : WorkerState φ) (step : WorkerStep φ) : WorkerState φ where
  worker := (act config step.time s.worker step.event).1
  now := step.time
  closed := s.closed ++ (act config step.time s.worker step.event).2
  delivered := s.delivered ++
    match step.event with
    | .buffer (some results) => results.map (step.time, ·)
    | _ => []

/-- What can happen in a phase.  A frame comes out once, of those that are in, and with its
metadata. -/
def Possible (time : Nat) (w : Worker φ) : WorkerEvent φ → Phase → Prop
  | .buffer (some results), _ =>
      (results.map (·.ptsToken)).Nodup ∧
        ∀ result ∈ results, result.ptsToken ∈ w.pipeline.inFlight
  | .accept _, .accepting => True
  | .frame _ _, .reading _ => True
  | .wake _, .waiting _ _ => w.pipeline.framesReady w.completedTotal = true
  | .timeout, .waiting _ deadline =>
      w.pipeline.framesReady w.completedTotal = false ∧ deadline ≤ time
  | _, _ => False

def enabled (s : WorkerState φ) (step : WorkerStep φ) : Prop :=
  s.now ≤ step.time ∧ Possible step.time s.worker step.event s.worker.phase

instance (time : Nat) (w : Worker φ) :
    ∀ (event : WorkerEvent φ) (phase : Phase), Decidable (Possible time w event phase)
  | .buffer (some _), .accepting | .buffer (some _), .reading _ | .buffer (some _), .waiting _ _ =>
      inferInstanceAs (Decidable (_ ∧ ∀ _ ∈ _, _))
  | .accept _, .accepting | .frame _ _, .reading _ => isTrue trivial
  | .wake _, .waiting _ _ => inferInstanceAs (Decidable (_ = true))
  | .timeout, .waiting _ _ => inferInstanceAs (Decidable (_ = false ∧ _))
  | .buffer none, .accepting | .buffer none, .reading _ | .buffer none, .waiting _ _
  | .accept _, .reading _ | .accept _, .waiting _ _ | .frame _ _, .accepting
  | .frame _ _, .waiting _ _ | .wake _, .accepting | .wake _, .reading _ | .timeout, .accepting
  | .timeout, .reading _ => isFalse not_false

instance (s : WorkerState φ) (step : WorkerStep φ) : Decidable (s.enabled step) :=
  inferInstanceAs (Decidable (_ ∧ _))

end WorkerState

def batchWorker {φ : Type} (config : WorkerConfig φ) : Machine (WorkerState φ) (WorkerStep φ) where
  init s := s = {}
  enabled := WorkerState.enabled
  next := WorkerState.next config

instance {φ : Type} (config : WorkerConfig φ) (s : WorkerState φ) (step : WorkerStep φ) :
    Decidable ((batchWorker config).enabled s step) :=
  inferInstanceAs (Decidable (s.enabled step))

namespace Closed

variable {φ : Type} (config : WorkerConfig φ) (delivered : List (Nat × ImageDetectionResult φ))

/-- All the frames of the batch were valid, went into the pipeline and can be decoded. -/
def Sound (c : Closed φ) : Prop :=
  c.deadline.isSome = true ∧
    ∀ request ∈ c.batch.requests, config.decodable request.2.encodedJpeg = true

/-- All the frames of the batch came out before the timeout. -/
def InTime (c : Closed φ) : Prop :=
  ∀ deadline ∈ c.deadline, ∀ request ∈ c.batch.requests, ∃ entry ∈ delivered,
    entry.2.ptsToken = request.1 ∧ entry.1 < deadline

/-- There is one response to each request, with the identifier of the request and the faces in
its frame. -/
def Answered (c : Closed φ) : Prop :=
  List.Forall₂ (fun request response => ∃ entry ∈ delivered, entry.2.ptsToken = request.1 ∧
    response = Worker.respond request.2.requestId entry.2) c.batch.requests c.responses

instance (c : Closed φ) : Decidable (c.Sound config) :=
  inferInstanceAs (Decidable (_ = true ∧ ∀ _ ∈ _, _ = true))

instance (c : Closed φ) : Decidable (c.InTime delivered) :=
  inferInstanceAs (Decidable (∀ _ ∈ c.deadline, ∀ _ ∈ _, ∃ _ ∈ _, _ ∧ _))

end Closed

namespace WorkerState

variable {φ : Type} (config : WorkerConfig φ)

/-- A sound batch that comes out in time is answered, if its client stays. -/
def KeepsApart (s : WorkerState φ) : Prop :=
  ∀ c ∈ s.closed, c.Sound config → c.InTime s.delivered → c.hungUp = false →
    c.Answered s.delivered

/-- The order that keeps the counts true. -/
def OrderlyIn (w : Worker φ) : WorkerEvent φ → Phase → Prop
  | .frame none _, .reading batch =>
      ∀ request ∈ batch.requests, config.decodable request.2.encodedJpeg = false
  | .frame (some received) flowOk, .reading batch =>
      if received.encodedJpeg = [] ∨ flowOk = false then
        ∀ request ∈ batch.requests, config.decodable request.2.encodedJpeg = false
      else batch.count ≤ batch.requests.length + 1 →
        config.decodable received.encodedJpeg = true ∧
          ∀ request ∈ batch.requests, config.decodable request.2.encodedJpeg = true
  | .wake _, .waiting batch _ =>
      ∀ response ∈ Worker.responses batch.requests w.pipeline.results,
        config.fits response = true
  | .timeout, .waiting batch _ => ∃ request ∈ batch.requests, request.1 ∈ w.pipeline.inFlight
  | _, _ => True

/-- No batch is given up that has a frame in the pipeline, none is counted with a frame that
cannot be decoded, none times out for the frames of others only, and no response is too large. -/
def Orderly (s : WorkerState φ) (step : WorkerStep φ) : Prop :=
  OrderlyIn config s.worker step.event s.worker.phase

instance (w : Worker φ) :
    ∀ (event : WorkerEvent φ) (phase : Phase), Decidable (OrderlyIn config w event phase)
  | .frame none _, .reading _ => inferInstanceAs (Decidable (∀ _ ∈ _, _ = false))
  | .frame (some received) flowOk, .reading batch =>
      inferInstanceAs (Decidable (if received.encodedJpeg = [] ∨ flowOk = false then
        ∀ request ∈ batch.requests, config.decodable request.2.encodedJpeg = false
      else batch.count ≤ batch.requests.length + 1 →
        config.decodable received.encodedJpeg = true ∧
          ∀ request ∈ batch.requests, config.decodable request.2.encodedJpeg = true))
  | .wake _, .waiting _ _ => inferInstanceAs (Decidable (∀ _ ∈ _, _ = true))
  | .timeout, .waiting _ _ => inferInstanceAs (Decidable (∃ _ ∈ _, _ ∈ _))
  | .buffer _, .accepting | .buffer _, .reading _ | .buffer _, .waiting _ _
  | .accept _, .accepting | .accept _, .reading _ | .accept _, .waiting _ _
  | .frame none _, .accepting | .frame none _, .waiting _ _ | .frame (some _) _, .accepting
  | .frame (some _) _, .waiting _ _ | .wake _, .accepting | .wake _, .reading _
  | .timeout, .accepting | .timeout, .reading _ => isTrue trivial

instance (s : WorkerState φ) (step : WorkerStep φ) : Decidable (s.Orderly config step) :=
  inferInstanceAs (Decidable (OrderlyIn config s.worker step.event s.worker.phase))

end WorkerState

/-! ## Where the frames are -/

/-- The batch of the connection. -/
def Phase.batch? : Phase → Option Batch
  | .accepting => none
  | .reading batch => some batch
  | .waiting batch _ => some batch

namespace Worker

variable {φ : Type} {config : WorkerConfig φ} {delivered : List (Nat × ImageDetectionResult φ)}
  {w : Worker φ}

/-- Every frame that goes in has a new token, and is inside or among the results until they are
taken. -/
structure Tracked (config : WorkerConfig φ) (delivered : List (Nat × ImageDetectionResult φ))
    (w : Worker φ) : Prop where
  inFlight_nodup : w.pipeline.inFlight.Nodup
  inFlight_lt : ∀ token ∈ w.pipeline.inFlight, token < w.nextToken
  delivered_lt : ∀ entry ∈ delivered, entry.2.ptsToken < w.nextToken
  delivered_out : ∀ entry ∈ delivered, entry.2.ptsToken ∉ w.pipeline.inFlight
  results_delivered : ∀ result ∈ w.pipeline.results, ∃ entry ∈ delivered, entry.2 = result
  results_nodup : (w.pipeline.results.map (·.ptsToken)).Nodup
  rising : ∀ batch ∈ w.phase.batch?, batch.requests.Pairwise (·.1 < ·.1)
  requests_lt : ∀ batch ∈ w.phase.batch?, ∀ request ∈ batch.requests, request.1 < w.nextToken
  inside : ∀ batch ∈ w.phase.batch?, ∀ request ∈ batch.requests,
    config.decodable request.2.encodedJpeg = true → request.1 ∈ w.pipeline.inFlight ∨
      ∃ result ∈ w.pipeline.results, result.ptsToken = request.1

theorem Tracked.start : Tracked config [] ({} : Worker φ) := by
  refine ⟨List.nodup_nil, ?_, ?_, ?_, ?_, List.nodup_nil, ?_, ?_, ?_⟩
  · rintro token ⟨⟩
  · rintro entry ⟨⟩
  · rintro entry ⟨⟩
  · rintro result ⟨⟩
  · rintro batch ⟨⟩
  · rintro batch ⟨⟩
  · rintro batch ⟨⟩

/-- A connection that ends, or begins, has no batch. -/
theorem Tracked.setPhase (h : Tracked config delivered w) {phase : Phase}
    (hempty : ∀ batch ∈ phase.batch?, batch.requests = []) :
    Tracked config delivered { w with phase := phase } := by
  refine ⟨h.inFlight_nodup, h.inFlight_lt, h.delivered_lt, h.delivered_out, h.results_delivered,
    h.results_nodup, ?_, ?_, ?_⟩
  · intro batch hbatch
    rw [hempty batch hbatch]
    exact List.Pairwise.nil
  · intro batch hbatch request hrequest
    rw [hempty batch hbatch] at hrequest
    cases hrequest
  · intro batch hbatch request hrequest
    rw [hempty batch hbatch] at hrequest
    cases hrequest

/-- A frame that is lost may have used up its token. -/
theorem Tracked.giveUp (h : Tracked config delivered w) {token : Nat} (hle : w.nextToken ≤ token) :
    Tracked config delivered { w with nextToken := token, phase := .accepting } := by
  have hclosed : Tracked config delivered { w with phase := .accepting } :=
    h.setPhase (by rintro batch ⟨⟩)
  refine ⟨hclosed.inFlight_nodup, ?_, ?_, hclosed.delivered_out, hclosed.results_delivered,
    hclosed.results_nodup, hclosed.rising, ?_, hclosed.inside⟩
  · exact fun token htoken => Nat.lt_of_lt_of_le (h.inFlight_lt token htoken) hle
  · exact fun entry hentry => Nat.lt_of_lt_of_le (h.delivered_lt entry hentry) hle
  · rintro batch ⟨⟩

/-- What `take_results` takes is of no batch any more. -/
theorem Tracked.takeResults (h : Tracked config delivered w) :
    Tracked config delivered
      { w with pipeline := w.pipeline.takeResults.2, phase := .accepting } := by
  refine ⟨h.inFlight_nodup, h.inFlight_lt, h.delivered_lt, h.delivered_out, ?_, List.nodup_nil,
    ?_, ?_, ?_⟩
  · rintro result ⟨⟩
  · rintro batch ⟨⟩
  · rintro batch ⟨⟩
  · rintro batch ⟨⟩

/-- The number that is out and the number that is in, after a buffer. -/
theorem length_onBuffer {p : JpegPipeline φ} {results : List (ImageDetectionResult φ)}
    (hin : p.inFlight.Nodup) (hnodup : (results.map (·.ptsToken)).Nodup)
    (hall : ∀ result ∈ results, result.ptsToken ∈ p.inFlight) :
    (p.onBuffer (some results)).frameCount + (p.onBuffer (some results)).inFlight.length =
      p.frameCount + p.inFlight.length := by
  have hperm : (p.inFlight.filter fun token => token ∈ results.map (·.ptsToken)).Perm
      (results.map (·.ptsToken)) := by
    apply (List.perm_ext_iff_of_nodup (hin.filter _) hnodup).mpr
    intro token
    rw [List.mem_filter, decide_eq_true_eq, and_iff_right_iff_imp]
    intro htoken
    obtain ⟨result, hresult, rfl⟩ := List.mem_map.mp htoken
    exact hall result hresult
  have hlength : results.length + (p.inFlight.filter fun token =>
      token ∉ results.map (·.ptsToken)).length = p.inFlight.length := by
    have hsplit := List.length_eq_length_filter_add (l := p.inFlight)
      fun token => decide (token ∈ results.map (·.ptsToken))
    rw [hperm.length_eq, List.length_map] at hsplit
    rw [hsplit]
    simp only [decide_not]
  show p.frameCount + results.length + _ = _
  rw [Nat.add_assoc]
  exact congrArg (p.frameCount + ·) hlength

theorem Tracked.onBuffer (h : Tracked config delivered w)
    {results : List (ImageDetectionResult φ)} (hnodup : (results.map (·.ptsToken)).Nodup)
    (hall : ∀ result ∈ results, result.ptsToken ∈ w.pipeline.inFlight) (time : Nat) :
    Tracked config (delivered ++ results.map (time, ·))
      { w with pipeline := w.pipeline.onBuffer (some results) } := by
  have hentry : ∀ entry ∈ delivered ++ results.map (time, ·),
      entry ∈ delivered ∨ entry.2 ∈ results := by
    intro entry hentry
    rcases List.mem_append.mp hentry with hold | hnew
    · exact .inl hold
    · obtain ⟨result, hresult, rfl⟩ := List.mem_map.mp hnew
      exact .inr hresult
  refine ⟨h.inFlight_nodup.filter _, ?_, ?_, ?_, ?_, ?_, h.rising, h.requests_lt, ?_⟩
  · exact fun token htoken => h.inFlight_lt token (List.mem_of_mem_filter htoken)
  · intro entry he
    rcases hentry entry he with hold | hnew
    · exact h.delivered_lt entry hold
    · exact h.inFlight_lt _ (hall _ hnew)
  · intro entry he hin
    rcases hentry entry he with hold | hnew
    · exact h.delivered_out entry hold (List.mem_of_mem_filter hin)
    · have hout := List.of_mem_filter hin
      rw [decide_eq_true_eq] at hout
      exact hout (List.mem_map_of_mem hnew)
  · intro result hresult
    rcases List.mem_append.mp hresult with hold | hnew
    · obtain ⟨entry, he, rfl⟩ := h.results_delivered result hold
      exact ⟨entry, List.mem_append_left _ he, rfl⟩
    · exact ⟨(time, result), List.mem_append_right _ (List.mem_map_of_mem hnew), rfl⟩
  · show ((w.pipeline.results ++ results).map (·.ptsToken)).Nodup
    rw [List.map_append, List.nodup_append]
    refine ⟨h.results_nodup, hnodup, ?_⟩
    -- what is out already is not inside
    rintro token hold _ hnew rfl
    obtain ⟨result, hresult, rfl⟩ := List.mem_map.mp hold
    obtain ⟨entry, he, rfl⟩ := h.results_delivered result hresult
    obtain ⟨other, hother, heq⟩ := List.mem_map.mp hnew
    apply h.delivered_out entry he
    rw [← heq]
    exact hall other hother
  · intro batch hbatch request hrequest hdecodable
    rcases h.inside batch hbatch request hrequest hdecodable with hin | ⟨result, hresult, heq⟩
    · by_cases hout : request.1 ∈ results.map (·.ptsToken)
      · obtain ⟨result, hresult, heq⟩ := List.mem_map.mp hout
        exact .inr ⟨result, List.mem_append_right _ hresult, heq⟩
      · exact .inl (List.mem_filter.mpr ⟨hin, decide_eq_true hout⟩)
    · exact .inr ⟨result, List.mem_append_left _ hresult, heq⟩

/-- A frame that is pushed: the batch has it from now on. -/
theorem Tracked.push (h : Tracked config delivered w) {batch : Batch}
    (hphase : w.phase.batch? = some batch) {request : ImageRequest} {pipeline : JpegPipeline φ}
    {flowOk : Bool}
    (hpush : w.pipeline.pushJpeg config request.encodedJpeg w.nextToken flowOk = .ok pipeline)
    {phase : Phase} {completedTotal : Nat}
    (hnext : phase.batch? =
      some { batch with requests := batch.requests ++ [(w.nextToken, request)] }) :
    Tracked config delivered ⟨pipeline, w.nextToken + 1, completedTotal, phase⟩ := by
  have hpipeline : pipeline = { w.pipeline with
      inFlight := if config.decodable request.encodedJpeg then w.pipeline.inFlight ++ [w.nextToken]
        else w.pipeline.inFlight } := by
    unfold JpegPipeline.pushJpeg at hpush
    split at hpush
    · cases hpush
    · split at hpush
      · cases hpush
      · exact (Except.ok.inj hpush).symm
  have hmem : ∀ token, token ∈ pipeline.inFlight →
      token ∈ w.pipeline.inFlight ∨ token = w.nextToken := by
    intro token htoken
    rw [hpipeline] at htoken
    dsimp only at htoken
    split at htoken
    · rcases List.mem_append.mp htoken with hold | hnew
      · exact .inl hold
      · exact .inr (List.mem_singleton.mp hnew)
    · exact .inl htoken
  have hkept : ∀ token ∈ w.pipeline.inFlight, token ∈ pipeline.inFlight := by
    intro token htoken
    rw [hpipeline]
    dsimp only
    split
    · exact List.mem_append_left _ htoken
    · exact htoken
  have hresults : pipeline.results = w.pipeline.results := by
    rw [hpipeline]
  refine ⟨?_, ?_, ?_, ?_, ?_, ?_, ?_, ?_, ?_⟩
  · show pipeline.inFlight.Nodup
    rw [hpipeline]
    dsimp only
    split
    · rw [List.nodup_append]
      refine ⟨h.inFlight_nodup, List.nodup_singleton _, ?_⟩
      rintro token hold _ hnew rfl
      rw [List.mem_singleton.mp hnew] at hold
      exact absurd (h.inFlight_lt _ hold) (Nat.lt_irrefl _)
    · exact h.inFlight_nodup
  · intro token htoken
    rcases hmem token htoken with hold | rfl
    · exact Nat.lt_succ_of_lt (h.inFlight_lt token hold)
    · exact Nat.lt_succ_self _
  · exact fun entry hentry => Nat.lt_succ_of_lt (h.delivered_lt entry hentry)
  · intro entry hentry hin
    rcases hmem _ hin with hold | heq
    · exact h.delivered_out entry hentry hold
    · exact absurd (h.delivered_lt entry hentry) (heq ▸ Nat.lt_irrefl _)
  · show ∀ result ∈ pipeline.results, _
    rw [hresults]
    exact h.results_delivered
  · show (pipeline.results.map _).Nodup
    rw [hresults]
    exact h.results_nodup
  · intro found hfound
    obtain rfl := Option.some.inj (hnext.symm.trans hfound)
    rw [List.pairwise_append]
    refine ⟨h.rising batch hphase, List.pairwise_singleton _ _, ?_⟩
    intro old hold new hnew
    rw [List.mem_singleton.mp hnew]
    exact h.requests_lt batch hphase old hold
  · intro found hfound old hold
    obtain rfl := Option.some.inj (hnext.symm.trans hfound)
    rcases List.mem_append.mp hold with hold | hnew
    · exact Nat.lt_succ_of_lt (h.requests_lt batch hphase old hold)
    · rw [List.mem_singleton.mp hnew]
      exact Nat.lt_succ_self _
  · intro found hfound old hold hdecodable
    obtain rfl := Option.some.inj (hnext.symm.trans hfound)
    show old.1 ∈ pipeline.inFlight ∨ ∃ result ∈ pipeline.results, _
    rcases List.mem_append.mp hold with hold | hnew
    · rw [hresults]
      exact (h.inside batch hphase old hold hdecodable).imp_left (hkept _)
    · rw [List.mem_singleton.mp hnew] at hdecodable ⊢
      rw [hpipeline]
      dsimp only at hdecodable ⊢
      rw [if_pos hdecodable]
      exact .inl (List.mem_append_right _ (List.mem_singleton.mpr rfl))

/-! ## What a connection does -/

theorem pushJpeg_eq_ok {p p' : JpegPipeline φ} {jpeg : List UInt8} {token : Nat} {flowOk : Bool}
    (h : p.pushJpeg config jpeg token flowOk = .ok p') :
    ¬ (jpeg = [] ∨ flowOk = false) ∧ p' = { p with
      inFlight := if config.decodable jpeg then p.inFlight ++ [token] else p.inFlight } := by
  unfold JpegPipeline.pushJpeg at h
  split at h
  · cases h
  · rename_i hjpeg
    split at h
    · cases h
    · rename_i hflow
      refine ⟨?_, (Except.ok.inj h).symm⟩
      rintro (hempty | hfailed)
      · exact hjpeg hempty
      · rw [hfailed] at hflow
        exact hflow rfl

theorem pushJpeg_eq_error {p : JpegPipeline φ} {jpeg : List UInt8} {token : Nat} {flowOk : Bool}
    {message : String} (h : p.pushJpeg config jpeg token flowOk = .error message) :
    jpeg = [] ∨ flowOk = false := by
  unfold JpegPipeline.pushJpeg at h
  split at h
  · rename_i hjpeg
    exact .inl hjpeg
  · split at h
    · rename_i hflow
      exact .inr (by simpa using hflow)
    · cases h

variable (config) in
/-- A frame gives up the batch, is one of several, or is the last one. -/
theorem frame_cases (time : Nat) (received : Option ImageRequest) (flowOk : Bool) (batch : Batch)
    (w : Worker φ) :
    ((∃ token given, w.nextToken ≤ token ∧ w.frame config time received flowOk batch =
          ({ w with nextToken := token, phase := .accepting }, [⟨given, none, [], false⟩])) ∧
        ∀ request ∈ received, request.encodedJpeg = [] ∨ flowOk = false) ∨
      ∃ request pipeline, received = some request ∧
        w.pipeline.pushJpeg config request.encodedJpeg w.nextToken flowOk = .ok pipeline ∧
        ((batch.requests.length + 1 < batch.count ∧ w.frame config time received flowOk batch =
            (⟨pipeline, w.nextToken + 1, w.completedTotal,
              .reading { batch with requests := batch.requests ++ [(w.nextToken, request)] }⟩,
              [])) ∨
          (batch.count ≤ batch.requests.length + 1 ∧ w.frame config time received flowOk batch =
            (⟨pipeline, w.nextToken + 1, w.completedTotal + batch.count,
              .waiting { batch with requests := batch.requests ++ [(w.nextToken, request)] }
                (time + 120000)⟩, []))) := by
  cases received with
  | none =>
      refine .inl ⟨⟨w.nextToken, batch, Nat.le_refl _, rfl⟩, ?_⟩
      rintro request ⟨⟩
  | some request =>
      cases hpush : w.pipeline.pushJpeg config request.encodedJpeg w.nextToken flowOk with
      | error message =>
          refine .inl ⟨⟨w.nextToken + 1,
            { batch with requests := batch.requests ++ [(w.nextToken, request)] },
            Nat.le_succ _, ?_⟩, ?_⟩
          · unfold frame
            dsimp only
            rw [hpush]
            rfl
          · rintro other ⟨⟩
            exact pushJpeg_eq_error hpush
      | ok pipeline =>
          refine .inr ⟨request, pipeline, rfl, hpush, ?_⟩
          unfold frame
          dsimp only
          rw [hpush]
          dsimp only
          rw [List.length_append, List.length_singleton]
          by_cases hlast : batch.requests.length + 1 < batch.count
          · exact .inl ⟨hlast, if_pos hlast⟩
          · exact .inr ⟨Nat.le_of_not_lt hlast, if_neg hlast⟩

theorem responses_eq (requests : List (Nat × ImageRequest))
    (results : List (ImageDetectionResult φ)) :
    responses requests results =
      (joinByKey (·.ptsToken) Prod.fst results requests).map fun p =>
        respond p.1.2.requestId p.2 := by
  unfold responses joinByKey
  rw [List.map_filterMap]
  apply List.filterMap_congr
  intro result _
  rw [Option.map_map]
  rfl

/-- When the pipeline is empty, a batch that can be decoded is answered in full. -/
theorem answered_of_empty (h : Tracked config delivered w) {batch : Batch}
    (hphase : w.phase.batch? = some batch) (hempty : w.pipeline.inFlight = [])
    (hdecodable : ∀ request ∈ batch.requests, config.decodable request.2.encodedJpeg = true) :
    List.Forall₂ (fun request response => ∃ entry ∈ delivered, entry.2.ptsToken = request.1 ∧
      response = respond request.2.requestId entry.2)
        batch.requests (responses batch.requests w.pipeline.results) := by
  have hall : ∀ request ∈ batch.requests, ∃ result ∈ w.pipeline.results,
      result.ptsToken = request.1 := by
    intro request hrequest
    rcases h.inside batch hphase request hrequest (hdecodable request hrequest) with hin | hout
    · rw [hempty] at hin
      cases hin
    · exact hout
  have hjoin : (joinByKey (fun result : ImageDetectionResult φ => result.ptsToken) Prod.fst
      w.pipeline.results batch.requests).map Prod.fst = batch.requests :=
    map_fst_joinByKey (h.rising batch hphase) h.results_nodup hall
  rw [responses_eq]
  conv_lhs => rw [← hjoin]
  rw [List.forall₂_map_left_iff, List.forall₂_map_right_iff, List.forall₂_same]
  intro p hp
  obtain ⟨-, hresult, htoken⟩ := mem_joinByKey hp
  obtain ⟨entry, hentry, heq⟩ := h.results_delivered p.2 hresult
  refine ⟨entry, hentry, ?_, ?_⟩
  · rw [heq]
    exact htoken.symm
  · rw [heq]

theorem written_eq {writes : Option Nat} {rs : List (ImageResult φ)}
    (hstayed : writes.any (· < rs.length) = false) (hfits : ∀ r ∈ rs, config.fits r = true) :
    written config writes rs = rs := by
  have hencoded : rs.takeWhile config.fits = rs := List.takeWhile_eq_self_iff.mpr hfits
  unfold written
  cases writes with
  | none => exact hencoded
  | some n =>
      show (rs.takeWhile config.fits).take n = rs
      rw [hencoded]
      apply List.take_of_length_le
      simpa using hstayed

/-! ## The counts -/

/-- The frames of a batch that come out one day and are not counted yet. -/
def uncounted (config : WorkerConfig φ) : Phase → Nat
  | .reading batch =>
      batch.requests.countP fun request => config.decodable request.2.encodedJpeg
  | .accepting | .waiting _ _ => 0

/-- As many frames are out or inside as have been counted or are being read. -/
structure Balanced (config : WorkerConfig φ) (w : Worker φ) : Prop where
  frames : w.pipeline.frameCount + w.pipeline.inFlight.length =
    w.completedTotal + uncounted config w.phase
  short : ∀ batch, w.phase = .reading batch → batch.requests.length < batch.count
  sound : ∀ batch deadline, w.phase = .waiting batch deadline →
    ∀ request ∈ batch.requests, config.decodable request.2.encodedJpeg = true

/-- While there is nothing of the batch inside. -/
theorem Balanced.accepting (h : Balanced config w) (hnone : uncounted config w.phase = 0)
    {token : Nat} : Balanced config { w with nextToken := token, phase := .accepting } := by
  refine ⟨?_, ?_, ?_⟩
  · rw [h.frames, hnone]
    rfl
  · rintro batch ⟨⟩
  · rintro batch deadline ⟨⟩

theorem length_pushJpeg {p p' : JpegPipeline φ} {jpeg : List UInt8} {token : Nat} {flowOk : Bool}
    (h : p.pushJpeg config jpeg token flowOk = .ok p') :
    p'.frameCount + p'.inFlight.length =
      p.frameCount + p.inFlight.length + if config.decodable jpeg then 1 else 0 := by
  rw [(pushJpeg_eq_ok h).2]
  dsimp only
  split
  · rw [List.length_append, List.length_singleton, Nat.add_assoc]
  · rfl

theorem uncounted_push (batch : Batch) (token : Nat) (request : ImageRequest) :
    uncounted config (.reading { batch with requests := batch.requests ++ [(token, request)] }) =
      uncounted config (.reading batch) +
        if config.decodable request.encodedJpeg then 1 else 0 := by
  unfold uncounted
  dsimp only
  rw [List.countP_append, List.countP_singleton]

end Worker

namespace WorkerState

open Worker

variable {φ : Type} {config : WorkerConfig φ} {s : WorkerState φ} {step : WorkerStep φ}

theorem tracked_next (he : s.enabled step) (h : Tracked config s.delivered s.worker) :
    Tracked config (s.next config step).delivered (s.next config step).worker := by
  obtain ⟨time, event⟩ := step
  obtain ⟨-, he⟩ := he
  cases event with
  | buffer batchResults =>
      cases batchResults with
      | none => exact he.elim
      | some results => exact h.onBuffer he.1 he.2 time
  | accept count =>
      show Tracked config (s.delivered ++ []) (s.worker.accept config count).1
      rw [List.append_nil]
      have hclosed := h.giveUp (Nat.le_refl _)
      cases count with
      | none => exact hclosed
      | some count =>
          unfold accept
          dsimp only
          split
          · exact hclosed
          · apply h.setPhase
            rintro batch ⟨⟩
            rfl
  | frame received flowOk =>
      unfold next act
      dsimp only at he ⊢
      rw [List.append_nil]
      cases hphase : s.worker.phase with
      | reading batch =>
          dsimp only
          rcases frame_cases config time received flowOk batch s.worker with
            ⟨⟨token, given, hle, hframe⟩, -⟩ |
              ⟨request, pipeline, -, hpush, ⟨-, hframe⟩ | ⟨-, hframe⟩⟩
          · rw [hframe]
            exact h.giveUp hle
          · rw [hframe]
            apply h.push _ hpush rfl
            rw [hphase]
            rfl
          · rw [hframe]
            apply h.push _ hpush rfl
            rw [hphase]
            rfl
      | _ => exact h
  | wake writes =>
      unfold next act
      dsimp only at he ⊢
      rw [List.append_nil]
      split
      · exact h.takeResults
      · exact h
  | timeout =>
      unfold next act
      dsimp only at he ⊢
      rw [List.append_nil]
      split
      · exact h.giveUp (Nat.le_refl _)
      · exact h

theorem orderlyIn_frame {w : Worker φ} {received : ImageRequest} {flowOk : Bool} {batch : Batch} :
    OrderlyIn config w (.frame (some received) flowOk) (.reading batch) ↔
      if received.encodedJpeg = [] ∨ flowOk = false then
        ∀ request ∈ batch.requests, config.decodable request.2.encodedJpeg = false
      else batch.count ≤ batch.requests.length + 1 →
        config.decodable received.encodedJpeg = true ∧
          ∀ request ∈ batch.requests, config.decodable request.2.encodedJpeg = true :=
  Iff.rfl

/-- A step that is orderly keeps the counts. -/
theorem balanced_next (he : s.enabled step) (hkeep : s.Orderly config step)
    (htracked : Tracked config s.delivered s.worker) (h : Balanced config s.worker) :
    Balanced config (s.next config step).worker := by
  obtain ⟨time, event⟩ := step
  obtain ⟨-, he⟩ := he
  cases event with
  | buffer batchResults =>
      cases batchResults with
      | none => exact he.elim
      | some results =>
          refine ⟨?_, h.short, h.sound⟩
          exact (length_onBuffer htracked.inFlight_nodup he.1 he.2).trans h.frames
  | accept count =>
      show Balanced config (s.worker.accept config count).1
      cases hphase : s.worker.phase with
      | accepting =>
          have hclosed : Balanced config { s.worker with phase := .accepting } :=
            h.accepting (by rw [hphase]; rfl)
          cases count with
          | none => exact hclosed
          | some count =>
              unfold accept
              dsimp only
              split
              · exact hclosed
              · rename_i hvalid
                refine ⟨hclosed.frames, ?_, ?_⟩
                · rintro batch ⟨⟩
                  exact Nat.pos_of_ne_zero fun hzero => hvalid (.inl hzero)
                · rintro batch deadline ⟨⟩
      | _ =>
          dsimp only at he
          rw [hphase] at he
          exact he.elim
  | frame received flowOk =>
      unfold next act
      unfold Orderly at hkeep
      dsimp only at he hkeep ⊢
      cases hphase : s.worker.phase with
      | reading batch =>
          rw [hphase] at hkeep
          have hframes := h.frames
          rw [hphase] at hframes
          dsimp only
          rcases frame_cases config time received flowOk batch s.worker with
            ⟨⟨token, given, hle, hframe⟩, hlost⟩ |
              ⟨request, pipeline, rfl, hpush, ⟨hmore, hframe⟩ | ⟨hlast, hframe⟩⟩
          · rw [hframe]
            have hnone : ∀ request ∈ batch.requests,
                config.decodable request.2.encodedJpeg = false := by
              cases received with
              | none => exact hkeep
              | some request =>
                  rw [orderlyIn_frame, if_pos (hlost request rfl)] at hkeep
                  exact hkeep
            apply h.accepting
            rw [hphase]
            apply List.countP_eq_zero.mpr
            intro request hrequest
            rw [hnone request hrequest]
            exact Bool.false_ne_true
          · rw [hframe]
            refine ⟨?_, ?_, ?_⟩
            · rw [length_pushJpeg hpush, hframes, uncounted_push, Nat.add_assoc]
            · rintro found ⟨⟩
              rw [List.length_append, List.length_singleton]
              exact hmore
            · rintro found deadline ⟨⟩
          · rw [hframe]
            rw [orderlyIn_frame, if_neg (pushJpeg_eq_ok hpush).1] at hkeep
            obtain ⟨hnew, hold⟩ := hkeep hlast
            have hlength : batch.requests.length + 1 = batch.count :=
              Nat.le_antisymm (h.short batch hphase) hlast
            refine ⟨?_, ?_, ?_⟩
            · -- all of them are counted at once
              have hcount : uncounted config (.reading batch) = batch.requests.length :=
                List.countP_eq_length.mpr hold
              rw [length_pushJpeg hpush, hframes, hcount, if_pos hnew, Nat.add_assoc, hlength]
              rfl
            · rintro found ⟨⟩
            · rintro found deadline ⟨⟩ other hother
              rcases List.mem_append.mp hother with hmem | hmem
              · exact hold other hmem
              · rw [List.mem_singleton.mp hmem]
                exact hnew
      | _ => exact h
  | wake writes =>
      unfold next act
      dsimp only at he ⊢
      cases hphase : s.worker.phase with
      | waiting batch deadline =>
          have hclosed : Balanced config { s.worker with phase := .accepting } :=
            h.accepting (by rw [hphase]; rfl)
          refine ⟨hclosed.frames, ?_, ?_⟩
          · rintro found ⟨⟩
          · rintro found deadline ⟨⟩
      | _ => exact h
  | timeout =>
      unfold next act
      dsimp only at he ⊢
      cases hphase : s.worker.phase with
      | waiting batch deadline => exact h.accepting (by rw [hphase]; rfl)
      | _ => exact h

/-- A frame of the batch has not come out by the deadline, and will not have. -/
def Late (s : WorkerState φ) (c : Closed φ) : Prop :=
  ∃ deadline ∈ c.deadline, deadline ≤ s.now ∧ ∃ request ∈ c.batch.requests,
    ∀ entry ∈ s.delivered, entry.2.ptsToken = request.1 → deadline ≤ entry.1

/-- What the end of a connection leaves behind. -/
def Settled (config : WorkerConfig φ) (s : WorkerState φ) : Prop :=
  ∀ c ∈ s.closed, c.Sound config → c.hungUp = false → c.Answered s.delivered ∨ s.Late c

theorem keepsApart_of_settled (h : s.Settled config) : s.KeepsApart config := by
  intro c hc hsound hintime hstayed
  rcases h c hc hsound hstayed with hanswered | ⟨deadline, hdeadline, -, request, hrequest, hlate⟩
  · exact hanswered
  · obtain ⟨entry, hentry, htoken, hbefore⟩ := hintime deadline hdeadline request hrequest
    exact absurd (hlate entry hentry htoken) (Nat.not_le_of_lt hbefore)

theorem delivered_next (entry : Nat × ImageDetectionResult φ)
    (h : entry ∈ (s.next config step).delivered) : entry ∈ s.delivered ∨ entry.1 = step.time := by
  rcases List.mem_append.mp h with hold | hnew
  · exact .inl hold
  · right
    split at hnew
    · obtain ⟨result, -, rfl⟩ := List.mem_map.mp hnew
      rfl
    · cases hnew

/-- What is answered stays answered, and what is late stays late. -/
theorem settled_mono (he : s.enabled step) {c : Closed φ}
    (h : c.Answered s.delivered ∨ s.Late c) :
    c.Answered (s.next config step).delivered ∨ (s.next config step).Late c := by
  rcases h with hanswered | ⟨deadline, hdeadline, hpassed, request, hrequest, hlate⟩
  · left
    apply hanswered.imp
    rintro request response ⟨entry, hentry, hresponse⟩
    exact ⟨entry, List.mem_append_left _ hentry, hresponse⟩
  · have hnow : deadline ≤ step.time := Nat.le_trans hpassed he.1
    refine .inr ⟨deadline, hdeadline, hnow, request, hrequest, ?_⟩
    intro entry hentry htoken
    rcases delivered_next entry hentry with hold | hnew
    · exact hlate entry hold htoken
    · rw [hnew]
      exact hnow

/-- The connection that a step closes. -/
theorem settled_closed (he : s.enabled step) (hkeep : s.Orderly config step)
    (htracked : Tracked config s.delivered s.worker) (hbalanced : Balanced config s.worker)
    {c : Closed φ} (hc : c ∈ (act config step.time s.worker step.event).2)
    (hsound : c.Sound config) (hstayed : c.hungUp = false) :
    c.Answered s.delivered ∨ ∃ deadline ∈ c.deadline, deadline ≤ step.time ∧
      ∃ request ∈ c.batch.requests, ∀ entry ∈ s.delivered, entry.2.ptsToken ≠ request.1 := by
  obtain ⟨time, event⟩ := step
  obtain ⟨-, he⟩ := he
  obtain ⟨hwaited, hdecodable⟩ := hsound
  cases event with
  | buffer batchResults => cases hc
  | accept count =>
      dsimp only [act] at hc
      cases count with
      | none =>
          rw [List.mem_singleton.mp hc] at hwaited
          cases hwaited
      | some count =>
          unfold accept at hc
          dsimp only at hc
          split at hc
          · rw [List.mem_singleton.mp hc] at hwaited
            cases hwaited
          · cases hc
  | frame received flowOk =>
      dsimp only [act] at hc
      split at hc
      · rename_i batch hphase
        rcases frame_cases config time received flowOk batch s.worker with
          ⟨⟨token, given, -, hframe⟩, -⟩ | ⟨request, pipeline, -, -, ⟨-, hframe⟩ | ⟨-, hframe⟩⟩
        · rw [hframe] at hc
          rw [List.mem_singleton.mp hc] at hwaited
          cases hwaited
        · rw [hframe] at hc
          cases hc
        · rw [hframe] at hc
          cases hc
      · cases hc
  | wake writes =>
      dsimp only [act] at hc
      dsimp only at he
      unfold Orderly at hkeep
      dsimp only at hkeep
      split at hc
      · rename_i batch deadline hphase
        rw [hphase] at he hkeep
        have hc' := List.mem_singleton.mp hc
        -- as many frames are out as have been counted, so nothing is inside
        have hempty : s.worker.pipeline.inFlight = [] := by
          have hframes := hbalanced.frames
          rw [hphase] at hframes
          have hready : s.worker.completedTotal ≤ s.worker.pipeline.frameCount :=
            of_decide_eq_true he
          apply List.eq_nil_of_length_eq_zero
          have hnone : uncounted config (.waiting batch deadline) = 0 := rfl
          omega
        left
        rw [hc'] at hstayed ⊢
        unfold Closed.Answered
        dsimp only at hstayed ⊢
        rw [written_eq hstayed hkeep]
        apply answered_of_empty htracked _ hempty (hbalanced.sound batch deadline hphase)
        rw [hphase]
        rfl
      · cases hc
  | timeout =>
      dsimp only [act] at hc
      dsimp only at he
      unfold Orderly at hkeep
      dsimp only at hkeep
      split at hc
      · rename_i batch deadline hphase
        rw [hphase] at he hkeep
        rw [List.mem_singleton.mp hc]
        obtain ⟨request, hrequest, hin⟩ := hkeep
        refine .inr ⟨deadline, rfl, he.2, request, hrequest, ?_⟩
        intro entry hentry heq
        exact htracked.delivered_out entry hentry (heq ▸ hin)
      · cases hc

theorem settled_next (he : s.enabled step) (hkeep : s.Orderly config step)
    (htracked : Tracked config s.delivered s.worker) (hbalanced : Balanced config s.worker)
    (h : s.Settled config) : (s.next config step).Settled config := by
  intro c hc hsound hstayed
  rcases List.mem_append.mp hc with hold | hnew
  · exact settled_mono he (h c hold hsound hstayed)
  · rcases settled_closed he hkeep htracked hbalanced hnew hsound hstayed with
      hanswered | ⟨deadline, hdeadline, hpassed, request, hrequest, hnone⟩
    · exact settled_mono he (.inl hanswered)
    · refine .inr ⟨deadline, hdeadline, hpassed, request, hrequest, ?_⟩
      intro entry hentry htoken
      rcases delivered_next entry hentry with hold | hnew
      · exact absurd htoken (hnone entry hold)
      · rw [hnew]
        exact hpassed

end WorkerState

/-- In a run whose steps are all orderly, every batch is kept apart from the others. -/
theorem keepsApart_of_orderly {φ : Type} {config : WorkerConfig φ} {steps : List (WorkerStep φ)}
    (hv : (batchWorker config).Valid {} steps)
    (horderly : (batchWorker config).Meets (WorkerState.Orderly config) {} steps) :
    (batchWorker config).Always (WorkerState.KeepsApart config) {} steps := by
  have hinv : (batchWorker config).PreservedUnder (WorkerState.Orderly config) fun s =>
      Worker.Tracked config s.delivered s.worker ∧ Worker.Balanced config s.worker ∧
        s.Settled config := by
    rintro s step he hkeep ⟨htracked, hbalanced, hsettled⟩
    exact ⟨WorkerState.tracked_next he htracked,
      WorkerState.balanced_next he hkeep htracked hbalanced,
      WorkerState.settled_next he hkeep htracked hbalanced hsettled⟩
  apply Machine.Always.imp (hinv.always hv horderly _)
  · exact fun s h => WorkerState.keepsApart_of_settled h.2.2
  · refine ⟨.start, ⟨rfl, ?_, ?_⟩, ?_⟩
    · rintro batch ⟨⟩
    · rintro batch deadline ⟨⟩
    · rintro c ⟨⟩

/-! ### A batch behind others -/

/-- Two slots, and a decoder that takes every image that has more than its first marker. -/
def twoSlots : WorkerConfig Unit := ⟨2, fun jpeg => decide (2 < jpeg.length), fun _ => true⟩

def image (requestId : UInt8) : ImageRequest := ⟨[requestId], [0xff, 0xd8, 0xff]⟩

/-- After a connection that breaks off and one whose first frame is malformed, a batch is answered,
although its frames come out in the other order. -/
theorem batch_after_malformed_answered :
    (batchWorker twoSlots).Always (WorkerState.KeepsApart twoSlots) {}
      [⟨0, .accept none⟩, ⟨1, .accept (some 2)⟩, ⟨2, .frame none true⟩, ⟨3, .accept (some 2)⟩,
        ⟨4, .frame (some (image 1)) true⟩, ⟨5, .frame (some (image 2)) true⟩,
        ⟨6, .buffer (some [⟨2, [()]⟩])⟩, ⟨7, .buffer (some [⟨1, []⟩])⟩, ⟨8, .wake none⟩] :=
  keepsApart_of_orderly (by decide) (by decide)

/-- The second frame of a batch is malformed, so its first one is never counted.  The next batch
does not wait for its own frame, which comes out a little later, and is not answered. -/
def brokenBatch : List (WorkerStep Unit) :=
  [⟨0, .accept (some 2)⟩, ⟨1, .frame (some (image 1)) true⟩, ⟨2, .frame none true⟩,
    ⟨3, .buffer (some [⟨1, []⟩])⟩, ⟨4, .accept (some 1)⟩, ⟨5, .frame (some (image 2)) true⟩,
    ⟨6, .wake none⟩, ⟨7, .buffer (some [⟨2, []⟩])⟩]

theorem batch_after_broken_unanswered :
    (batchWorker twoSlots).Valid {} brokenBatch ∧
      ¬ ((batchWorker twoSlots).run {} brokenBatch).KeepsApart twoSlots := by
  refine ⟨by decide, ?_⟩
  intro h
  have hbatch : ∃ c ∈ ((batchWorker twoSlots).run {} brokenBatch).closed, c.Sound twoSlots ∧
      c.InTime ((batchWorker twoSlots).run {} brokenBatch).delivered ∧ c.hungUp = false ∧
      c.batch.requests.length ≠ c.responses.length := by
    decide
  obtain ⟨c, hc, hsound, hintime, hstayed, hlength⟩ := hbatch
  have hanswered := h c hc hsound hintime hstayed
  exact hlength hanswered.length_eq

end Mvision.Images
