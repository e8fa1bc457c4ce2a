import Mvision.Library.ByteStreams
import Mvision.Library.Machine
import Mvision.Protocols.UntrustedInput
import Mvision.Video.EventRoundTrip

/-!
# A video job across two processes

`video_worker_main.cpp` writes its events into a pipe, in as many writes as it takes, and exits
with a code.  `NativeVideoRunner` reads the events in one task, and in another one asks again and
again whether the job is cancelled or late.  The worker may die at any point.
-/

namespace Mvision.Video

open Mvision.Library Mvision.Library.Python

/-- Where the main thread of the worker is. -/
inductive WorkerPhase where
  /-- in `DeepStreamVideoPipeline::run`, before the main loop has ended -/
  | streaming
  /-- behind the main loop, with the events that are still to be written -/
  | finishing (events : List Events.Native.VideoEvent)
  /-- in the handler of an exception with this text -/
  | failing (message : String)
  /-- behind the handler -/
  | leaving
  | exited (code : Int)
deriving DecidableEq

def WorkerPhase.alive : WorkerPhase → Bool
  | .exited _ => false
  | _ => true

/-- How reading the events or the run fails. -/
inductive RunnerError where
  /-- `NativeVideoFailedError` -/
  | failed (errorCode message : String)
  /-- what the decoder, `on_event` or the cancellation check raises -/
  | raised (error : Error)
  /-- `IncompleteReadError` -/
  | incompleteRead
  /-- `NativeVideoCancelledError` -/
  | cancelled (message : String)
  /-- `NativeVideoTimeoutError` -/
  | timedOut
  /-- `RuntimeError` -/
  | runtime (message : String)
deriving DecidableEq

/-- What `run` raises after `_terminate`. -/
def RunnerError.afterTermination (expired : Bool) : RunnerError :=
  if expired then .timedOut else .cancelled "Video job cancellation requested"

/-- Where the task that runs `_read_events` is. -/
inductive ReaderPhase where
  | reading
  | done
  | raised (error : RunnerError)
  /-- cancelled by `run` -/
  | stopped
deriving DecidableEq

/-- Where `NativeVideoRunner.run` is. -/
inductive RunnerPhase where
  /-- before the test of the loop -/
  | waiting
  /-- `cancellation_requested()` is awaited -/
  | checking
  /-- in `_terminate`, of a run that has expired or is cancelled -/
  | terminating (expired : Bool)
  | returned (completed : Events.VideoCompleted)
  | failed (error : RunnerError)
deriving DecidableEq

structure VideoRun where
  main : WorkerPhase := .streaming
  /-- what `write_event` has still to write -/
  outbox : List UInt8 := []
  /-- `cancellation_requested` of the worker -/
  cancellation : Bool := false
  pipe : List UInt8 := []
  reader : ReaderPhase := .reading
  completed : Option Events.VideoCompleted := none
  runner : RunnerPhase := .waiting
  /-- history: the events that the worker has begun to write -/
  sent : List Events.Native.VideoEvent := []
  /-- history: the events that `on_event` has been called with -/
  delivered : List Events.VideoEvent := []

/-- How the main loop of the pipeline ends, or does not begin. -/
inductive LoopEnd where
  | cancelled
  /-- an exception of the construction or behind the loop -/
  | throws (message : String)
  | finished (decodedFrames processedFrames : UInt64) (tracks : List Events.Native.VideoTrackOutput)

inductive VideoStep where
  | progress (event : Events.Native.VideoProgress)
  | loopEnds (ending : LoopEnd)
  | send
  | exits
  | report
  | leaves
  /-- so many bytes go into the pipe -/
  | write (count : Nat)
  /-- SIGTERM or SIGINT, of the runner or of the operator -/
  | signal
  /-- the worker crashes, is killed, or cannot write any more -/
  | dies (code : Int)
  | read (callback : Option Error)
  | eof
  | poll
  | check (requested expired : Bool)
  | checkRaises (error : Error)
  | terminated
  | collect

/-- `VideoFailed{"VIDEO_PIPELINE_ERROR", error.what()}` -/
def pipelineFailed (message : String) : Events.Native.VideoEvent :=
  .failed ⟨utf8 "VIDEO_PIPELINE_ERROR", utf8 message⟩

/-- What `run` writes behind the main loop. -/
def finalEvents (decodedFrames processedFrames : UInt64)
    (tracks : List Events.Native.VideoTrackOutput) : List Events.Native.VideoEvent :=
  tracks.map .track ++ [.completed ⟨decodedFrames, processedFrames, UInt64.ofNat tracks.length⟩]

namespace VideoRun

/-! ## The worker -/

/-- `write_event` with a whole frame. -/
def begin (s : VideoRun) (event : Events.Native.VideoEvent) (frame : List UInt8) : VideoRun :=
  { s with outbox := frame, sent := s.sent ++ [event] }

def loopEnds (s : VideoRun) : LoopEnd → VideoRun
  | .cancelled => { s with main := .finishing [] }
  | .throws message => { s with main := .failing message }
  | .finished decodedFrames processedFrames tracks =>
      { s with main := .finishing (finalEvents decodedFrames processedFrames tracks) }

section Worker

variable (packing : FloatPacking)

/-- The callback of the pipeline with the next event; an event that is not encoded throws. -/
def send (s : VideoRun) : VideoRun :=
  match s.main with
  | .finishing (event :: events) =>
      match Events.Native.encodeVideoEvent packing event with
      | .ok frame => { s with main := .finishing events }.begin event frame
      | .error message => { s with main := .failing message }
  | _ => s

/-- The `catch` of `main`: a failure that is not encoded either is swallowed. -/
def report (s : VideoRun) : VideoRun :=
  match s.main with
  | .failing message =>
      match Events.Native.encodeVideoEvent packing (pipelineFailed message) with
      | .ok frame => { s with main := .leaving }.begin (pipelineFailed message) frame
      | .error _ => { s with main := .leaving }
  | _ => s

def progress (s : VideoRun) (event : Events.Native.VideoProgress) : VideoRun :=
  match Events.Native.encodeVideoEvent packing (.progress event) with
  | .ok frame => s.begin (.progress event) frame
  | .error _ => s

end Worker

def write (s : VideoRun) (count : Nat) : VideoRun :=
  { s with pipe := s.pipe ++ s.outbox.take count, outbox := s.outbox.drop count }

/-! ## The runner -/

/-- What `_read_events` does with an event. -/
def handle (s : VideoRun) (callback : Option Error) (event : Events.VideoEvent) : VideoRun :=
  match event with
  | .failed event => { s with reader := .raised (.failed event.errorCode event.message) }
  | .completed completed =>
      match callback with
      | some error =>
          { s with delivered := s.delivered ++ [event], reader := .raised (.raised error) }
      | none => { s with delivered := s.delivered ++ [event], completed := some completed }
  | _ =>
      match callback with
      | some error =>
          { s with delivered := s.delivered ++ [event], reader := .raised (.raised error) }
      | none => { s with delivered := s.delivered ++ [event] }

/-- One turn of the loop of `_read_events`. -/
def read (python : Interpreter) (s : VideoRun) (callback : Option Error) : VideoRun :=
  match cut Events.maxEventBytes s.pipe with
  | .more => s
  | .tooLarge => { s with reader := .raised (.raised ⟨.value, "FRAME_TOO_LARGE"⟩) }
  | .whole frame rest =>
      match Events.decodeVideoEvent python unpackb frame with
      | .error error => { s with pipe := rest, reader := .raised (.raised error) }
      | .ok event => { s with pipe := rest }.handle callback event

/-- The end of the pipe, between two frames or inside one. -/
def eof (s : VideoRun) : VideoRun :=
  if s.pipe = [] then { s with reader := .done }
  else if s.pipe.length < Events.headerSize then
    { s with reader := .raised (.raised ⟨.value, "TRUNCATED_FRAME"⟩) }
  else { s with reader := .raised .incompleteRead }

def check (s : VideoRun) (requested expired : Bool) : VideoRun :=
  if requested then { s with runner := .terminating false }
  else if expired then { s with runner := .terminating true }
  else { s with runner := .waiting }

def terminated (s : VideoRun) : VideoRun :=
  match s.runner with
  | .terminating expired =>
      { s with reader := .stopped, runner := .failed (.afterTermination expired) }
  | _ => s

/-- The code of the worker, and whether it has said that it completed. -/
def outcome (s : VideoRun) (code : Int) : RunnerPhase :=
  if code ≠ 0 then
    if code = 3 then .failed (.cancelled "Native video worker cancelled")
    else .failed (.runtime s!"Native video worker exited with code {code}")
  else
    match s.completed with
    | none => .failed (.runtime "Native video worker exited without a completed event")
    | some completed => .returned completed

/-- Behind the loop of `run`. -/
def collect (s : VideoRun) : VideoRun :=
  match s.reader, s.main with
  | .raised error, _ => { s with runner := .failed error }
  | .done, .exited code => { s with runner := s.outcome code }
  | _, _ => s

/-- The events task has ended. -/
def collectable (s : VideoRun) : Bool :=
  match s.reader, s.main with
  | .raised _, _ => true
  | .done, .exited _ => true
  | _, _ => false

end VideoRun

/-- An aligned face is an image of 112 times 112 pixels, so it has a size in 32 bits. -/
def Imaged (track : Events.Native.VideoTrackOutput) : Prop :=
  track.representativeJpeg.length < 4294967296

/-- Behind the main loop: a cancelled run writes nothing. -/
def VideoRun.mayEnd (s : VideoRun) : LoopEnd → Prop
  | .cancelled => s.cancellation = true
  | .throws _ => True
  | .finished _ _ tracks => s.cancellation = false ∧ ∀ track ∈ tracks, Imaged track

def videoRun (python : Interpreter) (packing : FloatPacking) : Machine VideoRun VideoStep where
  init s := s = {}
  enabled s
    | .progress event => s.main = .streaming ∧ s.outbox = [] ∧
        (Events.Native.encodeVideoEvent packing (.progress event)).isOk = true
    | .loopEnds ending => s.main = .streaming ∧ s.outbox = [] ∧ s.mayEnd ending
    | .send => (∃ event events, s.main = .finishing (event :: events)) ∧ s.outbox = []
    | .exits => s.main = .finishing [] ∧ s.outbox = []
    | .report => (∃ message, s.main = .failing message) ∧ s.outbox = []
    | .leaves => s.main = .leaving ∧ s.outbox = []
    | .write count => s.main.alive = true ∧ 0 < count ∧ count ≤ s.outbox.length
    | .signal => True
    | .dies code => s.main.alive = true ∧ code ≠ 0 ∧ code ≠ 3
    | .read _ => s.reader = .reading ∧ cut Events.maxEventBytes s.pipe ≠ .more
    | .eof => s.reader = .reading ∧ cut Events.maxEventBytes s.pipe = .more ∧
        s.main.alive = false
    | .poll => s.runner = .waiting ∧ s.reader = .reading
    | .check .. | .checkRaises _ => s.runner = .checking
    | .terminated => (∃ expired, s.runner = .terminating expired) ∧ s.main.alive = false
    | .collect => s.runner = .waiting ∧ s.collectable = true
  next s
    | .progress event => s.progress packing event
    | .loopEnds ending => s.loopEnds ending
    | .send => s.send packing
    | .exits => { s with main := .exited (if s.cancellation then 3 else 0) }
    | .report => s.report packing
    | .leaves => { s with main := .exited 1 }
    | .write count => s.write count
    | .signal => { s with cancellation := true }
    | .dies code => { s with main := .exited code }
    | .read callback => s.read python callback
    | .eof => s.eof
    | .poll => { s with runner := .checking }
    | .check requested expired => s.check requested expired
    | .checkRaises error => { s with runner := .failed (.raised error) }
    | .terminated => s.terminated
    | .collect => s.collect

/-- Behind the main loop, with an event to write. -/
instance (main : WorkerPhase) : Decidable (∃ event events, main = .finishing (event :: events)) :=
  match main with
  | .finishing (event :: events) => isTrue ⟨event, events, rfl⟩
  | .finishing [] | .streaming | .failing _ | .leaving | .exited _ =>
      isFalse (by rintro ⟨event, events, h⟩; cases h)

instance (main : WorkerPhase) : Decidable (∃ message, main = .failing message) :=
  match main with
  | .failing message => isTrue ⟨message, rfl⟩
  | .finishing _ | .streaming | .leaving | .exited _ =>
      isFalse (by rintro ⟨message, h⟩; cases h)

instance (runner : RunnerPhase) : Decidable (∃ expired, runner = .terminating expired) :=
  match runner with
  | .terminating expired => isTrue ⟨expired, rfl⟩
  | .waiting | .checking | .returned _ | .failed _ =>
      isFalse (by rintro ⟨expired, h⟩; cases h)

instance (s : VideoRun) : ∀ ending, Decidable (s.mayEnd ending)
  | .cancelled => inferInstanceAs (Decidable (_ = true))
  | .throws _ => isTrue trivial
  | .finished _ _ tracks =>
      inferInstanceAs (Decidable (_ = false ∧
        ∀ track ∈ tracks, track.representativeJpeg.length < 4294967296))

instance (python : Interpreter) (packing : FloatPacking) (s : VideoRun) :
    ∀ step, Decidable ((videoRun python packing).enabled s step)
  | .progress _ => inferInstanceAs (Decidable (_ ∧ _ ∧ _ = true))
  | .loopEnds ending => inferInstanceAs (Decidable (_ ∧ _ ∧ s.mayEnd ending))
  | .send => inferInstanceAs (Decidable ((∃ _ _, _) ∧ _))
  | .exits | .leaves => inferInstanceAs (Decidable (_ ∧ _))
  | .report => inferInstanceAs (Decidable ((∃ _, _) ∧ _))
  | .write _ | .dies _ => inferInstanceAs (Decidable (_ = true ∧ _ ∧ _))
  | .signal => isTrue trivial
  | .read _ => inferInstanceAs (Decidable (_ ∧ ¬ _))
  | .eof => inferInstanceAs (Decidable (_ ∧ _ ∧ _ = false))
  | .poll => inferInstanceAs (Decidable (_ ∧ _))
  | .check _ _ | .checkRaises _ => inferInstanceAs (Decidable (_ = _))
  | .terminated => inferInstanceAs (Decidable ((∃ _, _) ∧ _ = false))
  | .collect => inferInstanceAs (Decidable (_ ∧ _ = true))

/-! ## What the worker has sent -/

/-- The progress of a run that ends, its tracks, and that it has completed. -/
def Complete (sent : List Events.Native.VideoEvent) : Prop :=
  ∃ (progress : List Events.Native.VideoProgress) (decodedFrames processedFrames : UInt64)
    (tracks : List Events.Native.VideoTrackOutput),
    sent = progress.map .progress ++ finalEvents decodedFrames processedFrames tracks

/-- The event is read as it is sent. -/
def Faithful (event : Events.Native.VideoEvent) : Prop := event.ValidTexts ∧ event.Sized

theorem faithful_pipelineFailed (message : String) : Faithful (pipelineFailed message) := by
  refine ⟨⟨?_, ?_⟩, trivial⟩ <;> rw [ofUtf8_eq_some_iff.mpr rfl] <;> rfl

theorem faithful_finalEvents {decodedFrames processedFrames : UInt64}
    {tracks : List Events.Native.VideoTrackOutput} (h : ∀ track ∈ tracks, Imaged track) :
    ∀ event ∈ finalEvents decodedFrames processedFrames tracks, Faithful event := by
  rw [finalEvents, List.forall_mem_append, List.forall_mem_map, List.forall_mem_singleton]
  exact ⟨fun track htrack => ⟨trivial, h track htrack⟩, trivial, trivial⟩

section Wire

variable (packing : FloatPacking)

/-- The bytes of an event; an event without a frame is not written. -/
def frameOf (event : Events.Native.VideoEvent) : List UInt8 :=
  match Events.Native.encodeVideoEvent packing event with
  | .ok frame => frame
  | .error _ => []

def wire (events : List Events.Native.VideoEvent) : List UInt8 := events.flatMap (frameOf packing)

/-- The event has been encoded, and is read as it was sent. -/
def Written (event : Events.Native.VideoEvent) : Prop :=
  Faithful event ∧ Events.Native.encodeVideoEvent packing event = .ok (frameOf packing event)

end Wire

variable {python : Interpreter} {packing : FloatPacking} {event : Events.Native.VideoEvent}
  {events : List Events.Native.VideoEvent}

theorem frameOf_eq {frame : List UInt8}
    (h : Events.Native.encodeVideoEvent packing event = .ok frame) :
    frameOf packing event = frame := by
  unfold frameOf
  rw [h]

theorem written_of_ok {frame : List UInt8} (hfaithful : Faithful event)
    (h : Events.Native.encodeVideoEvent packing event = .ok frame) : Written packing event :=
  ⟨hfaithful, by rw [frameOf_eq h, h]⟩

theorem isFrame_of_packEvent {eventType : String} {fieldCount : Nat}
    {fields : List (String × Packed)} {frame : List UInt8}
    (h : Events.Native.packEvent eventType fieldCount fields = .ok frame) :
    IsFrame Events.maxEventBytes frame := by
  unfold Events.Native.packEvent Events.Native.framePayload at h
  split at h
  · cases h
  · rename_i hsize
    obtain rfl := Except.ok.inj h
    have hmost := not_lt.mp hsize
    exact ⟨_, hmost, lt_of_le_of_lt hmost (by decide), rfl⟩

/-- Every encoded event is one frame. -/
theorem isFrame_of_encode {frame : List UInt8}
    (h : Events.Native.encodeVideoEvent packing event = .ok frame) :
    IsFrame Events.maxEventBytes frame := by
  cases event with
  | progress event =>
      obtain ⟨_, -, h⟩ := bind_ok_iff.mp h
      split at h
      · cases h
      · exact isFrame_of_packEvent h
  | track event =>
      obtain ⟨_, -, h⟩ := bind_ok_iff.mp h
      obtain ⟨_, -, h⟩ := bind_ok_iff.mp h
      exact isFrame_of_packEvent h
  | completed event => exact isFrame_of_packEvent h
  | failed event => exact isFrame_of_packEvent h

theorem Written.isFrame (h : Written packing event) :
    IsFrame Events.maxEventBytes (frameOf packing event) := isFrame_of_encode h.2

/-- Python reads the frame of the event as the same event. -/
theorem Written.decode (h : Written packing event) :
    ∃ received, Events.decodeVideoEvent python unpackb (frameOf packing event) = .ok received ∧
      Events.Same event received :=
  Events.decode_encodeVideoEvent h.1.1 h.1.2 h.2

theorem ne_nil_of_isFrame {limit : Nat} {frame : List UInt8} (h : IsFrame limit frame) :
    frame ≠ [] := by
  obtain ⟨payload, -, -, rfl⟩ := h
  intro hnil
  have hheader : (toBigEndian 4 payload.length).length = 4 := length_toBigEndian 4 _
  rw [(List.append_eq_nil_iff.mp hnil).1] at hheader
  cases hheader

/-- Nothing is left on the wire exactly if no event is left. -/
theorem wire_eq_nil (h : ∀ event ∈ events, Written packing event) (hnil : wire packing events = []) :
    events = [] := by
  cases events with
  | nil => rfl
  | cons event events =>
      have hframe := (h event List.mem_cons_self).isFrame
      exact absurd (List.append_eq_nil_iff.mp hnil).1 (ne_nil_of_isFrame hframe)

namespace VideoRun

/-! ## One step -/

/-- What the worker has sent and has still to send, by where its main thread is. -/
def Sends (outbox : List UInt8) (cancellation : Bool) (sent : List Events.Native.VideoEvent) :
    WorkerPhase → Prop
  | .streaming => ∃ progress : List Events.Native.VideoProgress, sent = progress.map .progress
  | .finishing events => (∀ event ∈ events, Faithful event) ∧
      (Complete (sent ++ events) ∨ (events = [] ∧ cancellation = true))
  | .exited code => code = 0 → outbox = [] ∧ Complete sent
  | .failing _ | .leaving => True

theorem Sends.signal {outbox : List UInt8} {cancellation : Bool}
    {sent : List Events.Native.VideoEvent} {main : WorkerPhase}
    (h : Sends outbox cancellation sent main) : Sends outbox true sent main := by
  cases main with
  | finishing events => exact ⟨h.1, h.2.imp_right fun hnil => ⟨hnil.1, rfl⟩⟩
  | _ => exact h

theorem Sends.write {outbox : List UInt8} {cancellation : Bool}
    {sent : List Events.Native.VideoEvent} {main : WorkerPhase} (halive : main.alive = true)
    (h : Sends outbox cancellation sent main) (after : List UInt8) :
    Sends after cancellation sent main := by
  cases main with
  | exited code => cases halive
  | _ => exact h

/-- The worker has sent a failure with these texts. -/
def Reported (s : VideoRun) (errorCode message : String) : Prop :=
  ∃ event, .failed event ∈ s.sent ∧ Events.Same (.failed event) (.failed ⟨errorCode, message⟩)

/-- What every step keeps: the events that are delivered are the first ones that were sent, and
as long as the reader reads, the others are on the wire. -/
structure Piped (packing : FloatPacking) (s : VideoRun) : Prop where
  written : ∀ event ∈ s.sent, Written packing event
  sending : Sends s.outbox s.cancellation s.sent s.main
  stream : ∃ shown unseen, s.sent = shown ++ unseen ∧
    List.Forall₂ Events.Same shown s.delivered ∧
    (s.reader = .reading ∨ s.reader = .done → s.pipe ++ s.outbox = wire packing unseen)
  completed : ∀ completed, s.completed = some completed → .completed completed ∈ s.delivered
  done : s.reader = .done → s.pipe = [] ∧ s.main.alive = false
  failure : ∀ errorCode message, s.reader = .raised (.failed errorCode message) →
    s.Reported errorCode message
  returned : ∀ completed, s.runner = .returned completed →
    s.reader = .done ∧ s.main = .exited 0 ∧ s.completed = some completed
  failed : ∀ errorCode message, s.runner = .failed (.failed errorCode message) →
    s.Reported errorCode message

variable {s : VideoRun}

theorem Reported.append {errorCode message : String} (h : s.Reported errorCode message)
    (event : Events.Native.VideoEvent) (frame : List UInt8) :
    (s.begin event frame).Reported errorCode message := by
  obtain ⟨failure, hmem, hsame⟩ := h
  exact ⟨failure, List.mem_append_left _ hmem, hsame⟩

/-- A worker that lives goes on. -/
theorem Piped.main (h : s.Piped packing) (halive : s.main.alive = true) {main : WorkerPhase}
    (hsending : Sends s.outbox s.cancellation s.sent main) :
    Piped packing { s with main := main } where
  written := h.written
  sending := hsending
  stream := h.stream
  completed := h.completed
  done hdone := by
    rw [(h.done hdone).2] at halive
    cases halive
  failure := h.failure
  returned completed hreturned := by
    rw [(h.returned completed hreturned).2.1] at halive
    cases halive
  failed := h.failed

/-- A worker that has written everything begins to write the next event. -/
theorem Piped.begin (h : s.Piped packing) (halive : s.main.alive = true) (hout : s.outbox = [])
    (hfaithful : Faithful event) {frame : List UInt8}
    (hencode : Events.Native.encodeVideoEvent packing event = .ok frame) {main : WorkerPhase}
    (hsending : Sends frame s.cancellation (s.sent ++ [event]) main) :
    Piped packing ({ s with main := main }.begin event frame) where
  written := by
    refine List.forall_mem_append.mpr ⟨h.written, ?_⟩
    exact List.forall_mem_singleton.mpr (written_of_ok hfaithful hencode)
  sending := hsending
  stream := by
    obtain ⟨shown, unseen, hsent, hshown, hwire⟩ := h.stream
    refine ⟨shown, unseen ++ [event], ?_, hshown, ?_⟩
    · show s.sent ++ [event] = _
      rw [hsent, List.append_assoc]
    · intro hreader
      have hpipe := hwire hreader
      rw [hout, List.append_nil] at hpipe
      show s.pipe ++ frame = _
      rw [hpipe, wire, wire, List.flatMap_append, List.flatMap_singleton, frameOf_eq hencode]
  completed := h.completed
  done hdone := by
    rw [(h.done hdone).2] at halive
    cases halive
  failure errorCode message hreader := (h.failure errorCode message hreader).append event frame
  returned completed hreturned := by
    rw [(h.returned completed hreturned).2.1] at halive
    cases halive
  failed errorCode message hrunner := (h.failed errorCode message hrunner).append event frame

/-- The runner goes on, or gives up for a reason of its own. -/
theorem Piped.runner (h : s.Piped packing) {runner : RunnerPhase}
    (hreturned : ∀ completed, runner ≠ .returned completed)
    (hfailed : ∀ errorCode message, runner ≠ .failed (.failed errorCode message)) :
    Piped packing { s with runner := runner } where
  written := h.written
  sending := h.sending
  stream := h.stream
  completed := h.completed
  done := h.done
  failure := h.failure
  returned completed hrunner := absurd hrunner (hreturned completed)
  failed errorCode message hrunner := absurd hrunner (hfailed errorCode message)

/-! ### The worker -/

theorem Piped.progress (h : s.Piped packing) (hmain : s.main = .streaming) (hout : s.outbox = [])
    (event : Events.Native.VideoProgress) : Piped packing (s.progress packing event) := by
  have halive : s.main.alive = true := by rw [hmain]; rfl
  unfold VideoRun.progress
  cases hencode : Events.Native.encodeVideoEvent packing (.progress event) with
  | error message => exact h
  | ok frame =>
      have hfaithful : Faithful (.progress event) := ⟨trivial, trivial⟩
      have hsending := h.sending
      refine @Piped.begin _ _ _ h halive hout hfaithful _ hencode s.main ?_
      rw [hmain] at hsending ⊢
      obtain ⟨progress, hsent⟩ := hsending
      exact ⟨progress ++ [event], by rw [hsent, List.map_append]; rfl⟩

theorem Piped.loopEnds (h : s.Piped packing) (hmain : s.main = .streaming) {ending : LoopEnd}
    (hends : s.mayEnd ending) : Piped packing (s.loopEnds ending) := by
  have halive : s.main.alive = true := by rw [hmain]; rfl
  cases ending with
  | cancelled => exact h.main halive ⟨List.forall_mem_nil _, .inr ⟨rfl, hends⟩⟩
  | throws message => exact h.main halive trivial
  | finished decodedFrames processedFrames tracks =>
      have hsending := h.sending
      rw [hmain] at hsending
      obtain ⟨progress, hsent⟩ := hsending
      refine h.main halive ⟨faithful_finalEvents hends.2, .inl ?_⟩
      exact ⟨progress, decodedFrames, processedFrames, tracks, by rw [← hsent]⟩

theorem Piped.send (h : s.Piped packing)
    (hmain : s.main = .finishing (event :: events)) (hout : s.outbox = []) :
    Piped packing (s.send packing) := by
  have halive : s.main.alive = true := by rw [hmain]; rfl
  have hsending := h.sending
  rw [hmain] at hsending
  obtain ⟨hfaithful, hevents⟩ := hsending
  obtain ⟨hevent, hrest⟩ := List.forall_mem_cons.mp hfaithful
  unfold VideoRun.send
  rw [hmain]
  dsimp only
  cases hencode : Events.Native.encodeVideoEvent packing event with
  | error message => exact h.main halive trivial
  | ok frame =>
      refine h.begin halive hout hevent hencode ⟨hrest, ?_⟩
      rcases hevents with hcomplete | ⟨hnil, -⟩
      · exact .inl (by rwa [List.append_assoc])
      · cases hnil

theorem Piped.report (h : s.Piped packing) {message : String} (hmain : s.main = .failing message)
    (hout : s.outbox = []) : Piped packing (s.report packing) := by
  have halive : s.main.alive = true := by rw [hmain]; rfl
  unfold VideoRun.report
  rw [hmain]
  dsimp only
  cases hencode : Events.Native.encodeVideoEvent packing (pipelineFailed message) with
  | error _ => exact h.main halive trivial
  | ok frame => exact h.begin halive hout (faithful_pipelineFailed message) hencode trivial

/-- Only a run that was not cancelled ends with code 0, and it has written its last event. -/
theorem Piped.exits (h : s.Piped packing) (hmain : s.main = .finishing []) (hout : s.outbox = []) :
    Piped packing { s with main := .exited (if s.cancellation then 3 else 0) } := by
  have halive : s.main.alive = true := by rw [hmain]; rfl
  have hsending := h.sending
  rw [hmain] at hsending
  refine h.main halive fun hcode => ⟨hout, ?_⟩
  rcases hsending.2 with hcomplete | ⟨-, hcancelled⟩
  · rwa [List.append_nil] at hcomplete
  · rw [if_pos hcancelled] at hcode
    cases hcode

theorem Piped.write (h : s.Piped packing) (halive : s.main.alive = true) (count : Nat) :
    Piped packing (s.write count) where
  written := h.written
  sending := h.sending.write halive _
  stream := by
    obtain ⟨shown, unseen, hsent, hshown, hwire⟩ := h.stream
    refine ⟨shown, unseen, hsent, hshown, fun hreader => ?_⟩
    show s.pipe ++ s.outbox.take count ++ s.outbox.drop count = _
    rw [List.append_assoc, List.take_append_drop]
    exact hwire hreader
  completed := h.completed
  done hdone := by
    rw [(h.done hdone).2] at halive
    cases halive
  failure := h.failure
  returned completed hreturned := by
    rw [(h.returned completed hreturned).2.1] at halive
    cases halive
  failed := h.failed

theorem Piped.signal (h : s.Piped packing) : Piped packing { s with cancellation := true } where
  written := h.written
  sending := h.sending.signal
  stream := h.stream
  completed := h.completed
  done := h.done
  failure := h.failure
  returned := h.returned
  failed := h.failed

/-! ### The runner -/

/-- The reader hands on the next event. -/
theorem Piped.deliver (h : s.Piped packing) (hreading : s.reader = .reading)
    {received : Events.VideoEvent} {front : List UInt8} {reader : ReaderPhase}
    {completed : Option Events.VideoCompleted}
    (hstream : ∃ shown unseen, s.sent = shown ++ unseen ∧
      List.Forall₂ Events.Same shown (s.delivered ++ [received]) ∧
      front ++ s.outbox = wire packing unseen)
    (hreader : reader = .reading ∨ ∃ error, reader = .raised (.raised error))
    (hcompleted : ∀ c, completed = some c → s.completed = some c ∨ received = .completed c) :
    Piped packing { s with
      pipe := front
      delivered := s.delivered ++ [received]
      reader := reader
      completed := completed } where
  written := h.written
  sending := h.sending
  stream := by
    obtain ⟨shown, unseen, hsent, hshown, hwire⟩ := hstream
    exact ⟨shown, unseen, hsent, hshown, fun _ => hwire⟩
  completed c hc := by
    rcases hcompleted c hc with hbefore | rfl
    · exact List.mem_append_left _ (h.completed c hbefore)
    · exact List.mem_append_right _ (List.mem_singleton.mpr rfl)
  done hdone := by
    rcases hreader with rfl | ⟨error, rfl⟩ <;> cases hdone
  failure errorCode message hraised := by
    rcases hreader with rfl | ⟨error, rfl⟩ <;> cases hraised
  returned c hreturned := by
    have hdone := (h.returned c hreturned).1
    rw [hreading] at hdone
    cases hdone
  failed := h.failed

/-- The reader gives up. -/
theorem Piped.raise (h : s.Piped packing) (hreading : s.reader = .reading) {front : List UInt8}
    {error : RunnerError}
    (hfailed : ∀ errorCode message, error = .failed errorCode message →
      s.Reported errorCode message) :
    Piped packing { s with pipe := front, reader := .raised error } where
  written := h.written
  sending := h.sending
  stream := by
    obtain ⟨shown, unseen, hsent, hshown, -⟩ := h.stream
    refine ⟨shown, unseen, hsent, hshown, fun hreader => ?_⟩
    rcases hreader with hreader | hreader <;> cases hreader
  completed := h.completed
  done hdone := by cases hdone
  failure errorCode message hraised :=
    hfailed errorCode message (ReaderPhase.raised.inj hraised)
  returned c hreturned := by
    have hdone := (h.returned c hreturned).1
    rw [hreading] at hdone
    cases hdone
  failed := h.failed

/-- The event at the front of the wire is handed on, or ends the task. -/
theorem Piped.handle (h : s.Piped packing) (hreading : s.reader = .reading)
    {shown unseen : List Events.Native.VideoEvent} {front : List UInt8}
    {received : Events.VideoEvent} (hsent : s.sent = shown ++ event :: unseen)
    (hshown : List.Forall₂ Events.Same shown s.delivered) (hsame : Events.Same event received)
    (hwire : front ++ s.outbox = wire packing unseen) (callback : Option Error) :
    Piped packing ({ s with pipe := front }.handle callback received) := by
  have hstream : ∃ shown unseen, s.sent = shown ++ unseen ∧
      List.Forall₂ Events.Same shown (s.delivered ++ [received]) ∧
      front ++ s.outbox = wire packing unseen := by
    refine ⟨shown ++ [event], unseen, ?_, List.rel_append hshown ?_, hwire⟩
    · rw [hsent, List.append_assoc]
      rfl
    · exact .cons hsame .nil
  have hbefore : ∀ c, s.completed = some c → s.completed = some c ∨ received = .completed c :=
    fun c hc => .inl hc
  cases received with
  | failed failure =>
      refine h.raise hreading fun errorCode message herror => ?_
      obtain ⟨rfl, rfl⟩ := RunnerError.failed.inj herror
      cases event with
      | failed event => exact ⟨event, by simp [hsent], hsame⟩
      | _ => exact hsame.elim
  | completed completed =>
      cases callback with
      | none =>
          refine h.deliver hreading hstream (.inl hreading) fun c hc => .inr ?_
          rw [Option.some.inj hc]
      | some error => exact h.deliver hreading hstream (.inr ⟨error, rfl⟩) hbefore
  | _ =>
      cases callback with
      | none => exact h.deliver hreading hstream (.inl hreading) hbefore
      | some error => exact h.deliver hreading hstream (.inr ⟨error, rfl⟩) hbefore

theorem Piped.read (h : s.Piped packing) (hreading : s.reader = .reading)
    (hmore : cut Events.maxEventBytes s.pipe ≠ .more) (callback : Option Error) :
    Piped packing (s.read python callback) := by
  obtain ⟨shown, unseen, hsent, hshown, hwire⟩ := h.stream
  have hpipe := hwire (.inl hreading)
  cases unseen with
  | nil =>
      have hempty : s.pipe = [] := (List.append_eq_nil_iff.mp hpipe).1
      rw [hempty, cut_nil] at hmore
      exact absurd rfl hmore
  | cons event unseen =>
      have hwritten : Written packing event := h.written event (by simp [hsent])
      rcases cut_of_append_eq hwritten.isFrame hpipe with hcut | ⟨front, -, hrest, hcut⟩
      · exact absurd hcut hmore
      obtain ⟨received, hdecode, hsame⟩ := @Written.decode python _ _ hwritten
      unfold VideoRun.read
      rw [hcut]
      dsimp only
      rw [hdecode]
      exact h.handle hreading hsent hshown hsame hrest callback

theorem Piped.eof (h : s.Piped packing) (hreading : s.reader = .reading)
    (hexited : s.main.alive = false) : Piped packing s.eof := by
  unfold VideoRun.eof
  split
  · rename_i hempty
    exact {
      written := h.written
      sending := h.sending
      stream := by
        obtain ⟨shown, unseen, hsent, hshown, hwire⟩ := h.stream
        exact ⟨shown, unseen, hsent, hshown, fun _ => hwire (.inl hreading)⟩
      completed := h.completed
      done := fun _ => ⟨hempty, hexited⟩
      failure := fun _ _ hraised => by cases hraised
      returned := fun c hreturned => by
        have hdone := (h.returned c hreturned).1
        rw [hreading] at hdone
        cases hdone
      failed := h.failed }
  · split
    · exact @Piped.raise _ _ h hreading s.pipe _ (by intro _ _ herror; cases herror)
    · exact @Piped.raise _ _ h hreading s.pipe _ (by intro _ _ herror; cases herror)

theorem Piped.check (h : s.Piped packing) (requested expired : Bool) :
    Piped packing (s.check requested expired) := by
  unfold VideoRun.check
  split
  · exact h.runner (by intro _ hrunner; cases hrunner) (by intro _ _ hrunner; cases hrunner)
  · split
    · exact h.runner (by intro _ hrunner; cases hrunner) (by intro _ _ hrunner; cases hrunner)
    · exact h.runner (by intro _ hrunner; cases hrunner) (by intro _ _ hrunner; cases hrunner)

theorem Piped.terminated (h : s.Piped packing) : Piped packing s.terminated := by
  unfold VideoRun.terminated
  split
  · rename_i expired hterminating
    exact {
      written := h.written
      sending := h.sending
      stream := by
        obtain ⟨shown, unseen, hsent, hshown, -⟩ := h.stream
        refine ⟨shown, unseen, hsent, hshown, fun hreader => ?_⟩
        rcases hreader with hreader | hreader <;> cases hreader
      completed := h.completed
      done := fun hdone => by cases hdone
      failure := fun _ _ hraised => by cases hraised
      returned := fun _ hreturned => by cases hreturned
      failed := fun _ _ hfailed => by cases expired <;> cases hfailed }
  · exact h

/-- A run returns only what a worker with exit code 0 has said. -/
theorem Piped.collect (h : s.Piped packing) : Piped packing s.collect := by
  unfold VideoRun.collect
  split
  · rename_i error hraised
    exact {
      written := h.written
      sending := h.sending
      stream := h.stream
      completed := h.completed
      done := h.done
      failure := h.failure
      returned := fun _ hreturned => by cases hreturned
      failed := fun errorCode message hfailed => by
        obtain rfl := RunnerPhase.failed.inj hfailed
        exact h.failure errorCode message hraised }
  · rename_i code hdone hexited
    refine {
      written := h.written
      sending := h.sending
      stream := h.stream
      completed := h.completed
      done := h.done
      failure := h.failure
      returned := fun completed hreturned => ?_
      failed := fun errorCode message hfailed => ?_ }
    · change s.outcome code = .returned completed at hreturned
      unfold outcome at hreturned
      split at hreturned
      · split at hreturned <;> cases hreturned
      · rename_i hcode
        split at hreturned
        · cases hreturned
        · rename_i hcompleted
          obtain rfl := RunnerPhase.returned.inj hreturned
          exact ⟨hdone, by rw [hexited, not_not.mp hcode], hcompleted⟩
    · change s.outcome code = .failed (.failed errorCode message) at hfailed
      unfold outcome at hfailed
      split at hfailed
      · split at hfailed <;> cases hfailed
      · split at hfailed <;> cases hfailed
  · exact h

/-! ## Runs -/

theorem piped_preserved (python : Interpreter) (packing : FloatPacking) :
    (videoRun python packing).Preserved (Piped packing) := by
  intro s step henabled h
  cases step with
  | progress event => exact h.progress henabled.1 henabled.2.1 event
  | loopEnds ending => exact h.loopEnds henabled.1 henabled.2.2
  | send =>
      obtain ⟨⟨event, events, hmain⟩, hout⟩ := henabled
      exact h.send hmain hout
  | exits => exact h.exits henabled.1 henabled.2
  | report =>
      obtain ⟨⟨message, hmain⟩, hout⟩ := henabled
      exact h.report hmain hout
  | leaves =>
      refine h.main (by rw [henabled.1]; rfl) fun hcode => ?_
      cases hcode
  | write count => exact h.write henabled.1 count
  | signal => exact h.signal
  | dies code => exact h.main henabled.1 fun hcode => absurd hcode henabled.2.1
  | read callback => exact h.read henabled.1 henabled.2 callback
  | eof => exact h.eof henabled.1 henabled.2.2
  | poll => exact h.runner (by intro _ hrunner; cases hrunner) (by intro _ _ hrunner; cases hrunner)
  | check requested expired => exact h.check requested expired
  | checkRaises error =>
      exact h.runner (by intro _ hrunner; cases hrunner) (by intro _ _ hrunner; cases hrunner)
  | terminated => exact h.terminated
  | collect => exact h.collect

theorem piped_start (packing : FloatPacking) : Piped packing {} where
  written := List.forall_mem_nil _
  sending := ⟨[], rfl⟩
  stream := ⟨[], [], rfl, .nil, fun _ => rfl⟩
  completed _ h := by cases h
  done h := by cases h
  failure _ _ h := by cases h
  returned _ h := by cases h
  failed _ _ h := by cases h

/-- What `process_one_job` has when the runner returns: the worker has exited with code 0, and of
all its events none is missing, doubled or out of place. -/
structure HandedOver (s : VideoRun) (completed : Events.VideoCompleted) : Prop where
  exited : s.main = .exited 0
  events : ∃ (progress : List Events.Native.VideoProgress) (decodedFrames processedFrames : UInt64)
    (tracks : List Events.Native.VideoTrackOutput),
    s.sent = progress.map .progress ++ finalEvents decodedFrames processedFrames tracks ∧
    ∃ (shown : List Events.VideoProgress) (outputs : List Events.VideoTrackOutput),
      s.delivered = shown.map .progress ++ (outputs.map .track ++ [.completed completed]) ∧
      shown.length = progress.length ∧
      List.Forall₂ Events.SameTrack tracks outputs ∧
      completed.decodedFrames = decodedFrames.toNat ∧
      completed.processedFrames = processedFrames.toNat ∧
      completed.trackCount = (UInt64.ofNat outputs.length).toNat

theorem shown_progress {progress : List Events.Native.VideoProgress}
    {delivered : List Events.VideoEvent}
    (h : List.Forall₂ Events.Same (progress.map .progress) delivered) :
    ∃ shown : List Events.VideoProgress, delivered = shown.map .progress ∧
      shown.length = progress.length := by
  induction progress generalizing delivered with
  | nil =>
      cases h
      exact ⟨[], rfl, rfl⟩
  | cons event progress ih =>
      cases h with
      | @cons _ received _ rest hsame hrest =>
          obtain ⟨shown, rfl, hlength⟩ := ih hrest
          cases received with
          | progress received => exact ⟨received :: shown, rfl, by simp [hlength]⟩
          | _ => exact hsame.elim

theorem shown_tracks {tracks : List Events.Native.VideoTrackOutput}
    {delivered : List Events.VideoEvent}
    (h : List.Forall₂ Events.Same (tracks.map .track) delivered) :
    ∃ outputs : List Events.VideoTrackOutput, delivered = outputs.map .track ∧
      List.Forall₂ Events.SameTrack tracks outputs := by
  induction tracks generalizing delivered with
  | nil =>
      cases h
      exact ⟨[], rfl, .nil⟩
  | cons track tracks ih =>
      cases h with
      | @cons _ received _ rest hsame hrest =>
          obtain ⟨outputs, rfl, houtputs⟩ := ih hrest
          cases received with
          | track received => exact ⟨received :: outputs, rfl, .cons hsame houtputs⟩
          | _ => exact hsame.elim

theorem exists_append_of_forall₂ {α β : Type} {R : α → β → Prop} {front back : List α}
    {items : List β} (h : List.Forall₂ R (front ++ back) items) :
    ∃ first last, items = first ++ last ∧ List.Forall₂ R front first ∧
      List.Forall₂ R back last := by
  induction front generalizing items with
  | nil => exact ⟨[], items, rfl, .nil, h⟩
  | cons a front ih =>
      cases h with
      | @cons _ b _ rest hab hrest =>
          obtain ⟨first, last, rfl, hfirst, hlast⟩ := ih hrest
          exact ⟨b :: first, last, rfl, .cons hab hfirst, hlast⟩

/-- Of a complete list of events the completed one is the last. -/
theorem Piped.handedOver (h : s.Piped packing) {completed : Events.VideoCompleted}
    (hreturned : s.runner = .returned completed) : s.HandedOver completed := by
  obtain ⟨hdone, hexited, hcompleted⟩ := h.returned completed hreturned
  obtain ⟨shown, unseen, hsent, hshown, hwire⟩ := h.stream
  have hsending := h.sending
  rw [hexited] at hsending
  obtain ⟨hout, progress, decodedFrames, processedFrames, tracks, hcomplete⟩ := hsending rfl
  -- the pipe is empty and nothing is left to write, so everything has been seen
  have hpipe := hwire (.inr hdone)
  rw [(h.done hdone).1, hout, List.append_nil] at hpipe
  have hunseen : unseen = [] :=
    wire_eq_nil (fun event hevent => h.written event (by simp [hsent, hevent])) hpipe.symm
  rw [hunseen, List.append_nil] at hsent
  rw [← hsent, hcomplete] at hshown
  obtain ⟨first, others, hdelivered, hfirst, hothers⟩ := exists_append_of_forall₂ hshown
  obtain ⟨middle, last, rfl, hmiddle, hlast⟩ := exists_append_of_forall₂ hothers
  obtain ⟨received, rfl, hlength⟩ := shown_progress hfirst
  obtain ⟨outputs, rfl, houtputs⟩ := shown_tracks hmiddle
  cases hlast with
  | @cons _ final _ rest hsame hrest =>
      cases hrest
      cases final with
      | completed final =>
          have hmem := h.completed completed hcompleted
          rw [hdelivered] at hmem
          obtain rfl : completed = final := by simpa using hmem
          refine ⟨hexited, progress, decodedFrames, processedFrames, tracks, hcomplete, received,
            outputs, hdelivered, hlength, houtputs, hsame.1, hsame.2.1, ?_⟩
          rw [← houtputs.length_eq]
          exact hsame.2.2
      | _ => exact hsame.elim

end VideoRun

/-- In every run, the events that are handed to `on_event` are the first ones that the worker has
sent.  The runner returns only when they are all of them, the completed one last, and it blames
the worker only for a failure that the worker has sent. -/
theorem videoRun_verdict (python : Interpreter) (packing : FloatPacking) {s : VideoRun}
    (h : (videoRun python packing).Reachable s) :
    (∃ shown unseen, s.sent = shown ++ unseen ∧ List.Forall₂ Events.Same shown s.delivered) ∧
      (∀ completed, s.runner = .returned completed → s.HandedOver completed) ∧
      ∀ errorCode message, s.runner = .failed (.failed errorCode message) →
        s.Reported errorCode message := by
  have hpiped : s.Piped packing :=
    (VideoRun.piped_preserved python packing).reachable
      (by rintro s rfl; exact VideoRun.piped_start packing) h
  obtain ⟨shown, unseen, hsent, hshown, -⟩ := hpiped.stream
  exact ⟨⟨shown, unseen, hsent, hshown⟩, fun _ hreturned => hpiped.handedOver hreturned,
    hpiped.failed⟩

/-- A worker that completes with a track.  Its progress and its track are written in two parts. -/
def completedRun : List VideoStep :=
  [.progress ⟨1, 1, 3, .ofBits 0x42480000⟩, .poll, .write 9, .check false false, .write 103,
   .read none, .loopEnds (.finished 3 3 [Events.sampleTrack]), .send, .write 1000, .write 1963,
   .poll, .send, .read none, .check false false, .write 91, .exits, .read none, .eof, .collect]

theorem videoRun_verdict_completed :
    ∃ s : VideoRun, s.runner = .returned ⟨3, 3, 1⟩ ∧ s.delivered.length = 3 ∧
      s.HandedOver ⟨3, 3, 1⟩ := by
  obtain ⟨hvalid, hreturned, hdelivered⟩ :
      (videoRun Protocols.asciiInterpreter .plain).Valid {} completedRun ∧
        ((videoRun Protocols.asciiInterpreter .plain).run {} completedRun).runner =
            .returned ⟨3, 3, 1⟩ ∧
          ((videoRun Protocols.asciiInterpreter .plain).run {} completedRun).delivered.length =
            3 := by
    decide +kernel
  refine ⟨_, hreturned, hdelivered, ?_⟩
  exact (videoRun_verdict Protocols.asciiInterpreter .plain
    ⟨{}, completedRun, rfl, hvalid, rfl⟩).2.1 _ hreturned

end Mvision.Video
