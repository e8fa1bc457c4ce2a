import Mvision.Library.Decoder
import Mvision.Live.NativeDecoder
import Mvision.Live.ProtocolDecoding
import Mvision.Live.ProtocolEncoding

/-!
# Decode contexts

A context belongs to one attempt of a run and remembers the last revision of each tracker's
assignment.  The map of the native context gets an entry even from an assignment that it
rejects; the entry is zero, which is what the map gives for a tracker without one.
-/

namespace Mvision.Live

open Mvision.Library

/-! ## `DecodeContext` -/

namespace Protocol

/-- The fields of a context after `__init__`, which accepts only UUIDs and positive numbers; the
identifiers are in lower case. -/
structure DecodeContext where
  sessionId : String
  cameraId : String
  runId : String
  generation : Nat
  runtimeAttempt : Nat
  assignmentRevisions : Nat → Option Nat

namespace DecodeContext

/-- The comparisons of a header with the context. -/
def check (context : DecodeContext) (header : ProtocolHeader) : Except String Unit :=
  if header.sessionId ≠ context.sessionId then .error "WRONG_SESSION_ID"
  else if header.cameraId ≠ context.cameraId then .error "WRONG_CAMERA_ID"
  else if header.runId ≠ context.runId then .error "WRONG_RUN_ID"
  else if header.generation ≠ context.generation then .error "WRONG_GENERATION"
  else if header.runtimeAttempt ≠ context.runtimeAttempt then .error "WRONG_RUNTIME_ATTEMPT"
  else .ok ()

/-- `get(tracker_id, 0)` -/
def last (context : DecodeContext) (trackerId : Nat) : Nat :=
  (context.assignmentRevisions trackerId).getD 0

def record (context : DecodeContext) (assignment : IdentityAssignment) : DecodeContext :=
  { context with
    assignmentRevisions := Function.update context.assignmentRevisions
      assignment.trackerId (some assignment.assignmentRevision) }

/-- The end of `decode`, after the comparisons. -/
def accept (context : DecodeContext) (message : LiveMessage) :
    Except String LiveMessage × DecodeContext :=
  match message with
  | .identityAssignment assignment =>
      if assignment.assignmentRevision ≤ context.last assignment.trackerId then
        (.error "STALE_ASSIGNMENT_REVISION", context)
      else (.ok message, context.record assignment)
  | _ => (.ok message, context)

def decode (context : DecodeContext) (frame : List UInt8) :
    Except String LiveMessage × DecodeContext :=
  match decodeMessage frame with
  | .error e => (.error e, context)
  | .ok message =>
      match context.check message.header with
      | .error e => (.error e, context)
      | .ok () => context.accept message

end DecodeContext

end Protocol

/-! ## The context of `decode_live_message` -/

namespace Native

structure DecodeContext where
  sessionId : Text
  cameraId : Text
  runId : Text
  generation : UInt64
  runtimeAttempt : UInt64
  assignmentRevisions : UInt64 → Option UInt64

namespace DecodeContext

def check (context : DecodeContext) (header : ProtocolHeader) : Except String Unit := do
  failIf (header.sessionId ≠ context.sessionId) "WRONG_SESSION_ID"
  failIf (header.cameraId ≠ context.cameraId) "WRONG_CAMERA_ID"
  failIf (header.runId ≠ context.runId) "WRONG_RUN_ID"
  failIf (header.generation ≠ context.generation) "WRONG_GENERATION"
  failIf (header.runtimeAttempt ≠ context.runtimeAttempt) "WRONG_RUNTIME_ATTEMPT"

/-- The revision of an entry, and zero without one. -/
def last (context : DecodeContext) (trackerId : UInt64) : UInt64 :=
  (context.assignmentRevisions trackerId).getD 0

/-- `assignment_revisions[tracker_id]` makes an entry for a tracker without one. -/
def withEntry (context : DecodeContext) (trackerId : UInt64) : DecodeContext :=
  { context with
    assignmentRevisions := Function.update context.assignmentRevisions trackerId
      (some (context.last trackerId)) }

def record (context : DecodeContext) (assignment : IdentityAssignment) : DecodeContext :=
  { context with
    assignmentRevisions := Function.update context.assignmentRevisions
      assignment.trackerId (some assignment.assignmentRevision) }

def accept (context : DecodeContext) (message : LiveMessage) :
    Except String LiveMessage × DecodeContext :=
  match message with
  | .identityAssignment assignment =>
      let entered := context.withEntry assignment.trackerId
      if assignment.assignmentRevision ≤ entered.last assignment.trackerId then
        (.error "STALE_ASSIGNMENT_REVISION", entered)
      else (.ok message, entered.record assignment)
  | _ => (.ok message, context)

/-- `decode_live_message` with a context. -/
def decode (context : DecodeContext) (frame : List UInt8) :
    Except String LiveMessage × DecodeContext :=
  match decodeLiveMessage frame with
  | .error e => (.error e, context)
  | .ok message =>
      match context.check message.header with
      | .error e => (.error e, context)
      | .ok () => context.accept message

end DecodeContext

end Native

/-! ## The fence -/

/-- What a context promises of every sequence of inputs: accepted messages belong to it, the
marks of a key increase, and a rejected input might as well not have come. -/
structure Fences {σ φ ε μ κ ν : Type} [DecidableEq κ] [LT ν] (decode : Decoder σ φ ε μ)
    (context : σ) (belongs : μ → Prop) (mark : μ → Option (κ × ν)) : Prop where
  belongs : ∀ inputs message, .ok message ∈ decode.results context inputs → belongs message
  increasing : ∀ inputs key,
    (Decoder.marksOf mark key (decode.results context inputs)).Pairwise (· < ·)
  rejected : ∀ before input rest e,
    (decode.results context (before ++ input :: rest))[before.length]? = some (.error e) →
      (decode.results context (before ++ input :: rest)).eraseIdx before.length =
        decode.results context (before ++ rest)

/-- A decoder with a gate is a fence from any context. -/
theorem Fences.of_gate {σ φ ε μ κ ν : Type} [DecidableEq κ] [Preorder ν]
    {decode : Decoder σ φ ε μ} {owns : σ → μ → Prop} {last : σ → κ → ν}
    {mark : μ → Option (κ × ν)} {R : σ → σ → Prop} (h : decode.Gate owns last mark R)
    (context : σ) : Fences decode context (owns context) mark where
  belongs _ _ hmem := h.owns_of_mem hmem
  increasing := h.increasing context
  rejected _ _ _ _ hresult := h.alike.results_eraseIdx (fun _ _ _ => h.rejected) hresult

namespace Protocol.DecodeContext

variable {context : DecodeContext} {message : LiveMessage}

/-- The message has the session, camera, run, generation and attempt of the context. -/
def Owns (context : DecodeContext) (message : LiveMessage) : Prop :=
  message.header.sessionId = context.sessionId ∧ message.header.cameraId = context.cameraId ∧
    message.header.runId = context.runId ∧ message.header.generation = context.generation ∧
      message.header.runtimeAttempt = context.runtimeAttempt

/-- The tracker and the revision of an assignment. -/
def revision : LiveMessage → Option (Nat × Nat)
  | .identityAssignment assignment =>
      some (assignment.trackerId, assignment.assignmentRevision)
  | _ => none

theorem check_ok_iff : context.check message.header = .ok () ↔ context.Owns message := by
  unfold check Owns
  split_ifs <;> simp_all

theorem last_record (context : DecodeContext) (assignment : IdentityAssignment)
    (trackerId : Nat) :
    (context.record assignment).last trackerId =
      if trackerId = assignment.trackerId then assignment.assignmentRevision
      else context.last trackerId :=
  Decoder.getD_update _ _ _ _ _

/-- A frame is rejected without an effect, accepted as an assignment with a new revision, or
accepted as another message. -/
theorem gate : Decoder.Gate decode Owns last revision Eq where
  alike := .equal decode
  owns_eq h := congrArg Owns h
  last_eq h := congrArg last h
  step context frame := by
    unfold decode
    cases decodeMessage frame with
    | error e => exact .inl ⟨e, rfl, rfl⟩
    | ok message =>
        dsimp only
        cases hcheck : context.check message.header with
        | error e => exact .inl ⟨e, rfl, rfl⟩
        | ok checked =>
            have howns := check_ok_iff.mp hcheck
            cases message with
            | identityAssignment assignment =>
                dsimp only [accept]
                split
                · exact .inl ⟨_, rfl, rfl⟩
                · next hfresh =>
                    refine .inr ⟨_, rfl, howns, rfl, ?_, ?_⟩
                    · intro trackerId value hrevision
                      obtain ⟨rfl, rfl⟩ := Prod.mk.inj (Option.some.inj hrevision)
                      exact not_le.mp hfresh
                    · exact funext (last_record context assignment)
            | _ => exact .inr ⟨_, rfl, howns, rfl, fun _ _ => nofun, rfl⟩

end Protocol.DecodeContext

namespace Native.DecodeContext

variable {context other : DecodeContext} {message : LiveMessage}

/-- The message has the session, camera, run, generation and attempt of the context. -/
def Owns (context : DecodeContext) (message : LiveMessage) : Prop :=
  message.header.sessionId = context.sessionId ∧ message.header.cameraId = context.cameraId ∧
    message.header.runId = context.runId ∧ message.header.generation = context.generation ∧
      message.header.runtimeAttempt = context.runtimeAttempt

/-- The tracker and the revision of an assignment. -/
def revision : LiveMessage → Option (UInt64 × Nat)
  | .identityAssignment assignment =>
      some (assignment.trackerId, assignment.assignmentRevision.toNat)
  | _ => none

theorem check_ok_iff : context.check message.header = .ok () ↔ context.Owns message := by
  unfold check Owns failIf
  split_ifs <;> simp_all [bind, Except.bind]

/-- Two contexts with the same comparisons that give the same revision for every tracker. -/
def Alike (context other : DecodeContext) : Prop :=
  (∃ revisions, other = { context with assignmentRevisions := revisions }) ∧
    ∀ trackerId, other.last trackerId = context.last trackerId

theorem Alike.refl (context : DecodeContext) : context.Alike context :=
  ⟨⟨context.assignmentRevisions, rfl⟩, fun _ => rfl⟩

theorem last_record (context : DecodeContext) (assignment : IdentityAssignment)
    (trackerId : UInt64) :
    (context.record assignment).last trackerId =
      if trackerId = assignment.trackerId then assignment.assignmentRevision
      else context.last trackerId :=
  Decoder.getD_update _ _ _ _ _

/-- The entry that the map makes for a tracker is what it gave without one. -/
theorem last_withEntry (context : DecodeContext) (entered trackerId : UInt64) :
    (context.withEntry entered).last trackerId = context.last trackerId := by
  refine (Decoder.getD_update _ _ _ _ _).trans ?_
  split
  · next htracker => rw [htracker]
  · rfl

/-- Contexts that are alike treat every frame alike. -/
theorem alike_decode : Decoder.Alike decode Alike := by
  have hstep {context other : DecodeContext} (h : context.Alike other) (frame : List UInt8) :
      (context.decode frame).1 = (other.decode frame).1 ∧
        (context.decode frame).2.Alike (other.decode frame).2 := by
    obtain ⟨⟨revisions, rfl⟩, hlast⟩ := h
    unfold decode
    cases decodeLiveMessage frame with
    | error e => exact ⟨rfl, ⟨revisions, rfl⟩, hlast⟩
    | ok message =>
        have hcheck : DecodeContext.check { context with assignmentRevisions := revisions }
            message.header = context.check message.header := rfl
        dsimp only
        rw [hcheck]
        cases context.check message.header with
        | error e => exact ⟨rfl, ⟨revisions, rfl⟩, hlast⟩
        | ok checked =>
            cases message with
            | identityAssignment assignment =>
                dsimp only [accept]
                rw [last_withEntry, last_withEntry, hlast]
                split
                · refine ⟨rfl, ⟨_, rfl⟩, fun trackerId => ?_⟩
                  rw [last_withEntry, last_withEntry, hlast]
                · refine ⟨rfl, ⟨_, rfl⟩, fun trackerId => ?_⟩
                  rw [last_record, last_record, last_withEntry, last_withEntry, hlast]
            | _ => exact ⟨rfl, ⟨revisions, rfl⟩, hlast⟩
  exact ⟨fun h frame => (hstep h frame).1, fun h frame => (hstep h frame).2⟩

theorem Alike.symm (h : context.Alike other) : other.Alike context := by
  obtain ⟨⟨revisions, rfl⟩, hlast⟩ := h
  exact ⟨⟨context.assignmentRevisions, rfl⟩, fun trackerId => (hlast trackerId).symm⟩

theorem Alike.owns_eq (h : context.Alike other) : context.Owns = other.Owns := by
  obtain ⟨⟨revisions, rfl⟩, -⟩ := h
  rfl

/-- A frame is rejected and leaves a context that is alike, accepted as an assignment with a new
revision, or accepted as another message. -/
theorem gate : Decoder.Gate decode Owns (fun context trackerId => (context.last trackerId).toNat)
    revision Alike where
  alike := alike_decode
  owns_eq := Alike.owns_eq
  last_eq h := funext fun trackerId => congrArg UInt64.toNat (h.2 trackerId).symm
  step context frame := by
    unfold decode
    cases decodeLiveMessage frame with
    | error e => exact .inl ⟨e, rfl, .refl context⟩
    | ok message =>
        dsimp only
        cases hcheck : context.check message.header with
        | error e => exact .inl ⟨e, rfl, .refl context⟩
        | ok checked =>
            have howns := check_ok_iff.mp hcheck
            cases message with
            | identityAssignment assignment =>
                dsimp only [accept]
                split
                · exact .inl ⟨_, rfl, Alike.symm ⟨⟨_, rfl⟩, last_withEntry context _⟩⟩
                · next hfresh =>
                    rw [last_withEntry] at hfresh
                    refine .inr ⟨_, rfl, howns, rfl, ?_, ?_⟩
                    · intro trackerId value hrevision
                      obtain ⟨rfl, rfl⟩ := Prod.mk.inj (Option.some.inj hrevision)
                      exact UInt64.lt_iff_toNat_lt.mp (UInt64.not_le.mp hfresh)
                    · funext trackerId
                      show (UInt64.toNat _) = if _ then _ else _
                      rw [last_record, last_withEntry, apply_ite UInt64.toNat]
            | _ => exact .inr ⟨_, rfl, howns, rfl, fun _ _ => nofun, rfl⟩

end Native.DecodeContext

/-- Both contexts fence foreign and stale frames. -/
theorem contexts_fence (python : Protocol.DecodeContext) (native : Native.DecodeContext) :
    Fences Protocol.DecodeContext.decode python python.Owns Protocol.DecodeContext.revision ∧
      Fences Native.DecodeContext.decode native native.Owns Native.DecodeContext.revision :=
  ⟨.of_gate Protocol.DecodeContext.gate python, .of_gate Native.DecodeContext.gate native⟩

end Mvision.Live
