import Mathlib.Data.List.Dedup
import Mvision.Library.Urls
import Mvision.Live.SessionRepository
import Mvision.Live.SessionSpec

/-!
# `MediaMtxReconciliationService`

One pass of `_reconcile_once` makes each call to MediaMTX at most once for a path, so the
answers of MediaMTX in a pass are functions of the name.  All reads and writes of the
database are one transaction.  The counts that a pass returns are left out.
-/

namespace Mvision.Media

open Mvision.Library
open Mvision.Live (Json SourceType MediaState DesiredState)

abbrev JsonObject := List (String × Json)

def startsWith (text start : String) : Bool := start.toList.isPrefixOf text.toList

inductive MediaMtxError where
  | timeout
  | unavailable
  | httpError (status : Nat)
  | invalidResponse
deriving DecidableEq, Repr

inductive Raised where
  | mediaMtxError (error : MediaMtxError)
  | valueError
  | attributeError
deriving DecidableEq, Repr

/-- The config that `ingress_config` builds; `rtspTransport` is a key of some of them. -/
structure IngressConfig where
  source : String
  rtspTransport : Option String := none
deriving DecidableEq, Repr

inductive MediaCall where
  | getConfigPath (name : String)
  | addPath (name : String) (config : IngressConfig)
  | replacePath (name : String) (config : IngressConfig)
  | getActivePath (name : String)
  | listConfigPaths
  | deletePath (name : String)
deriving DecidableEq, Repr

/-- A computation that calls MediaMTX: the calls it made, and how it ended. -/
structure Calling (α : Type) where
  calls : List MediaCall
  outcome : Except Raised α

namespace Calling

variable {α β : Type}

instance monad : Monad Calling where
  pure a := ⟨[], .ok a⟩
  bind x f :=
    match x.outcome with
    | .error e => ⟨x.calls, .error e⟩
    | .ok a => ⟨x.calls ++ (f a).calls, (f a).outcome⟩

/-- A step without a call. -/
def lift (x : Except Raised α) : Calling α := ⟨[], x⟩

theorem bind_of_error {x : Calling α} {e : Raised} (h : x.outcome = .error e)
    (f : α → Calling β) : x >>= f = ⟨x.calls, .error e⟩ := by
  show (match x.outcome with
    | .error e => _
    | .ok a => _) = _
  rw [h]

theorem bind_of_ok {x : Calling α} {a : α} (h : x.outcome = .ok a) (f : α → Calling β) :
    x >>= f = ⟨x.calls ++ (f a).calls, (f a).outcome⟩ := by
  show (match x.outcome with
    | .error e => _
    | .ok a => _) = _
  rw [h]

theorem outcome_bind (x : Calling α) (f : α → Calling β) :
    (x >>= f).outcome = x.outcome >>= fun a => (f a).outcome := by
  cases h : x.outcome with
  | error e => rw [bind_of_error h]; rfl
  | ok a => rw [bind_of_ok h]; rfl

/-- A call of a computation is one of its first part or of its second. -/
theorem mem_calls_bind {x : Calling α} {f : α → Calling β} {call : MediaCall} :
    call ∈ (x >>= f).calls ↔
      call ∈ x.calls ∨ ∃ a, x.outcome = .ok a ∧ call ∈ (f a).calls := by
  cases h : x.outcome with
  | error e =>
      rw [bind_of_error h]
      simp
  | ok a =>
      rw [bind_of_ok h]
      simp

end Calling

/-! ## `MediaMtxClient` -/

/-- What MediaMTX answers in one pass. -/
structure MediaMtx where
  getConfigPath : String → Except MediaMtxError (Option JsonObject)
  addPath : String → Except MediaMtxError Unit
  replacePath : String → Except MediaMtxError Unit
  getActivePath : String → Except MediaMtxError (Option JsonObject)
  listConfigPaths : Except MediaMtxError (List JsonObject)
  deletePath : String → Except MediaMtxError Unit

/-- `_path`: no segment is empty or a dot segment. -/
def path (name : String) : Except Raised Unit :=
  if (name.toList.splitOn '/').any fun part => part = [] ∨ part = ['.'] ∨ part = ['.', '.'] then
    .error .valueError
  else .ok ()

/-- A request for the path of a name. -/
def request {α : Type} (call : MediaCall) (name : String) (answer : Except MediaMtxError α) :
    Calling α :=
  ⟨[call], path name >>= fun _ => answer.mapError .mediaMtxError⟩

namespace MediaMtx

variable (media : MediaMtx)

def getConfig (name : String) : Calling (Option JsonObject) :=
  request (.getConfigPath name) name (media.getConfigPath name)

def add (name : String) (config : IngressConfig) : Calling Unit :=
  request (.addPath name config) name (media.addPath name)

def replace (name : String) (config : IngressConfig) : Calling Unit :=
  request (.replacePath name config) name (media.replacePath name)

def getActive (name : String) : Calling (Option JsonObject) :=
  request (.getActivePath name) name (media.getActivePath name)

def delete (name : String) : Calling Unit :=
  request (.deletePath name) name (media.deletePath name)

end MediaMtx

/-! ## Configs -/

/-- `value.startswith((first, second))` -/
def startsWithEither (value first second : String) : Bool :=
  startsWith value first || startsWith value second

/-- `str.lower` -/
def lower (text : String) : String := String.ofList (lowerAscii text.toList)

def ingressConfig (sourceType : SourceType) (sourceUrl : Option String) :
    Except Raised IngressConfig :=
  match sourceType, sourceUrl with
  | .whipPush, _ => .ok { source := "publisher" }
  | .rtspPull, some url =>
      if startsWithEither (lower url) "rtsp://" "rtsps://" then
        .ok { source := url, rtspTransport := some "tcp" }
      else .error .valueError
  | .whepPull, some url =>
      if startsWithEither (lower url) "whep://" "wheps://" then
        .ok { source := url }
      else .error .valueError
  | _, none => .error .valueError

/-- What `_normalized` returns: the source, and the transport if it has this key. -/
structure NormalizedConfig where
  source : Json
  rtspTransport : Option Json

/-- `_normalized`; the source of a config without one is `None`, and no other value than a
text has a method `startswith`. -/
def normalized (config : JsonObject) : Except Raised NormalizedConfig :=
  match config.lookup "source" with
  | none => .ok ⟨.null, none⟩
  | some (.string source) =>
      if startsWithEither source "rtsp://" "rtsps://" then
        .ok ⟨.string source, some (Json.get config "rtspTransport")⟩
      else .ok ⟨.string source, none⟩
  | some _ => .error .attributeError

/-- `normalized == desired` -/
def NormalizedConfig.equals (stored : NormalizedConfig) (desired : IngressConfig) : Bool :=
  stored.source.isText desired.source &&
    match stored.rtspTransport, desired.rtspTransport with
    | none, none => true
    | some value, some text => value.isText text
    | _, _ => false

/-! ## Generations -/

/-- The columns of `live_session_generation` that a pass reads or writes. -/
structure LiveSessionGeneration where
  generationId : String
  sourceType : SourceType
  sourceCiphertext : Option String
  ingressPath : String
  desiredState : DesiredState := .running
  mediaState : MediaState := .provisioning
  createdAt : Timestamp := 0
  errorCode : Option String := none
deriving DecidableEq

abbrev Generations := Table LiveSessionGeneration.generationId

/-- The order of `list_reconcilable`. -/
def reconcilesBefore (a b : LiveSessionGeneration) : Prop :=
  a.createdAt < b.createdAt ∨ (a.createdAt = b.createdAt ∧ a.generationId ≤ b.generationId)

instance reconcilesBeforeDecidable : DecidableRel reconcilesBefore := fun _ _ =>
  inferInstanceAs (Decidable (_ ∨ _))

def listReconcilable (generations : Generations) : List LiveSessionGeneration :=
  (generations.rows.filter fun g => g.desiredState = .running).insertionSort reconcilesBefore

theorem mem_listReconcilable {generations : Generations} {g : LiveSessionGeneration} :
    g ∈ listReconcilable generations ↔ g ∈ generations.rows ∧ g.desiredState = .running := by
  rw [listReconcilable, List.mem_insertionSort, List.mem_filter, decide_eq_true_eq]

/-- The update of `set_media_state`. -/
def LiveSessionGeneration.setMediaState (state : MediaState) (errorCode : Option String)
    (g : LiveSessionGeneration) : LiveSessionGeneration :=
  { g with
    mediaState := state
    errorCode := errorCode.or
      (if g.errorCode = some "LIVE_MEDIA_PATH_FAILED" then none else g.errorCode) }

def setMediaState (generations : Generations) (generationId : String) (state : MediaState)
    (errorCode : Option String) : Generations :=
  generations.update generationId (LiveSessionGeneration.setMediaState state errorCode)
    fun _ => rfl

/-! ## A pass -/

/-- `decrypt_secret`, whose only exception is a `ValueError`, or no cipher. -/
abbrev Cipher := Option (String → Option String)

def sourceUrl (cipher : Cipher) : Option String → Except Raised (Option String)
  | none => .ok none
  | some ciphertext =>
      match cipher.bind fun decrypt => decrypt ciphertext with
      | none => .error .valueError
      | some url => .ok (some url)

/-- `active is not None and active.get("online") is True` -/
def online : Option JsonObject → Bool
  | some active =>
      match Json.get active "online" with
      | .boolean flag => flag
      | _ => false
  | none => false

/-- The path of a generation is made as it should be. -/
def ensurePath (media : MediaMtx) (name : String) (desired : IngressConfig) : Calling Unit := do
  match ← media.getConfig name with
  | none => media.add name desired
  | some current =>
      let stored ← Calling.lift (normalized current)
      if stored.equals desired then pure () else media.replace name desired

/-- The part of the loop over the generations inside `try`. -/
def mediaStateOf (media : MediaMtx) (cipher : Cipher) (g : LiveSessionGeneration) :
    Calling MediaState := do
  let url ← Calling.lift (sourceUrl cipher g.sourceCiphertext)
  let desired ← Calling.lift (ingressConfig g.sourceType url)
  ensurePath media g.ingressPath desired
  let active ← media.getActive g.ingressPath
  return if online active then .ready else .waiting

/-- One round of the loop over the generations; `except (MediaMtxError, ValueError)`. -/
def recordState (media : MediaMtx) (cipher : Cipher) (generations : Generations)
    (g : LiveSessionGeneration) : Calling Generations :=
  let made := mediaStateOf media cipher g
  match made.outcome with
  | .ok state => ⟨made.calls, .ok (setMediaState generations g.generationId state none)⟩
  | .error .attributeError => ⟨made.calls, .error .attributeError⟩
  | .error _ =>
      ⟨made.calls, .ok (setMediaState generations g.generationId .failed
        (some "LIVE_MEDIA_PATH_FAILED"))⟩

def recordStates (media : MediaMtx) (cipher : Cipher) (generations : Generations)
    (running : List LiveSessionGeneration) : Calling Generations :=
  running.foldlM (recordState media cipher) generations

/-- When a path has been seen first without a generation that wants it. -/
abbrev StaleSince := String → Option Timestamp

/-- The settings of the service, and the order in which Python goes through a set. -/
structure Service where
  ownedPrefix : String := "ingress/"
  staleGrace : Int := timedelta 30
  order : List String → List String := id
  order_perm : ∀ names, (order names).Perm names := by exact fun _ => .refl _

structure Deletion where
  calls : List MediaCall
  staleSince : StaleSince
  outcome : Except Raised Unit

/-- The loop over `configured_names - desired_names`. -/
def deleteStale (service : Service) (media : MediaMtx) (now : Timestamp) :
    List String → StaleSince → Deletion
  | [], stale => ⟨[], stale, .ok ()⟩
  | name :: names, stale =>
      let firstSeen := (stale name).getD now
      let marked := Function.update stale name (some firstSeen)
      if service.staleGrace ≤ now - firstSeen then
        match (media.delete name).outcome with
        | .error e => ⟨[.deletePath name], marked, .error e⟩
        | .ok () =>
            let rest := deleteStale service media now names (Function.update marked name none)
            { rest with calls := .deletePath name :: rest.calls }
      else deleteStale service media now names marked

/-- The names of the listed paths that the service owns. -/
def configuredNames (service : Service) (configured : List JsonObject) : List String :=
  (configured.filterMap fun item =>
    match item.lookup "name" with
    | some (.string name) => if startsWith name service.ownedPrefix then some name else none
    | _ => none).dedup

/-- A pass: what the database and MediaMTX answer, and what the clock shows. -/
structure Pass where
  generations : Generations
  cipher : Cipher
  media : MediaMtx
  now : Timestamp

def Pass.desired (pass : Pass) : List String :=
  (listReconcilable pass.generations).map LiveSessionGeneration.ingressPath

/-- What a pass leaves: its calls, the table of stale paths, the rows that it committed if it
committed, and whether it came to its end. -/
structure PassResult where
  calls : List MediaCall
  staleSince : StaleSince
  committed : Option Generations
  complete : Bool

/-- The paths that a pass looks at for deletion. -/
def staleNames (service : Service) (pass : Pass) (configured : List JsonObject) : List String :=
  service.order ((configuredNames service configured).filter (· ∉ pass.desired))

/-- The end of a complete pass: only paths that are stale now keep their time. -/
def keepStale (service : Service) (pass : Pass) (configured : List JsonObject)
    (stale : StaleSince) : StaleSince := fun name =>
  if name ∈ pass.desired ∨ name ∉ configuredNames service configured then none else stale name

/-- `_reconcile_once`; an exception that escapes rolls the transaction back. -/
def reconcileOnce (service : Service) (stale : StaleSince) (pass : Pass) : PassResult :=
  let recorded :=
    recordStates pass.media pass.cipher pass.generations (listReconcilable pass.generations)
  match recorded.outcome with
  | .error _ => ⟨recorded.calls, stale, none, false⟩
  | .ok generations =>
      match pass.media.listConfigPaths with
      | .error _ => ⟨recorded.calls ++ [.listConfigPaths], stale, some generations, false⟩
      | .ok configured =>
          let deletion := deleteStale service pass.media pass.now
            (staleNames service pass configured) stale
          let calls := recorded.calls ++ .listConfigPaths :: deletion.calls
          match deletion.outcome with
          | .error _ => ⟨calls, deletion.staleSince, none, false⟩
          | .ok () =>
              ⟨calls, keepStale service pass configured deletion.staleSince, some generations,
                true⟩

section Cases

variable (service : Service) (stale : StaleSince) (pass : Pass)

/-- The first part of a pass. -/
abbrev Pass.recorded : Calling Generations :=
  recordStates pass.media pass.cipher pass.generations (listReconcilable pass.generations)

/-- The last part of a pass. -/
abbrev Pass.deletion (configured : List JsonObject) : Deletion :=
  deleteStale service pass.media pass.now (staleNames service pass configured) stale

/-- A pass is aborted by a generation, returns without the list of the paths, is aborted by a
deletion, or comes to its end. -/
theorem reconcileOnce_cases :
    (∃ e, pass.recorded.outcome = .error e ∧
      reconcileOnce service stale pass = ⟨pass.recorded.calls, stale, none, false⟩) ∨
    (∃ generations e, pass.recorded.outcome = .ok generations ∧
      pass.media.listConfigPaths = .error e ∧
      reconcileOnce service stale pass =
        ⟨pass.recorded.calls ++ [.listConfigPaths], stale, some generations, false⟩) ∨
    ∃ generations configured, pass.recorded.outcome = .ok generations ∧
      pass.media.listConfigPaths = .ok configured ∧
      ((∃ e, (pass.deletion service stale configured).outcome = .error e ∧
        reconcileOnce service stale pass =
          ⟨pass.recorded.calls ++ .listConfigPaths :: (pass.deletion service stale configured).calls,
            (pass.deletion service stale configured).staleSince, none, false⟩) ∨
      ((pass.deletion service stale configured).outcome = .ok () ∧
        reconcileOnce service stale pass =
          ⟨pass.recorded.calls ++ .listConfigPaths :: (pass.deletion service stale configured).calls,
            keepStale service pass configured (pass.deletion service stale configured).staleSince,
            some generations, true⟩)) := by
  unfold reconcileOnce
  dsimp only
  cases hrecorded : pass.recorded.outcome with
  | error e => exact .inl ⟨e, rfl, rfl⟩
  | ok generations =>
      cases hlist : pass.media.listConfigPaths with
      | error e => exact .inr (.inl ⟨generations, e, rfl, rfl, rfl⟩)
      | ok configured =>
          refine .inr (.inr ⟨generations, configured, rfl, rfl, ?_⟩)
          dsimp only
          cases hdeletion : (pass.deletion service stale configured).outcome with
          | error e => exact .inl ⟨e, rfl, rfl⟩
          | ok done => exact .inr ⟨rfl, rfl⟩

end Cases

end Mvision.Media
