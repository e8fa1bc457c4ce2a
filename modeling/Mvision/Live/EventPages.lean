import Mathlib.Data.Prod.Lex
import Mathlib.Data.String.Basic
import Mvision.Library.Pages
import Mvision.Library.Query
import Mvision.Live.EventService

/-!
# Pages of the events of a camera

`LiveEventRepository.list_page`.  The rows have their primary key, the event id; canonical texts
of UUIDs are ordered as the UUIDs are.
-/

namespace Mvision.Live

open Mvision.Library

namespace LiveEventRepository

variable (rows : Table LiveDetectionEvent.eventId) (cameraId : String)

/-- `order_by(occurred_at.desc(), event_id.desc()).limit(limit)` -/
def latest (stmt : List LiveDetectionEvent) (limit : Nat) : List LiveDetectionEvent :=
  (stmt.insertionSort fun e f =>
    byThen LiveDetectionEvent.occurredAt LiveDetectionEvent.eventId f e).take limit

/-- `list_page` -/
def listPage (limit : Int) (cursorOccurredAt : Option Nat) (cursorEventId : Option String) :
    Except String (List LiveDetectionEvent) :=
  if limit ≤ 0 then .error "INVALID_LIVE_EVENT_PAGE_LIMIT"
  else
    let stmt := rows.rows.filter fun e => e.cameraId = cameraId
    match cursorOccurredAt, cursorEventId with
    | none, none => .ok (latest stmt limit.toNat)
    | some occurredAt, some eventId =>
        .ok (latest (stmt.filter fun e =>
          e.occurredAt < occurredAt ∨ (e.occurredAt = occurredAt ∧ e.eventId < eventId))
          limit.toNat)
    | _, _ => .error "INVALID_LIVE_EVENT_CURSOR"

/-- The events of the camera. -/
def cameraEvents : List LiveDetectionEvent := rows.rows.filter fun e => e.cameraId = cameraId

/-- A reader who passes the last row returned as the next cursor. -/
def nextPage (limit : Int) (last : Option LiveDetectionEvent) :
    Except String (List LiveDetectionEvent) :=
  listPage rows cameraId limit (last.map (·.occurredAt)) (last.map (·.eventId))

/-- Later events come first. -/
def recency (e : LiveDetectionEvent) : (Nat ×ₗ String)ᵒᵈ :=
  OrderDual.toDual (toLex (e.occurredAt, e.eventId))

theorem recency_lt {e f : LiveDetectionEvent} :
    recency e < recency f ↔
      f.occurredAt < e.occurredAt ∨ (f.occurredAt = e.occurredAt ∧ f.eventId < e.eventId) :=
  OrderDual.toDual_lt_toDual.trans Prod.Lex.toLex_lt_toLex

theorem recency_le {e f : LiveDetectionEvent} :
    recency e ≤ recency f ↔ byThen LiveDetectionEvent.occurredAt LiveDetectionEvent.eventId f e :=
  OrderDual.toDual_le_toDual.trans Prod.Lex.toLex_le_toLex

variable {rows cameraId}

theorem nodup_recency : ((cameraEvents rows cameraId).map recency).Nodup := by
  have hids : (cameraEvents rows cameraId).Pairwise fun e f => e.eventId ≠ f.eventId :=
    (List.pairwise_map.mp rows.nodup).sublist List.filter_sublist
  refine List.pairwise_map.mpr (hids.imp fun hne heq => hne ?_)
  exact congrArg (fun key => (ofLex (OrderDual.ofDual key)).2) heq

theorem latest_eq_take (stmt : List LiveDetectionEvent) (limit : Nat) :
    latest stmt limit = (ordered recency stmt).take limit := by
  -- both sort by the same order, written in two ways
  have hsort := List.map_insertionSort
    (r := fun e f => byThen LiveDetectionEvent.occurredAt LiveDetectionEvent.eventId f e)
    (s := fun e f => recency e ≤ recency f) id stmt fun _ _ _ _ => recency_le.symm
  rw [List.map_id, List.map_id] at hsort
  rw [latest, hsort, ordered]

/-- The predicate of the cursor selects what the order puts behind it. -/
theorem nextPage_eq {limit : Int} (hlimit : 1 ≤ limit) (last : Option LiveDetectionEvent) :
    nextPage rows cameraId limit last =
      .ok (page recency (cameraEvents rows cameraId) limit.toNat last) := by
  unfold nextPage listPage page rowsBehind
  -- with a cursor both of its parts are given, so it is never refused
  rw [if_neg (by omega)]
  cases last with
  | none =>
      have hall : (cameraEvents rows cameraId).filter
          (fun e => ∀ l ∈ (none : Option LiveDetectionEvent), recency l < recency e) =
          cameraEvents rows cameraId :=
        List.filter_eq_self.mpr fun e _ => decide_eq_true fun _ hl => nomatch hl
      rw [hall]
      exact congrArg Except.ok (latest_eq_take _ _)
  | some last =>
      have hbehind : (cameraEvents rows cameraId).filter
          (fun e => ∀ l ∈ some last, recency l < recency e) =
          (cameraEvents rows cameraId).filter fun e =>
            e.occurredAt < last.occurredAt ∨
              (e.occurredAt = last.occurredAt ∧ e.eventId < last.eventId) := by
        refine List.filter_congr fun e _ => decide_eq_decide.mpr ?_
        rw [← recency_lt]
        exact ⟨fun h => h last rfl, fun h l hl => Option.mem_some.mp hl ▸ h⟩
      rw [hbehind]
      exact congrArg Except.ok (latest_eq_take _ _)

/-- The reader gets every event of the camera once, from the latest to the earliest. -/
theorem event_pages_complete (rows : Table LiveDetectionEvent.eventId) (cameraId : String)
    (limit : Int) (hlimit : 1 ≤ limit) :
    ∃ pages : List (List LiveDetectionEvent),
      (∀ fuel, (cameraEvents rows cameraId).length < fuel →
        loop (readPass (nextPage rows cameraId limit)) fuel (none, []) = some (.ok pages)) ∧
      pages.flatten.Perm (cameraEvents rows cameraId) ∧
      pages.flatten.Pairwise (fun e f => f.occurredAt < e.occurredAt ∨
        (f.occurredAt = e.occurredAt ∧ f.eventId < e.eventId)) ∧
      (∀ page ∈ pages, page ≠ []) ∧
      pages.length ≤ ⌈((cameraEvents rows cameraId).length : ℚ) / limit⌉₊ := by
  obtain ⟨pages, hpages, hloop⟩ :=
    readAll_of_pages nodup_recency (show 0 < limit.toNat by omega) (nextPage_eq hlimit)
  refine ⟨pages, hloop, ?_, ?_, hpages.nonempty, ?_⟩
  · rw [hpages.flatten]
    exact ordered_perm
  · rw [hpages.flatten]
    exact (pairwise_ordered nodup_recency).imp recency_lt.mp
  · have hcast : ((limit.toNat : Nat) : ℚ) = limit := by
      exact_mod_cast Int.toNat_of_nonneg (show 0 ≤ limit by omega)
    rw [← hcast]
    exact hpages.count

section Sample

def pageCamera : String := "019b0000-0000-7000-8000-000000000001"

/-- An event of an unknown face. -/
def pageEvent (eventId : String) (track occurredAt : Nat) : LiveDetectionEvent where
  eventId := eventId
  cameraId := pageCamera
  runId := "019b0000-0000-7000-8000-000000000003"
  nativeTrackId := track
  identityEpoch := 1
  eventType := .unknown
  faceId := none
  nameSnapshot := none
  identityVersionSnapshot := none
  matchScore := none
  nearestKnownScore := none
  detectorConfidence := 1
  firstSeenAt := occurredAt
  lastSeenAt := occurredAt
  occurredAt := occurredAt
  boundingBox := []
  landmarks := []
  quality := ⟨0, 0, 0⟩
  snapshotStatus := .failed
  snapshotBucket := none
  snapshotObjectKey := none

/-- Three events of one instant. -/
def tiedEvents : Table LiveDetectionEvent.eventId where
  rows := [pageEvent "019b0000-0000-7000-8000-00000000000b" 1 7,
    pageEvent "019b0000-0000-7000-8000-00000000000c" 2 7,
    pageEvent "019b0000-0000-7000-8000-00000000000a" 3 7]
  nodup := by decide

theorem tied_events_paged :
    ∃ pages : List (List LiveDetectionEvent),
      loop (readPass (nextPage tiedEvents pageCamera 2)) 4 (none, []) = some (.ok pages) ∧
      pages.flatten.Perm (cameraEvents tiedEvents pageCamera) := by
  obtain ⟨pages, hloop, hperm, -⟩ := event_pages_complete tiedEvents pageCamera 2 (by decide)
  exact ⟨pages, hloop 4 (by decide), hperm⟩

end Sample

end LiveEventRepository

end Mvision.Live
