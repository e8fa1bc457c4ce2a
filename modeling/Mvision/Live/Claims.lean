import Mvision.Live.SessionRepository

/-!
# Live claims are work-conserving

`LiveRunRepository.claim` looks at one camera only, and misses no work because
at most one camera is wanted; `LiveSessionRepository.claim_generation` walks
over all wanted generations in order.
-/

namespace Mvision.Live

open Mvision.Library

/-- The camera is to run. -/
def LiveCamera.Wanted (camera : LiveCamera) : Prop :=
  camera.desiredState = .running ∧ camera.isActive = true ∧ camera.deletedAt = none

/-- The latest run is absent, terminal, or holds no lease that expires after now. -/
def LiveCameraRun.Takeable (now : Timestamp) (latest : Option LiveCameraRun) : Prop :=
  ∀ run, latest = some run → run.runtimeState.isTerminal = true ∨
    ∀ t, run.leaseExpiresAt = some t → t ≤ now

/-- The generation is to run and its media are there. -/
def LiveSessionGeneration.Wanted (g : LiveSessionGeneration) : Prop :=
  g.desiredState = .running ∧ g.mediaState = .ready

/-- The latest run is absent, terminal, or holds no lease that expires after now. -/
def LiveSessionRun.Takeable (now : Timestamp) (latest : Option LiveSessionRun) : Prop :=
  ∀ run, latest = some run → run.runtimeState.isTerminal = true ∨
    ∀ t, run.leaseExpiresAt = some t → t ≤ now

/-! ## Cameras -/

section Camera

open LiveRunRepository

theorem camera_takeable_iff {now : Timestamp} {latest : Option LiveCameraRun} :
    LiveCameraRun.Takeable now latest ↔ latest.any (·.blocks now) = false := by
  cases latest with
  | none => simp [LiveCameraRun.Takeable]
  | some run =>
      cases ht : run.runtimeState.isTerminal <;>
        simp [LiveCameraRun.Takeable, LiveCameraRun.blocks, leaseHeld_eq_false_iff, ht]

theorem claimable_none_iff {camera : LiveCamera} :
    claimable none camera = true ↔ camera.Wanted := by
  simp [claimable, LiveCamera.Wanted, and_assoc]

variable {w τ : String} {now : Timestamp} {lease : Int} {runId tp : String} {db : CameraDb}

/-- The unique index makes the one camera that `LIMIT 1` returns the only one. -/
theorem first_camera {camera : LiveCamera} (hm : camera ∈ db.cameras.table.rows)
    (hw : camera.Wanted) :
    first (byThen LiveCamera.updatedAt LiveCamera.cameraId) (claimable none)
      db.cameras.table.rows = some camera := by
  obtain ⟨chosen, hchosen⟩ : ∃ chosen, first (byThen LiveCamera.updatedAt LiveCamera.cameraId)
      (claimable none) db.cameras.table.rows = some chosen :=
    first_isSome_iff.mpr ⟨camera, hm, claimable_none_iff.mpr hw⟩
  obtain ⟨hcm, hcw⟩ := first_mem hchosen
  rw [claimable_none_iff] at hcw
  rw [hchosen, db.cameras.uqLiveSingleRunning chosen hcm camera hm ⟨hcw.1, hcw.2.2⟩
    ⟨hw.1, hw.2.2⟩]

theorem camera_claim_iff :
    (∃ run, (claim none w τ now lease runId tp db).1 = some run) ↔
      ∃ camera ∈ db.cameras.table.rows, camera.Wanted ∧
        LiveCameraRun.Takeable now (latestForCamera camera.cameraId db.runs) := by
  constructor
  · rintro ⟨run, h⟩
    obtain ⟨camera, hfirst, hfree, -, -⟩ := claim_some h
    obtain ⟨hm, hw⟩ := first_mem hfirst
    exact ⟨camera, hm, claimable_none_iff.mp hw, camera_takeable_iff.mpr hfree⟩
  · rintro ⟨camera, hm, hw, ht⟩
    rw [camera_takeable_iff] at ht
    unfold claim
    rw [first_camera hm hw]
    simp [ht]

/-- What a claim that returns a run does to the database. -/
theorem camera_claim_effect {run : LiveCameraRun}
    (h : (claim none w τ now lease runId tp db).1 = some run)
    (hfresh : runId ∉ db.runs.rows.map LiveCameraRun.runId) :
    (∃ camera ∈ db.cameras.table.rows, camera.Wanted ∧ run.cameraId = camera.cameraId ∧
      LiveCameraRun.Takeable now (latestForCamera camera.cameraId db.runs)) ∧
    (claim none w τ now lease runId tp db).2.cameras = db.cameras ∧
    (claim none w τ now lease runId tp db).2.runs.rows =
      db.runs.rows.map (fun r =>
        if latestForCamera run.cameraId db.runs = some r ∧ r.runtimeState.isTerminal = false then
          { r with
            runtimeState := .failed
            errorCode := some "LIVE_WORKER_LEASE_EXPIRED"
            stoppedAt := some now
            workerId := none
            leaseToken := none
            leaseExpiresAt := none }
        else r) ++ [run] := by
  obtain ⟨camera, hfirst, hfree, hrun, hdb⟩ := claim_some h
  obtain ⟨hm, hw⟩ := first_mem hfirst
  refine ⟨⟨camera, hm, claimable_none_iff.mp hw, by rw [hrun]; rfl,
    camera_takeable_iff.mpr hfree⟩, by rw [hdb], claim_rows h hfresh⟩

end Camera

/-! ## Generations -/

section Generation

open LiveSessionRepository

theorem session_takeable_iff {now : Timestamp} {runs : SessionRuns} {g : LiveSessionGeneration} :
    LiveSessionRun.Takeable now (latestRun g.generationId runs) ↔ g.available now runs = true := by
  unfold LiveSessionGeneration.available
  cases latestRun g.generationId runs with
  | none => simp [LiveSessionRun.Takeable]
  | some run =>
      cases ht : run.runtimeState.isTerminal <;>
        simp [LiveSessionRun.Takeable, LiveSessionRun.blocks, sessionLeaseHeld_eq_false_iff, ht]

variable {w τ : String} {now : Timestamp} {lease : Int} {runId : String} {db : SessionDb}

theorem generation_claim_iff :
    (∃ run, (claimGeneration w τ now lease runId db).1 = some run) ↔
      ∃ g ∈ db.generations.rows, g.Wanted ∧
        LiveSessionRun.Takeable now (latestRun g.generationId db.runs) := by
  constructor
  · rintro ⟨run, h⟩
    obtain ⟨g, hfind, -, -⟩ := claimGeneration_some h
    obtain ⟨hm, hw⟩ := mem_candidates.mp (List.mem_of_find?_eq_some hfind)
    exact ⟨g, hm, hw, session_takeable_iff.mpr (List.find?_some hfind)⟩
  · rintro ⟨g, hm, hw, ht⟩
    cases hc : (claimGeneration w τ now lease runId db).1 with
    | some run => exact ⟨run, rfl⟩
    | none =>
        have hnone := (claimGeneration_none hc).1
        have hav := List.find?_eq_none.mp hnone g (mem_candidates.mpr ⟨hm, hw⟩)
        exact absurd (session_takeable_iff.mp ht) hav

/-- What a claim that returns a run does to the database. -/
theorem generation_claim_effect {run : LiveSessionRun}
    (h : (claimGeneration w τ now lease runId db).1 = some run)
    (hfresh : runId ∉ db.runs.rows.map LiveSessionRun.runId) :
    (∃ g ∈ db.generations.rows, g.Wanted ∧ run.generationId = g.generationId ∧
      LiveSessionRun.Takeable now (latestRun g.generationId db.runs) ∧
      ∀ g' ∈ db.generations.rows, g'.Wanted →
        LiveSessionRun.Takeable now (latestRun g'.generationId db.runs) →
          byThen LiveSessionGeneration.createdAt LiveSessionGeneration.generationId g g') ∧
    (claimGeneration w τ now lease runId db).2.sessions = db.sessions ∧
    (claimGeneration w τ now lease runId db).2.generations.rows =
      db.generations.rows.map (fun g =>
        if g.generationId = run.generationId then
          { g with
            runtimeState := .starting
            startedAt := g.startedAt <|> some now }
        else g) ∧
    (claimGeneration w τ now lease runId db).2.runs.rows =
      db.runs.rows.map (fun r =>
        if latestRun run.generationId db.runs = some r ∧ r.runtimeState.isTerminal = false then
          { r with
            runtimeState := .failed
            errorCode := some "LIVE_WORKER_LEASE_EXPIRED"
            stoppedAt := some now
            workerId := none
            leaseToken := none
            leaseExpiresAt := none }
        else r) ++ [run] := by
  obtain ⟨g, hfind, hrun, hdb⟩ := claimGeneration_some h
  obtain ⟨hm, hw⟩ := mem_candidates.mp (List.mem_of_find?_eq_some hfind)
  have hgen : run.generationId = g.generationId := by rw [hrun]; rfl
  refine ⟨⟨g, hm, hw, hgen, session_takeable_iff.mpr (List.find?_some hfind), ?_⟩, ?_, ?_, ?_⟩
  · intro g' hm' hw' ht'
    refine find?_sorted_le hfind ?_ (session_takeable_iff.mp ht')
    exact List.mem_filter.mpr ⟨hm', by simpa [claimable, LiveSessionGeneration.Wanted] using hw'⟩
  · rw [hdb]
    rfl
  · rw [hdb, hgen]
    rfl
  · rw [hdb, startRun_rows hfresh, ← hrun, hgen]
    rfl

end Generation

/-- A claim returns a run exactly if there is something to run; it then takes
the first candidate, adds its run and otherwise only fails the expired one,
whose lease it clears (and starts the claimed generation); a claim that returns
nothing changes nothing. -/
theorem live_claims_work_conserving (w τ : String) (now : Timestamp) (lease : Int)
    (runId tp : String) :
    (∀ db : CameraDb,
      ((∃ run, (LiveRunRepository.claim none w τ now lease runId tp db).1 = some run) ↔
        ∃ camera ∈ db.cameras.table.rows, camera.Wanted ∧
          LiveCameraRun.Takeable now
            (LiveRunRepository.latestForCamera camera.cameraId db.runs)) ∧
      ((LiveRunRepository.claim none w τ now lease runId tp db).1 = none →
        (LiveRunRepository.claim none w τ now lease runId tp db).2 = db) ∧
      ∀ run, (LiveRunRepository.claim none w τ now lease runId tp db).1 = some run →
        runId ∉ db.runs.rows.map LiveCameraRun.runId →
          (∃ camera ∈ db.cameras.table.rows, camera.Wanted ∧ run.cameraId = camera.cameraId ∧
            LiveCameraRun.Takeable now
              (LiveRunRepository.latestForCamera camera.cameraId db.runs)) ∧
          (LiveRunRepository.claim none w τ now lease runId tp db).2.cameras = db.cameras ∧
          (LiveRunRepository.claim none w τ now lease runId tp db).2.runs.rows =
            db.runs.rows.map (fun r =>
              if LiveRunRepository.latestForCamera run.cameraId db.runs = some r ∧
                  r.runtimeState.isTerminal = false then
                { r with
                  runtimeState := .failed
                  errorCode := some "LIVE_WORKER_LEASE_EXPIRED"
                  stoppedAt := some now
                  workerId := none
                  leaseToken := none
                  leaseExpiresAt := none }
              else r) ++ [run]) ∧
    ∀ db : SessionDb,
      ((∃ run, (LiveSessionRepository.claimGeneration w τ now lease runId db).1 = some run) ↔
        ∃ g ∈ db.generations.rows, g.Wanted ∧
          LiveSessionRun.Takeable now
            (LiveSessionRepository.latestRun g.generationId db.runs)) ∧
      ((LiveSessionRepository.claimGeneration w τ now lease runId db).1 = none →
        (LiveSessionRepository.claimGeneration w τ now lease runId db).2 = db) ∧
      ∀ run, (LiveSessionRepository.claimGeneration w τ now lease runId db).1 = some run →
        runId ∉ db.runs.rows.map LiveSessionRun.runId →
          (∃ g ∈ db.generations.rows, g.Wanted ∧ run.generationId = g.generationId ∧
            LiveSessionRun.Takeable now
              (LiveSessionRepository.latestRun g.generationId db.runs) ∧
            ∀ g' ∈ db.generations.rows, g'.Wanted →
              LiveSessionRun.Takeable now
                (LiveSessionRepository.latestRun g'.generationId db.runs) →
                  byThen LiveSessionGeneration.createdAt LiveSessionGeneration.generationId g g') ∧
          (LiveSessionRepository.claimGeneration w τ now lease runId db).2.sessions =
            db.sessions ∧
          (LiveSessionRepository.claimGeneration w τ now lease runId db).2.generations.rows =
            db.generations.rows.map (fun g =>
              if g.generationId = run.generationId then
                { g with
                  runtimeState := .starting
                  startedAt := g.startedAt <|> some now }
              else g) ∧
          (LiveSessionRepository.claimGeneration w τ now lease runId db).2.runs.rows =
            db.runs.rows.map (fun r =>
              if LiveSessionRepository.latestRun run.generationId db.runs = some r ∧
                  r.runtimeState.isTerminal = false then
                { r with
                  runtimeState := .failed
                  errorCode := some "LIVE_WORKER_LEASE_EXPIRED"
                  stoppedAt := some now
                  workerId := none
                  leaseToken := none
                  leaseExpiresAt := none }
              else r) ++ [run] :=
  ⟨fun _ => ⟨camera_claim_iff, claim_none, fun _ => camera_claim_effect⟩,
    fun _ => ⟨generation_claim_iff, fun h => (claimGeneration_none h).2,
      fun _ => generation_claim_effect⟩⟩

/-- The older generation is leased, so the claim takes the younger one, fails its
abandoned run and adds its second. -/
theorem live_claims_work_conserving_second :
    let held : LiveSessionRun :=
      ⟨"run-1", "older", 1, .active, some "worker-1", some "lease-1", some 100, 0, none, none⟩
    let abandoned : LiveSessionRun :=
      ⟨"run-2", "younger", 1, .active, some "worker-3", some "lease-2", some 4, 2, none, none⟩
    let older : LiveSessionGeneration :=
      ⟨"older", "session-1", 1, .running, .active, .ready, 0, some 0, none, none⟩
    let younger : LiveSessionGeneration :=
      ⟨"younger", "session-2", 1, .running, .active, .ready, 1, some 2, none, none⟩
    let db : SessionDb :=
      ⟨.empty, ⟨[older, younger], by decide⟩, ⟨[held, abandoned], by decide⟩⟩
    ∃ run, (LiveSessionRepository.claimGeneration "worker-2" "lease-3" 5 10 "run-3" db).1 =
        some run ∧
      (LiveSessionRepository.claimGeneration "worker-2" "lease-3" 5 10 "run-3" db).2.runs.rows =
        [held,
          ⟨"run-2", "younger", 1, .failed, none, none, none, 2, some 5,
            some "LIVE_WORKER_LEASE_EXPIRED"⟩,
          run] := by
  intro held abandoned older younger db
  obtain ⟨-, hgenerations⟩ :=
    live_claims_work_conserving "worker-2" "lease-3" 5 10 "run-3" "traceparent"
  obtain ⟨hiff, -, heffect⟩ := hgenerations db
  have hlatest : LiveSessionRepository.latestRun "younger" db.runs = some abandoned := rfl
  obtain ⟨run, hrun⟩ := hiff.mpr ⟨younger, by simp [db], ⟨rfl, rfl⟩, fun latest h => by
    obtain rfl := Option.some.inj (hlatest.symm.trans h)
    exact .inr fun t ht => by
      obtain rfl : (4 : Timestamp) = t := Option.some.inj ht
      decide⟩
  obtain ⟨-, -, -, hrows⟩ := heffect run hrun (by decide)
  have hyounger : run.generationId = "younger" := by
    have hfound : (LiveSessionRepository.claimGeneration "worker-2" "lease-3" 5 10 "run-3"
        db).1.map (·.generationId) = some "younger" := by decide
    simpa [hrun] using hfound
  rw [hyounger, hlatest] at hrows
  refine ⟨run, hrun, ?_⟩
  rw [hrows]
  rfl

end Mvision.Live
