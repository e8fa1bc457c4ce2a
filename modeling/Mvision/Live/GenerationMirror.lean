import Mvision.Live.SessionLeases

/-!
# The generation row mirrors its latest run

Every operation that changes the state of a run changes the row of its
generation in the same transaction; a stop or a reconfiguration only moves the
row to `STOPPING`.
-/

namespace Mvision.Live

open Mvision.Library
open LiveSessionRepository

/-- The row shows the state of its latest run, or that it is to be stopped. -/
def LiveSessionGeneration.Mirrors (g : LiveSessionGeneration) (state : RuntimeState) : Prop :=
  g.runtimeState = state ∨ (g.runtimeState = .stopping ∧ g.desiredState = .stopped)

def GenerationsMirror (db : SessionDb) : Prop :=
  ∀ g ∈ db.generations.rows, ∀ run, latestRun g.generationId db.runs = some run →
    g.Mirrors run.runtimeState

/-- The foreign key of `live_session_run`. -/
def RunsReference (db : SessionDb) : Prop :=
  ∀ run ∈ db.runs.rows, run.generationId ∈
    db.generations.rows.map LiveSessionGeneration.generationId

/-- The operation is no restart: `set_desired_state` is called with `'stopped'`. -/
def SessionOp.stopsOnly : SessionOp → Prop
  | .setDesiredState _ desired => desired = .stopped
  | _ => True

theorem Mirrors.stop {g : LiveSessionGeneration} {state : RuntimeState} (h : g.Mirrors state) :
    g.stop.Mirrors state := by
  by_cases ht : g.runtimeState.isTerminal = true
  · refine h.imp (fun he => ?_) fun he => ?_
    · simpa [LiveSessionGeneration.stop, ht] using he
    · simp [he.1, RuntimeState.isTerminal] at ht
  · exact Or.inr ⟨by simp [LiveSessionGeneration.stop, ht], rfl⟩

/-! ## The foreign key -/

theorem RunsReference.of_keys {db db' : SessionDb} (h : RunsReference db)
    (hkeys : ∀ k ∈ db.generations.rows.map LiveSessionGeneration.generationId,
      k ∈ db'.generations.rows.map LiveSessionGeneration.generationId)
    (hruns : ∀ run' ∈ db'.runs.rows, ∃ run ∈ db.runs.rows,
      run'.generationId = run.generationId) : RunsReference db' := by
  intro run' hrun'
  obtain ⟨run, hrun, he⟩ := hruns run' hrun'
  rw [he]
  exact hkeys _ (h run hrun)

theorem mem_keys_insert {t : Generations} {g : LiveSessionGeneration} {k : String}
    (h : k ∈ t.rows.map LiveSessionGeneration.generationId) :
    k ∈ (t.insert g).rows.map LiveSessionGeneration.generationId := by
  by_cases hg : g.generationId ∈ t.rows.map LiveSessionGeneration.generationId
  · rwa [Table.insert_eq_self hg]
  · rw [Table.insert_rows hg, List.map_append]
    exact List.mem_append_left _ h

theorem mem_keys_mapRows {t : Generations} {f : LiveSessionGeneration → LiveSessionGeneration}
    {hf} {k : String} (h : k ∈ t.rows.map LiveSessionGeneration.generationId) :
    k ∈ (t.mapRows f hf).rows.map LiveSessionGeneration.generationId := by
  rwa [Table.mapRows_keys]

theorem mem_keys_update {t : Generations} {j : String}
    {f : LiveSessionGeneration → LiveSessionGeneration}
    (hf : ∀ g, (f g).generationId = g.generationId) {k : String}
    (h : k ∈ t.rows.map LiveSessionGeneration.generationId) :
    k ∈ (t.update j f hf).rows.map LiveSessionGeneration.generationId := by
  unfold Table.update
  exact mem_keys_mapRows h

/-! ## Operations on the generations -/

/-- A change of the generations alone: each row comes from one that mirrored no
more than it does, or has no run yet. -/
theorem GenerationsMirror.of_generations {db db' : SessionDb} (h : GenerationsMirror db)
    (hruns : db'.runs = db.runs)
    (hgen : ∀ g' ∈ db'.generations.rows,
      (∃ g ∈ db.generations.rows, g.generationId = g'.generationId ∧
        ∀ state, g.Mirrors state → g'.Mirrors state) ∨
      ∀ run ∈ db.runs.rows, run.generationId ≠ g'.generationId) : GenerationsMirror db' := by
  intro g' hg' run hl
  rw [hruns] at hl
  rcases hgen g' hg' with ⟨g, hg, hid, hmir⟩ | hnone
  · exact hmir _ (h g hg run (hid ▸ hl))
  · obtain ⟨hrun, hid⟩ := latestRun_mem hl
    exact absurd hid (hnone run hrun)

theorem createGeneration_mirror {db : SessionDb} {sessionId generationId : String}
    {generation : Nat} {createdAt : Timestamp} {result : LiveSessionGeneration × SessionDb}
    (hres : createGeneration sessionId generation generationId createdAt db = .ok result)
    (hfresh : generationId ∉ db.generations.rows.map LiveSessionGeneration.generationId)
    (href : RunsReference db) (h : GenerationsMirror db) :
    RunsReference result.2 ∧ GenerationsMirror result.2 := by
  obtain ⟨hruns, hgens⟩ := createGeneration_ok hres
  have hnew : ∀ run ∈ db.runs.rows, run.generationId ≠ generationId :=
    fun run hrun he => hfresh (he ▸ href run hrun)
  constructor
  · refine href.of_keys ?_ ?_
    · intro k hk
      rcases hgens with he | ⟨latest, he⟩
      · rw [he]
        exact mem_keys_insert hk
      · rw [he]
        exact mem_keys_insert (mem_keys_update _ hk)
    · intro run hrun
      exact ⟨run, hruns ▸ hrun, rfl⟩
  · refine h.of_generations hruns ?_
    intro g' hg'
    rcases hgens with he | ⟨latest, he⟩
    · rw [he] at hg'
      rcases Table.mem_insert hg' with hold | ⟨rfl, -⟩
      · exact Or.inl ⟨g', hold, rfl, fun _ hm => hm⟩
      · exact Or.inr hnew
    · rw [he] at hg'
      rcases Table.mem_insert hg' with hold | ⟨rfl, -⟩
      · rcases Table.mem_update.mp hold with ⟨hg, -⟩ | ⟨g, hg, -, rfl⟩
        · exact Or.inl ⟨g', hg, rfl, fun _ hm => hm⟩
        · exact Or.inl ⟨g, hg, rfl, fun _ => Mirrors.stop⟩
      · exact Or.inr hnew

/-- Rewriting generations so that each mirrors what it mirrored before. -/
theorem updateWhere_mirror {db db' : SessionDb} {p : LiveSessionGeneration → Bool}
    {f : LiveSessionGeneration → LiveSessionGeneration}
    (hf : ∀ g, (f g).generationId = g.generationId) (hruns : db'.runs = db.runs)
    (hgens : db'.generations = db.generations.updateWhere p f hf)
    (hm : ∀ g state, g.Mirrors state → (f g).Mirrors state)
    (href : RunsReference db) (h : GenerationsMirror db) :
    RunsReference db' ∧ GenerationsMirror db' := by
  constructor
  · refine href.of_keys ?_ fun run hrun => ⟨run, hruns ▸ hrun, rfl⟩
    intro k hk
    rw [hgens]
    exact mem_keys_mapRows hk
  · refine h.of_generations hruns ?_
    intro g' hg'
    rw [hgens, Table.updateWhere_rows] at hg'
    obtain ⟨g, hg, rfl⟩ := List.mem_map.mp hg'
    by_cases hp : p g = true
    · rw [if_pos hp]
      exact Or.inl ⟨g, hg, (hf g).symm, hm g⟩
    · rw [if_neg hp]
      exact Or.inl ⟨g, hg, rfl, fun _ h => h⟩

/-! ## Operations on the runs -/

theorem session_fence_step {s : SessionState} (hs : SessionInv s)
    (runId generationId : String) (attempt : Nat) (w : String) (τ : Option String)
    (now : Timestamp) {values : LiveSessionRun → LiveSessionRun}
    (hv : ∀ run : LiveSessionRun, run.runtimeState.isTerminal = false →
      sessionAttempts.Step run (values run)) :
    ∀ run ∈ s.db.runs.rows, sessionAttempts.Step run
      (if run.fence runId generationId attempt w τ now then values run else run) := by
  intro run hrun
  split
  · rename_i hf
    exact hv run (sessionFence_open (hs.closed_free run hrun) hf)
  · exact Or.inl rfl

theorem runs_owner_of_map {rows : List LiveSessionRun} {f : LiveSessionRun → LiveSessionRun}
    (hf : ∀ run ∈ rows, sessionAttempts.Step run (f run)) :
    ∀ run' ∈ rows.map f, ∃ run ∈ rows, run'.generationId = run.generationId := by
  intro run' hrun'
  obtain ⟨run, hrun, rfl⟩ := List.mem_map.mp hrun'
  exact ⟨run, hrun, (hf run hrun).owner_eq⟩

/-- `renew_run` moves an expiry and no state. -/
theorem renewRun_mirror {s : SessionState} (hs : SessionInv s) {runId w τ generationId : String}
    {now expires : Timestamp} {attempt : Nat} (href : RunsReference s.db)
    (h : GenerationsMirror s.db) :
    RunsReference (renewRun runId w τ now expires generationId attempt s.db).2 ∧
      GenerationsMirror (renewRun runId w τ now expires generationId attempt s.db).2 := by
  have hrenew : ∀ run : LiveSessionRun, run.runtimeState.isTerminal = false →
      sessionAttempts.Step run { run with leaseExpiresAt := some expires } :=
    fun run ho => Or.inr ⟨ho, rfl, rfl, rfl, Or.inl ⟨ho, rfl⟩⟩
  have hstep := session_fence_step hs runId generationId attempt w (some τ) now hrenew
  refine ⟨href.of_keys (fun _ hk => hk) (runs_owner_of_map hstep), ?_⟩
  intro g hg run' hl
  have hl' : sessionAttempts.latest g.generationId _ = some run' := hl
  rw [renewRun, Table.updateWhere_rows, hs.latest_map hstep] at hl'
  obtain ⟨run, hrun, rfl⟩ := Option.map_eq_some_iff.mp hl'
  have hm := h g hg run hrun
  split
  · exact hm
  · exact hm

/-- `update_run_state` and `finish_run` write the same state to both rows. -/
theorem fencedMirror_mirror {s : SessionState} (hs : SessionInv s)
    {runId generationId w : String} {attempt : Nat} {τ : Option String} {now : Timestamp}
    {values : LiveSessionRun → LiveSessionRun} {hv}
    {copy : LiveSessionGeneration → LiveSessionGeneration} {hc} {state : RuntimeState}
    (hvalues : ∀ run, (values run).runtimeState = state)
    (hcopy : ∀ g, (copy g).runtimeState = state)
    (hopen : ∀ run : LiveSessionRun, run.runtimeState.isTerminal = false →
      sessionAttempts.Step run (values run))
    (href : RunsReference s.db) (h : GenerationsMirror s.db) :
    RunsReference (fencedMirror (LiveSessionRun.fence runId generationId attempt w τ now)
        values hv copy hc s.db).2 ∧
      GenerationsMirror (fencedMirror (LiveSessionRun.fence runId generationId attempt w τ now)
        values hv copy hc s.db).2 := by
  have hstep := session_fence_step hs runId generationId attempt w τ now hopen
  have hrows : (fencedMirror (LiveSessionRun.fence runId generationId attempt w τ now)
        values hv copy hc s.db).2.runs.rows =
      s.db.runs.rows.map (fun run =>
        if run.fence runId generationId attempt w τ now then values run else run) :=
    fencedMirror_rows
  cases hfind : s.db.runs.rows.find?
      (LiveSessionRun.fence runId generationId attempt w τ now) with
  | none =>
      have hsame : fencedMirror (LiveSessionRun.fence runId generationId attempt w τ now)
          values hv copy hc s.db = (false, s.db) := by
        simp [fencedMirror, hfind]
      rw [hsame]
      exact ⟨href, h⟩
  | some run =>
      have hrun : run ∈ s.db.runs.rows := List.mem_of_find?_eq_some hfind
      have hfence := List.find?_some hfind
      have hrunopen := sessionFence_open (hs.closed_free run hrun) hfence
      constructor
      · refine href.of_keys ?_ ?_
        · intro k hk
          unfold fencedMirror
          rw [hfind]
          exact mem_keys_update hc hk
        · rw [hrows]
          exact runs_owner_of_map hstep
      · intro g' hg' run' hl
        have hl' : sessionAttempts.latest g'.generationId _ = some run' := hl
        rw [hrows, hs.latest_map hstep] at hl'
        obtain ⟨last, hlast, rfl⟩ := Option.map_eq_some_iff.mp hl'
        have hg'' : g' ∈ (s.db.generations.update run.generationId copy hc).rows := by
          unfold fencedMirror at hg'
          rwa [hfind] at hg'
        rcases Table.mem_update.mp hg'' with ⟨hg, hne⟩ | ⟨g, hg, hid, rfl⟩
        · -- the fenced run belongs to another generation
          have hown : last.generationId = g'.generationId := (Attempt.latest_mem hlast).2
          have hno : last.fence runId generationId attempt w τ now = false := by
            by_contra hf
            rw [Bool.not_eq_false, sessionFence_iff] at hf
            have hkey : last.runId = run.runId :=
              hf.1.trans (sessionFence_iff.mp hfence).1.symm
            obtain rfl : last = run :=
              Table.eq_of_mem (Attempt.latest_mem hlast).1 hrun hkey
            exact hne hown.symm
          rw [if_neg (by simp [hno])]
          exact h g' hg last hlast
        · -- an open run is the latest of its generation
          have hlatest := LeasedAttempt.LeaseLedger.ledger hs |>.latest_of_open hrun hrunopen
          rw [hc, hid] at hlast
          obtain rfl : last = run := Option.some.inj (hlast.symm.trans hlatest)
          rw [if_pos hfence]
          exact Or.inl ((hcopy g).trans (hvalues last).symm)

/-- A claim starts the generation together with its new run. -/
theorem startRun_mirror {s : SessionState} (hs : SessionInv s) {w τ : String}
    {now : Timestamp} {lease : Int} {runId : String} {g : LiveSessionGeneration}
    (hg : g ∈ s.db.generations.rows)
    (hfresh : runId ∉ s.db.runs.rows.map LiveSessionRun.runId)
    (href : RunsReference s.db) (h : GenerationsMirror s.db) :
    RunsReference (startRun w τ now lease runId g s.db).2 ∧
      GenerationsMirror (startRun w τ now lease runId g s.db).2 := by
  have hrows : (startRun w τ now lease runId g s.db).2.runs.rows = _ := startRun_rows hfresh
  have hstep : ∀ r ∈ s.db.runs.rows, sessionAttempts.Step r
      (if latestRun g.generationId s.db.runs = some r ∧ r.runtimeState.isTerminal = false then
        r.expire now else r) := by
    intro r _
    exact LeasedAttempt.closing_step sessionExpire_step r
  have hafter : sessionAttempts.LeaseLedger (startRun w τ now lease runId g s.db).2.runs.rows
      (fun t => t ∈ s.issued ∨ t = τ) :=
    LeasedAttempt.LeaseLedger.advance hs (startRun_advance hfresh) (fun _ => Or.inl)
      fun _ ht => Or.inr (Option.some.inj ht).symm
  constructor
  · intro run' hrun'
    rw [hrows] at hrun'
    refine mem_keys_update (LiveSessionGeneration.start_generationId now) ?_
    rcases List.mem_append.mp hrun' with hold | hnew
    · obtain ⟨run, hrun, he⟩ := runs_owner_of_map hstep run' hold
      exact he ▸ href run hrun
    · rw [List.mem_singleton.mp hnew]
      exact List.mem_map_of_mem hg
  · intro g' hg' run' hl
    have hnewmem : (startRun w τ now lease runId g s.db).1 ∈
        (startRun w τ now lease runId g s.db).2.runs.rows := by
      rw [hrows]
      exact List.mem_append_right _ (List.mem_singleton.mpr rfl)
    have hg'' : g' ∈ (s.db.generations.update g.generationId (LiveSessionGeneration.start now)
        (LiveSessionGeneration.start_generationId now)).rows := hg'
    rcases Table.mem_update.mp hg'' with ⟨hgm, hne⟩ | ⟨g₀, -, hid, rfl⟩
    · -- the latest run of another generation is untouched
      have hl' : sessionAttempts.latest g'.generationId _ = some run' := hl
      rw [hrows, Attempt.Ledger.latest_append_other (fun he => hne he.symm),
        hs.latest_map hstep] at hl'
      obtain ⟨last, hlast, rfl⟩ := Option.map_eq_some_iff.mp hl'
      have hown : last.generationId = g'.generationId := (Attempt.latest_mem hlast).2
      rw [if_neg]
      · exact h g' hgm last hlast
      · rintro ⟨hlat, -⟩
        exact hne (hown.symm.trans (latestRun_mem hlat).2)
    · have hlatest : latestRun g.generationId (startRun w τ now lease runId g s.db).2.runs =
          some (startRun w τ now lease runId g s.db).1 :=
        hafter.ledger.latest_of_open hnewmem rfl
      have hl' : latestRun g.generationId (startRun w τ now lease runId g s.db).2.runs =
          some run' := hid ▸ hl
      obtain rfl := Option.some.inj (hlatest.symm.trans hl')
      exact Or.inl rfl

/-! ## Runs -/

structure MirrorInv (s : SessionState) : Prop where
  inv : SessionInv s
  reference : RunsReference s.db
  mirror : GenerationsMirror s.db

theorem mirrorInv_init {s : SessionState} (h : sessionSystem.init s) : MirrorInv s := by
  have hnil : s.db.runs.rows = [] := by rw [h.1]; rfl
  refine ⟨sessionInv_init h, by simp [RunsReference, hnil], ?_⟩
  intro g _ run hl
  have := (latestRun_mem hl).1
  simp [hnil] at this

/-- The step lemma of the mirror. -/
theorem mirrorInv_next {s : SessionState} {e : SessionEvent} (he : sessionSystem.enabled s e)
    (hstop : e.op.stopsOnly) (hs : MirrorInv s) : MirrorInv (e.next s) := by
  have hinv : SessionInv (e.next s) := session_fenced.preserved s e he hs.inv
  obtain ⟨hi, href, hm⟩ := hs
  suffices hboth : RunsReference (e.next s).db ∧ GenerationsMirror (e.next s).db from
    ⟨hinv, hboth.1, hboth.2⟩
  obtain ⟨now, op⟩ := e
  cases op with
  | createSession => exact ⟨href, hm⟩
  | createGeneration sessionId generation generationId createdAt =>
      simp only [SessionEvent.next, SessionOp.exec]
      cases hres : LiveSessionRepository.createGeneration sessionId generation generationId
          createdAt s.db with
      | error code => exact ⟨href, hm⟩
      | ok result => exact createGeneration_mirror hres he.2 href hm
  | setMediaState generationId media code =>
      have hruns : (setMediaState generationId media code s.db).2.runs = s.db.runs := rfl
      exact updateWhere_mirror (LiveSessionGeneration.media_generationId media code) hruns rfl
        (fun _ _ h => h) href hm
  | setDesiredState sessionId desired =>
      obtain rfl : desired = .stopped := hstop
      show RunsReference (setDesiredState sessionId .stopped now s.db).2 ∧
        GenerationsMirror (setDesiredState sessionId .stopped now s.db).2
      rcases setDesiredState_generations sessionId .stopped now s.db with hsame | ⟨p, hgens⟩
      · exact ⟨href.of_keys (fun _ hk => hsame ▸ hk) fun run hrun => ⟨run, by simpa using hrun, rfl⟩,
          hm.of_generations (by simp) fun g hg => Or.inl ⟨g, hsame ▸ hg, rfl, fun _ h => h⟩⟩
      · exact updateWhere_mirror _ (by simp) hgens (fun _ _ => Mirrors.stop) href hm
  | claimGeneration w τ lease runId =>
      show RunsReference (claimGeneration w τ now lease runId s.db).2 ∧
        GenerationsMirror (claimGeneration w τ now lease runId s.db).2
      cases hc : (claimGeneration w τ now lease runId s.db).1 with
      | none =>
          rw [(claimGeneration_none hc).2]
          exact ⟨href, hm⟩
      | some run =>
          obtain ⟨g, hfind, -, hdb⟩ := claimGeneration_some hc
          rw [hdb]
          exact startRun_mirror hi (mem_candidates.mp (List.mem_of_find?_eq_some hfind)).1
            he.2.2 href hm
  | renewRun => exact renewRun_mirror hi href hm
  | updateRunState runId w τ generationId attempt state =>
      by_cases ht : state.isNonterminal = true
      · simp only [SessionEvent.next, SessionOp.exec, LiveSessionRepository.updateRunState, ht,
          if_true, Prod.map_snd, id]
        exact fencedMirror_mirror hi (fun _ => rfl) (fun _ => rfl)
          (fun run ho =>
            Or.inr ⟨ho, rfl, rfl, rfl, Or.inl ⟨RuntimeState.not_terminal ht, rfl⟩⟩) href hm
      · simp only [SessionEvent.next, SessionOp.exec, LiveSessionRepository.updateRunState, ht]
        exact ⟨href, hm⟩
  | finishRun runId w τ generationId attempt state code =>
      by_cases ht : state.isTerminal = true
      · simp only [SessionEvent.next, SessionOp.exec, LiveSessionRepository.finishRun, ht,
          if_true, Prod.map_snd, id]
        exact fencedMirror_mirror hi (fun _ => rfl) (fun _ => rfl)
          (fun run ho => Or.inr ⟨ho, rfl, rfl, rfl, Or.inr ⟨ht, rfl, rfl, rfl⟩⟩) href hm
      · simp only [SessionEvent.next, SessionOp.exec, LiveSessionRepository.finishRun, ht]
        exact ⟨href, hm⟩

/-- Without restarts, the mirror holds in every state of a run. -/
theorem generations_mirror {s : SessionState} {es : List SessionEvent}
    (hi : sessionSystem.init s) (hv : sessionSystem.Valid s es)
    (hstop : ∀ e ∈ es, e.op.stopsOnly) :
    sessionSystem.Always (fun s => GenerationsMirror s.db) s es := by
  have hpres : sessionSystem.PreservedUnder (fun _ e => e.op.stopsOnly) MirrorInv :=
    fun _ _ he hstop hs => mirrorInv_next he hstop hs
  exact (hpres.always hv (Machine.meets_of_forall hstop) (mirrorInv_init hi)).imp
    fun _ h => h.mirror

/-- Run leases give a single active run with fencing.  In both repositories at
most one run of an owner is unfinished, the one with the greatest number, and
the numbers run from one without gaps; an operation that presents the lease of
a run that has ended, or an expired lease, is refused and changes nothing.
Without restarts, a generation that has a run mirrors its latest one. -/
theorem live_leases_fence_runs :
    (∀ s, cameraSystem.Reachable s → cameraAttempts.SingleActive s.db.runs.rows) ∧
    (∀ s, sessionSystem.Reachable s → sessionAttempts.SingleActive s.db.runs.rows) ∧
    (∀ s, cameraSystem.Reachable s → ∀ c mid e post,
      cameraSystem.Valid s (c :: mid ++ e :: post) → ∀ runId w τ, c.Claims s runId w τ →
        (e.next (cameraSystem.run s (c :: mid))).ended runId →
          ∀ (op : CameraOp) k w', op.presents = some (k, w', τ) →
            ∀ now, op.RefusedAt now (cameraSystem.run s (c :: mid ++ e :: post)).db) ∧
    (∀ s, sessionSystem.Reachable s → ∀ c mid e post,
      sessionSystem.Valid s (c :: mid ++ e :: post) → ∀ runId w τ, c.Claims s runId w τ →
        (e.next (sessionSystem.run s (c :: mid))).ended runId →
          ∀ (op : SessionOp) k w', op.presents = some (k, w', some τ) →
            ∀ now, op.RefusedAt now (sessionSystem.run s (c :: mid ++ e :: post)).db) ∧
    (∀ (db : CameraDb) (op : CameraOp) runId w τ now, op.presents = some (runId, w, τ) →
      (∀ run, db.runs.get runId = some run → run.leaseHeld now = false) →
        op.RefusedAt now db) ∧
    (∀ (db : SessionDb) (op : SessionOp) runId w τ now, op.presents = some (runId, w, τ) →
      (∀ run, db.runs.get runId = some run → run.leaseHeld now = false) →
        op.RefusedAt now db) ∧
    (∀ s es, sessionSystem.init s → sessionSystem.Valid s es →
      (∀ e ∈ es, e.op.stopsOnly) →
        sessionSystem.Always (fun s => GenerationsMirror s.db) s es) := by
  refine ⟨?_, ?_, ?_, ?_, ?_, ?_, ?_⟩
  · exact fun s hs => (LeasedAttempt.LeaseLedger.ledger (cameraInv_reachable hs)).singleActive
  · exact fun s hs => (LeasedAttempt.LeaseLedger.ledger (sessionInv_reachable hs)).singleActive
  · intro s hs c mid e post hv runId w τ hc he op k w' hp now
    exact camera_stale_refused hs hv hc he hp now
  · intro s hs c mid e post hv runId w τ hc he op k w' hp now
    exact session_stale_refused hs hv hc he hp now
  · intro db op runId w τ now hp h
    exact camera_expired_refused hp h
  · intro db op runId w τ now hp h
    exact session_expired_refused hp h
  · intro s es hi hv hstop
    exact generations_mirror hi hv hstop

/-- A session whose first worker lets its lease expire: the second takes the
generation over, the first can no longer finish its run, and the generation
shows the state of the second run. -/
theorem live_leases_fence_runs_takeover :
    let setup : List SessionEvent :=
      [⟨0, .createSession "session"⟩, ⟨0, .createGeneration "session" 1 "generation" 0⟩,
        ⟨0, .setMediaState "generation" .ready none⟩]
    let first : SessionEvent := ⟨0, .claimGeneration "worker-1" "lease-1" 10 "run-1"⟩
    let second : SessionEvent :=
      ⟨timedelta 11, .claimGeneration "worker-2" "lease-2" 10 "run-2"⟩
    let start : SessionState := ⟨0, ⟨.empty, .empty, .empty⟩, []⟩
    let s := sessionSystem.run (sessionSystem.run start setup) [first, second]
    let late : SessionOp :=
      .finishRun "run-1" "worker-1" (some "lease-1") "generation" 1 .failed none
    late.RefusedAt (timedelta 12) s.db ∧
      sessionAttempts.SingleActive s.db.runs.rows ∧ GenerationsMirror s.db := by
  intro setup first second start s late
  obtain ⟨-, hsingle, -, hstale, -, -, hmirror⟩ := live_leases_fence_runs
  have hstart : sessionSystem.init start := ⟨rfl, rfl⟩
  have hsetup : sessionSystem.Valid start setup := by decide
  have hs : sessionSystem.Reachable (sessionSystem.run start setup) :=
    (Machine.Reachable.of_init hstart).run hsetup
  have hv : sessionSystem.Valid (sessionSystem.run start setup) [first, second] := by decide
  have hreach : sessionSystem.Reachable s := hs.run hv
  refine ⟨?_, hsingle s hreach, ?_⟩
  · have hclaim : first.Claims (sessionSystem.run start setup) "run-1" "worker-1" "lease-1" :=
      ⟨10, _, rfl, rfl⟩
    have hended : (second.next (sessionSystem.run (sessionSystem.run start setup)
        [first])).ended "run-1" := by decide
    exact hstale (sessionSystem.run start setup) hs first [] second [] hv "run-1" "worker-1"
      "lease-1" hclaim hended late
      "run-1" "worker-1" rfl (timedelta 12)
  · have hall := hmirror start (setup ++ [first, second]) hstart
      (Machine.valid_append.mpr ⟨hsetup, hv⟩) (by simp [setup, first, second, SessionOp.stopsOnly])
    have hlast := hall.last
    rwa [Machine.run_append] at hlast

end Mvision.Live
