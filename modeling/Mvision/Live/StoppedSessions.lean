import Mvision.Live.GenerationMirror

/-!
# What becomes of a stopped generation

A stop and a reconfiguration set `STOPPING`.  Only the worker that holds the
lease of the generation's run moves it on: `claim_generation` takes over an
expired run of a generation that is to run, and looks at no other.  A worker
that crashes does so in silence: time passes, and its lease runs out.
-/

namespace Mvision.Live

open Mvision.Library
open LiveSessionRepository

/-- A run of the generation holds a lease that expires after `t`. -/
def Leased (db : SessionDb) (generationId : String) (t : Timestamp) : Prop :=
  ∃ run ∈ db.runs.rows, run.generationId = generationId ∧ run.leaseHeld t = true

instance (db : SessionDb) (generationId : String) (t : Timestamp) :
    Decidable (Leased db generationId t) :=
  inferInstanceAs (Decidable (∃ _ ∈ _, _))

namespace SessionOp

/-- The steps of workers and of the reconciler, which no user asks for. -/
def byWorker : SessionOp → Prop
  | .claimGeneration _ _ _ _ | .finishRun _ _ _ _ _ _ _ | .setMediaState _ _ _ => True
  | _ => False

/-- The operation stops the generation: a stop of its session, or a reconfiguration that is not
refused. -/
def Stops (db : SessionDb) (g : LiveSessionGeneration) : SessionOp → Prop
  | .setDesiredState sessionId .stopped =>
      ∃ session ∈ db.sessions.get sessionId,
        g.sessionId = sessionId ∧ g.generation = session.currentGeneration
  | .createGeneration sessionId generation generationId createdAt =>
      (LiveSessionRepository.createGeneration sessionId generation generationId createdAt
          db).isOk = true ∧
        latestGeneration sessionId db.generations = some g
  | _ => False

instance (db : SessionDb) (g : LiveSessionGeneration) : ∀ op : SessionOp, Decidable (op.Stops db g)
  | .setDesiredState sessionId .stopped =>
      decidable_of_iff ((db.sessions.get sessionId).any fun session =>
        decide (g.sessionId = sessionId ∧ g.generation = session.currentGeneration)) (by
          simp [Stops, Option.any_eq_true])
  | .createGeneration _ _ _ _ => inferInstanceAs (Decidable (_ ∧ _))
  | .setDesiredState _ .running | .createSession _ | .setMediaState _ _ _
  | .claimGeneration _ _ _ _ | .renewRun _ _ _ _ _ _ | .updateRunState _ _ _ _ _ _
  | .finishRun _ _ _ _ _ _ _ => inferInstanceAs (Decidable False)

end SessionOp

/-- As the services call the repository: no session is set to `running` again, and a lease is
renewed into the future. -/
def SessionEvent.asCalled (e : SessionEvent) : Prop :=
  match e.op with
  | .setDesiredState _ desired => desired = .stopped
  | .renewRun _ _ _ expiresAt _ _ => e.time < expiresAt
  | _ => True

instance : ∀ e : SessionEvent, Decidable e.asCalled
  | ⟨_, .setDesiredState _ desired⟩ => instDecidableEqDesiredState desired .stopped
  | ⟨time, .renewRun _ _ _ expiresAt _ _⟩ => Int.decLt time expiresAt
  | ⟨_, .createSession _⟩ | ⟨_, .createGeneration _ _ _ _⟩ | ⟨_, .setMediaState _ _ _⟩
  | ⟨_, .claimGeneration _ _ _ _⟩ | ⟨_, .updateRunState _ _ _ _ _ _⟩
  | ⟨_, .finishRun _ _ _ _ _ _ _⟩ => isTrue trivial

/-- A call of the repository, or time that passes without one. -/
inductive SessionStep where
  | call (e : SessionEvent)
  | pass (later : Timestamp)

namespace SessionStep

def time : SessionStep → Timestamp
  | .call e => e.time
  | .pass t => t

def asCalled : SessionStep → Prop
  | .call e => e.asCalled
  | .pass _ => True

instance : ∀ step : SessionStep, Decidable step.asCalled
  | .call e => inferInstanceAs (Decidable e.asCalled)
  | .pass _ => isTrue trivial

/-- No user asks for the step. -/
def byWorker : SessionStep → Prop
  | .call e => e.op.byWorker
  | .pass _ => True

def Stops (db : SessionDb) (g : LiveSessionGeneration) : SessionStep → Prop
  | .call e => e.op.Stops db g
  | .pass _ => False

instance (db : SessionDb) (g : LiveSessionGeneration) :
    ∀ step : SessionStep, Decidable (step.Stops db g)
  | .call e => inferInstanceAs (Decidable (e.op.Stops db g))
  | .pass _ => isFalse not_false

end SessionStep

/-- The calls of users, workers and the reconciler, and the time between them. -/
def sessionLife : Machine SessionState SessionStep where
  init := sessionSystem.init
  enabled s
    | .call e => sessionSystem.enabled s e
    | .pass t => s.now ≤ t
  next s
    | .call e => e.next s
    | .pass t => { s with now := t }

instance (s : SessionState) : ∀ step : SessionStep, Decidable (sessionLife.enabled s step)
  | .call e => inferInstanceAs (Decidable (sessionSystem.enabled s e))
  | .pass t => inferInstanceAs (Decidable (s.now ≤ t))

namespace SessionState

/-- No sessions yet. -/
def start (now : Timestamp) : SessionState := ⟨now, ⟨.empty, .empty, .empty⟩, []⟩

/-- The generation and all its runs are terminal. -/
def Settled (s : SessionState) (generationId : String) : Prop :=
  (∃ g, s.db.generations.get generationId = some g ∧ g.runtimeState.isTerminal = true) ∧
    ∀ run ∈ s.db.runs.rows, run.generationId = generationId → run.runtimeState.isTerminal = true

/-- A stopped generation of which no run holds an unexpired lease is terminal, or workers can lead
it there. -/
def StoppedSettle (s : SessionState) : Prop :=
  ∀ g ∈ s.db.generations.rows, g.desiredState = .stopped → ¬ Leased s.db g.generationId s.now →
    g.runtimeState.isTerminal = true ∨
      ∃ steps, sessionLife.Valid s steps ∧ (∀ step ∈ steps, step.byWorker) ∧
        (sessionLife.run s steps).Settled g.generationId

/-- A generation that is not terminal is stopped only while a run of it holds a lease; and once it
is stopped, the lease does not run out before the worker has renewed it or finished the run. -/
def Timely (s : SessionState) (step : SessionStep) : Prop :=
  ∀ g ∈ s.db.generations.rows, g.runtimeState.isTerminal = false →
    (step.Stops s.db g → Leased s.db g.generationId step.time) ∧
      (g.desiredState = .stopped → Leased s.db g.generationId s.now →
        Leased s.db g.generationId step.time)

instance (s : SessionState) (step : SessionStep) : Decidable (s.Timely step) :=
  inferInstanceAs (Decidable (∀ _ ∈ _, _ → _))

end SessionState

/-! ## What an operation does to a generation -/

inductive GenerationChange (s : SessionState) (e : SessionEvent) (g g' : LiveSessionGeneration) :
    Prop
  | kept (spared : ¬ e.op.Stops s.db g) (desired : g'.desiredState = g.desiredState)
      (terminal : g'.runtimeState.isTerminal = g.runtimeState.isTerminal)
      (leased : Leased (e.next s).db g.generationId e.time ↔ Leased s.db g.generationId e.time)
  | stopped (stops : e.op.Stops s.db g) (row : g' = g.stop)
      (leased : Leased (e.next s).db g.generationId e.time ↔ Leased s.db g.generationId e.time)
  | claimed (spared : ¬ e.op.Stops s.db g) (wanted : g.desiredState = .running)
      (row : g' = g.start e.time)
  | finished (leased : Leased s.db g.generationId e.time)
      (desired : g'.desiredState = g.desiredState)
      (terminal : g'.runtimeState.isTerminal = true)

/-- Rows that are there change in one of these ways, and rows that are new are to run. -/
def Changes (s : SessionState) (e : SessionEvent) : Prop :=
  ∀ generationId,
    (∀ g, s.db.generations.get generationId = some g →
      ∃ g', (e.next s).db.generations.get generationId = some g' ∧ GenerationChange s e g g') ∧
    (s.db.generations.get generationId = none →
      ∀ g', (e.next s).db.generations.get generationId = some g' → g'.desiredState = .running)

theorem leased_iff_of_runs {db db' : SessionDb} (h : db'.runs = db.runs) (generationId : String)
    (t : Timestamp) : Leased db' generationId t ↔ Leased db generationId t := by
  unfold Leased
  rw [h]

/-- Runs that change row by row, those of the generation without a change of their leases. -/
theorem leased_iff_of_map {db db' : SessionDb} {generationId : String} {t : Timestamp}
    {f : LiveSessionRun → LiveSessionRun} (hrows : db'.runs.rows = db.runs.rows.map f)
    (howner : ∀ run ∈ db.runs.rows, (f run).generationId = run.generationId)
    (hheld : ∀ run ∈ db.runs.rows, run.generationId = generationId →
      (f run).leaseHeld t = run.leaseHeld t) :
    Leased db' generationId t ↔ Leased db generationId t := by
  unfold Leased
  rw [hrows]
  constructor
  · rintro ⟨run', hrun', hid, hlease⟩
    obtain ⟨run, hrun, rfl⟩ := List.mem_map.mp hrun'
    rw [howner run hrun] at hid
    exact ⟨run, hrun, hid, hheld run hrun hid ▸ hlease⟩
  · rintro ⟨run, hrun, hid, hlease⟩
    exact ⟨f run, List.mem_map_of_mem hrun, (howner run hrun).trans hid,
      (hheld run hrun hid).trans hlease⟩

/-- An operation that leaves the generations. -/
theorem changes_of_runs {s : SessionState} {e : SessionEvent}
    (hspared : ∀ g, ¬ e.op.Stops s.db g)
    (hgens : (e.next s).db.generations = s.db.generations)
    (hleased : ∀ generationId,
      Leased (e.next s).db generationId e.time ↔ Leased s.db generationId e.time) :
    Changes s e := by
  intro generationId
  rw [hgens]
  refine ⟨?_, ?_⟩
  · intro g hget
    exact ⟨g, hget, .kept (hspared g) rfl rfl (hleased g.generationId)⟩
  · intro hnone g' hget
    rw [hnone] at hget
    cases hget

/-- An operation that rewrites the generations. -/
theorem changes_of_map {s : SessionState} {e : SessionEvent}
    {f : LiveSessionGeneration → LiveSessionGeneration}
    (hf : ∀ g, (f g).generationId = g.generationId)
    (hgens : (e.next s).db.generations = s.db.generations.mapRows f hf)
    (hchange : ∀ g ∈ s.db.generations.rows, GenerationChange s e g (f g)) : Changes s e := by
  intro generationId
  rw [hgens, Table.get_mapRows]
  refine ⟨?_, ?_⟩
  · intro g hget
    rw [hget]
    exact ⟨f g, rfl, hchange g (Table.get_eq_some_iff.mp hget).1⟩
  · intro hnone g' hget
    rw [hnone] at hget
    cases hget

theorem changes_setMediaState {s : SessionState} {time : Timestamp} {generationId : String}
    {state : MediaState} {errorCode : Option String} :
    Changes s ⟨time, .setMediaState generationId state errorCode⟩ := by
  have hleased : ∀ k, Leased ((⟨time, .setMediaState generationId state errorCode⟩ :
      SessionEvent).next s).db k time ↔ Leased s.db k time :=
    fun k => leased_iff_of_runs rfl k time
  apply changes_of_map (f := fun g =>
    if decide (g.generationId = generationId) then g.media state errorCode else g)
  · rfl
  · intro g _
    split
    · exact .kept not_false rfl rfl (hleased g.generationId)
    · exact .kept not_false rfl rfl (hleased g.generationId)
  · intro g
    split <;> rfl

theorem changes_setDesiredState {s : SessionState} {time : Timestamp} {sessionId : String} :
    Changes s ⟨time, .setDesiredState sessionId .stopped⟩ := by
  have hleased : ∀ k, Leased ((⟨time, .setDesiredState sessionId .stopped⟩ :
      SessionEvent).next s).db k time ↔ Leased s.db k time :=
    fun k => leased_iff_of_runs (setDesiredState_runs sessionId .stopped time s.db) k time
  cases hget : s.db.sessions.get sessionId with
  | none =>
      apply changes_of_runs
      · rintro g ⟨session, hsession, -⟩
        rw [hget] at hsession
        cases hsession
      · show (setDesiredState sessionId .stopped time s.db).2.generations = _
        unfold setDesiredState
        rw [hget]
      · exact hleased
  | some session =>
      have hgens : ((⟨time, .setDesiredState sessionId .stopped⟩ : SessionEvent).next
          s).db.generations = s.db.generations.updateWhere
            (fun g => decide (g.sessionId = sessionId ∧ g.generation = session.currentGeneration))
            (LiveSessionGeneration.desire .stopped)
            (LiveSessionGeneration.desire_generationId .stopped) := by
        show (setDesiredState sessionId .stopped time s.db).2.generations = _
        unfold setDesiredState
        rw [hget]
      apply changes_of_map _ hgens
      intro g _
      split
      · rename_i hcurrent
        exact .stopped ⟨session, hget, of_decide_eq_true hcurrent⟩ rfl (hleased g.generationId)
      · rename_i hother
        refine .kept ?_ rfl rfl (hleased g.generationId)
        rintro ⟨found, hfound, hcurrent⟩
        rw [hget] at hfound
        cases hfound
        exact hother (decide_eq_true hcurrent)

/-- `create_generation` stops the latest generation and adds one that is to run. -/
theorem createGeneration_latest {sessionId generationId : String} {generation : Nat}
    {createdAt : Timestamp} {db : SessionDb} {result : LiveSessionGeneration × SessionDb}
    (h : createGeneration sessionId generation generationId createdAt db = .ok result) :
    result.2.runs = db.runs ∧ ∃ f : LiveSessionGeneration → LiveSessionGeneration,
      ∃ hf : ∀ g, (f g).generationId = g.generationId,
        result.2.generations = (db.generations.mapRows f hf).insert
          (newGeneration sessionId generation generationId createdAt) ∧
        ∀ g ∈ db.generations.rows,
          f g = g ∧ latestGeneration sessionId db.generations ≠ some g ∨
            f g = g.stop ∧ latestGeneration sessionId db.generations = some g := by
  unfold createGeneration at h
  cases hs : db.sessions.get sessionId with
  | none =>
      rw [hs] at h
      cases h
  | some parent =>
      rw [hs] at h
      dsimp only at h
      cases hl : latestGeneration sessionId db.generations with
      | none =>
          rw [hl] at h
          dsimp only at h
          split at h
          · cases h
          · cases h
            refine ⟨rfl, id, fun _ => rfl, ?_, fun _ _ => .inl ⟨rfl, by rintro ⟨⟩⟩⟩
            have hid : db.generations.mapRows id (fun _ => rfl) = db.generations :=
              Table.ext (List.map_id _)
            rw [hid]
      | some latest =>
          rw [hl] at h
          dsimp only at h
          split at h
          · cases h
          · cases h
            refine ⟨rfl, fun g => if g.generationId = latest.generationId then g.stop else g, ?_,
              rfl, ?_⟩
            · intro g
              dsimp only
              split <;> rfl
            · intro g hg
              dsimp only
              split
              · rename_i hid
                refine .inr ⟨rfl, ?_⟩
                have hlatest : latest ∈ db.generations.rows := (first_mem hl).1
                rw [Table.eq_of_mem hg hlatest hid]
              · rename_i hne
                refine .inl ⟨rfl, ?_⟩
                intro heq
                cases heq
                exact hne rfl

theorem changes_createGeneration {s : SessionState} {time : Timestamp}
    {sessionId generationId : String} {generation : Nat} {createdAt : Timestamp}
    (hfresh : generationId ∉ s.db.generations.rows.map LiveSessionGeneration.generationId) :
    Changes s ⟨time, .createGeneration sessionId generation generationId createdAt⟩ := by
  cases hres : createGeneration sessionId generation generationId createdAt s.db with
  | error code =>
      have hsame : ((⟨time, .createGeneration sessionId generation generationId createdAt⟩ :
          SessionEvent).next s).db = s.db := by
        show (SessionOp.exec time s.db (.createGeneration ..)).2 = _
        unfold SessionOp.exec
        dsimp only
        rw [hres]
      apply changes_of_runs
      · rintro g ⟨hok, -⟩
        rw [hres] at hok
        cases hok
      · rw [hsame]
      · intro k
        rw [hsame]
  | ok result =>
      have hdb : ((⟨time, .createGeneration sessionId generation generationId createdAt⟩ :
          SessionEvent).next s).db = result.2 := by
        show (SessionOp.exec time s.db (.createGeneration ..)).2 = _
        unfold SessionOp.exec
        dsimp only
        rw [hres]
      obtain ⟨hruns, f, hf, hgens, hcases⟩ := createGeneration_latest hres
      have hnone : (s.db.generations.mapRows f hf).get generationId = none := by
        rw [Table.get_mapRows, Option.map_eq_none_iff, Table.get_eq_none_iff]
        intro g hg hid
        exact hfresh (List.mem_map.mpr ⟨g, hg, hid⟩)
      intro k
      rw [hdb, hgens]
      refine ⟨?_, ?_⟩
      · intro g hget
        have hold : (s.db.generations.mapRows f hf).get k = some (f g) := by
          rw [Table.get_mapRows, hget]
          rfl
        refine ⟨f g, Table.get_insert_of_some hold, ?_⟩
        have hleased : Leased ((⟨time, .createGeneration sessionId generation generationId
            createdAt⟩ : SessionEvent).next s).db g.generationId time ↔
              Leased s.db g.generationId time := by
          rw [hdb]
          exact leased_iff_of_runs hruns _ _
        rcases hcases g (Table.get_eq_some_iff.mp hget).1 with
          ⟨hsame, hother⟩ | ⟨hstop, hlatest⟩
        · rw [hsame]
          exact .kept (fun h => hother h.2) rfl rfl hleased
        · refine .stopped ⟨?_, hlatest⟩ hstop hleased
          rw [hres]
          rfl
      · intro hget g' hget'
        by_cases hk : k = generationId
        · subst hk
          have hself : ((s.db.generations.mapRows f hf).insert (newGeneration sessionId generation
              k createdAt)).get k = some (newGeneration sessionId generation k createdAt) :=
            Table.get_insert_self hnone
          rw [hself] at hget'
          cases hget'
          rfl
        · rw [Table.get_insert_of_ne fun heq => hk heq.symm, Table.get_mapRows, hget] at hget'
          cases hget'

theorem changes_claimGeneration {s : SessionState} {time : Timestamp} {w τ : String} {lease : Int}
    {runId : String} (hfresh : runId ∉ s.db.runs.rows.map LiveSessionRun.runId) :
    Changes s ⟨time, .claimGeneration w τ lease runId⟩ := by
  have hdb : ((⟨time, .claimGeneration w τ lease runId⟩ : SessionEvent).next s).db =
      (claimGeneration w τ time lease runId s.db).2 := rfl
  cases hclaim : (claimGeneration w τ time lease runId s.db).1 with
  | none =>
      apply changes_of_runs
      · exact fun _ => not_false
      · rw [hdb, (claimGeneration_none hclaim).2]
      · intro k
        rw [hdb, (claimGeneration_none hclaim).2]
  | some run =>
      obtain ⟨picked, hfind, -, hstarted⟩ := claimGeneration_some hclaim
      obtain ⟨-, hwanted, -⟩ := mem_candidates.mp (List.mem_of_find?_eq_some hfind)
      apply changes_of_map (f := fun g =>
        if g.generationId = picked.generationId then g.start time else g)
      · rw [hdb, hstarted]
        rfl
      · intro g hg
        split
        · rename_i hid
          have hsame : g = picked := Table.eq_of_mem hg
            (mem_candidates.mp (List.mem_of_find?_eq_some hfind)).1 hid
          exact .claimed not_false (hsame ▸ hwanted) rfl
        · rename_i hne
          refine .kept not_false rfl rfl ?_
          -- the runs of another generation are not touched
          rw [hdb, hstarted]
          unfold Leased
          rw [startRun_rows hfresh]
          constructor
          · rintro ⟨run', hrun', hid, hheld⟩
            rcases List.mem_append.mp hrun' with hold | hnew
            · obtain ⟨old, hmem, rfl⟩ := List.mem_map.mp hold
              by_cases hexpired : latestRun picked.generationId s.db.runs = some old ∧
                  old.runtimeState.isTerminal = false
              · rw [if_pos hexpired] at hid
                exact absurd (hid.symm.trans (latestRun_mem hexpired.1).2) hne
              · rw [if_neg hexpired] at hid hheld
                exact ⟨old, hmem, hid, hheld⟩
            · rw [List.mem_singleton.mp hnew] at hid
              exact absurd hid.symm hne
          · rintro ⟨old, hold, hid, hheld⟩
            refine ⟨old, List.mem_append_left _ (List.mem_map.mpr ⟨old, hold, ?_⟩), hid, hheld⟩
            rw [if_neg]
            rintro ⟨hlatest, -⟩
            exact hne (hid.symm.trans (latestRun_mem hlatest).2)
      · intro g
        split <;> rfl

theorem changes_renewRun {s : SessionState} {time expiresAt : Timestamp}
    {runId w τ generationId : String} {attempt : Nat} (hlater : time < expiresAt) :
    Changes s ⟨time, .renewRun runId w τ expiresAt generationId attempt⟩ := by
  apply changes_of_runs
  · exact fun _ => not_false
  · rfl
  · intro k
    apply leased_iff_of_map rfl
    · intro run _
      split <;> rfl
    · intro run _ _
      split
      · rename_i hfence
        obtain ⟨-, -, -, -, -, hheld⟩ := sessionFence_iff.mp hfence
        rw [hheld]
        exact sessionLeaseHeld_iff.mpr ⟨expiresAt, rfl, hlater⟩
      · rfl

/-- What a fenced write does, if its run is not refused. -/
theorem changes_fencedMirror {s : SessionState} {e : SessionEvent} {runId generationId w : String}
    {attempt : Nat} {τ : Option String} {values : LiveSessionRun → LiveSessionRun} {hv}
    {copy : LiveSessionGeneration → LiveSessionGeneration} {hc}
    (hdb : (e.next s).db = (fencedMirror
      (LiveSessionRun.fence runId generationId attempt w τ e.time) values hv copy hc s.db).2)
    (hspared : ∀ g, ¬ e.op.Stops s.db g)
    (howner : ∀ run, (values run).generationId = run.generationId)
    (hchange : ∀ run ∈ s.db.runs.rows, run.fence runId generationId attempt w τ e.time = true →
      ∀ g ∈ s.db.generations.rows, g.generationId = run.generationId →
        GenerationChange s e g (copy g)) : Changes s e := by
  cases hfind : s.db.runs.rows.find?
      (LiveSessionRun.fence runId generationId attempt w τ e.time) with
  | none =>
      have hsame : (e.next s).db = s.db := by
        rw [hdb]
        unfold fencedMirror
        rw [hfind]
      apply changes_of_runs hspared
      · rw [hsame]
      · intro k
        rw [hsame]
  | some run =>
      have hrun := List.mem_of_find?_eq_some hfind
      have hfence := List.find?_some hfind
      apply changes_of_map (f := fun g => if g.generationId = run.generationId then copy g else g)
      · rw [hdb]
        unfold fencedMirror
        rw [hfind]
        rfl
      · intro g hg
        split
        · rename_i hid
          exact hchange run hrun hfence g hg hid
        · rename_i hne
          refine .kept (hspared g) rfl rfl ?_
          rw [hdb]
          apply leased_iff_of_map fencedMirror_rows
          · intro other _
            split
            · exact howner other
            · rfl
          · intro other hother hid
            rw [if_neg]
            intro hboth
            -- the fence names the key, so it admits one run
            have hkey : other.runId = run.runId :=
              (sessionFence_iff.mp hboth).1.trans (sessionFence_iff.mp hfence).1.symm
            rw [Table.eq_of_mem hother hrun hkey] at hid
            exact hne hid.symm
      · intro g
        split
        · exact hc g
        · rfl

theorem changes_finishRun {s : SessionState} {time : Timestamp} {runId w generationId : String}
    {τ : Option String} {attempt : Nat} {state : RuntimeState} {errorCode : Option String} :
    Changes s ⟨time, .finishRun runId w τ generationId attempt state errorCode⟩ := by
  by_cases hterminal : state.isTerminal = true
  · have hdb : ((⟨time, .finishRun runId w τ generationId attempt state errorCode⟩ :
        SessionEvent).next s).db = (fencedMirror
          (LiveSessionRun.fence runId generationId attempt w τ time)
          (LiveSessionRun.finished time state errorCode)
          (LiveSessionRun.finished_runId time state errorCode)
          (LiveSessionGeneration.mirrorFinish time state errorCode)
          (LiveSessionGeneration.mirrorFinish_generationId time state errorCode) s.db).2 := by
      simp only [SessionEvent.next, SessionOp.exec, finishRun, hterminal, if_true, Prod.map_snd, id]
    apply changes_fencedMirror hdb (fun _ => not_false)
    · exact fun _ => rfl
    · intro run hrun hfence g _ hid
      obtain ⟨-, -, -, -, -, hheld⟩ := sessionFence_iff.mp hfence
      exact .finished ⟨run, hrun, hid.symm, hheld⟩ rfl hterminal
  · have hdb : ((⟨time, .finishRun runId w τ generationId attempt state errorCode⟩ :
        SessionEvent).next s).db = s.db := by
      simp only [SessionEvent.next, SessionOp.exec, finishRun, hterminal]
      rfl
    apply changes_of_runs
    · exact fun _ => not_false
    · rw [hdb]
    · intro k
      rw [hdb]

theorem changes_updateRunState {s : SessionState} (hs : MirrorInv s) {time : Timestamp}
    {runId w generationId : String} {τ : Option String} {attempt : Nat} {state : RuntimeState} :
    Changes s ⟨time, .updateRunState runId w τ generationId attempt state⟩ := by
  by_cases hstate : state.isNonterminal = true
  · have hdb : ((⟨time, .updateRunState runId w τ generationId attempt state⟩ :
        SessionEvent).next s).db = (fencedMirror
          (LiveSessionRun.fence runId generationId attempt w τ time)
          (fun run => { run with runtimeState := state }) (fun _ => rfl)
          (LiveSessionGeneration.mirror state)
          (LiveSessionGeneration.mirror_generationId state) s.db).2 := by
      simp only [SessionEvent.next, SessionOp.exec, updateRunState, hstate, if_true, Prod.map_snd,
        id]
    apply changes_fencedMirror hdb (fun _ => not_false)
    · exact fun _ => rfl
    · intro run hrun hfence g hg hid
      have hopen := sessionFence_open (hs.inv.closed_free run hrun) hfence
      -- the run is the latest of the generation, which mirrors it
      have hlatest : latestRun g.generationId s.db.runs = some run := by
        rw [hid]
        exact (LeasedAttempt.LeaseLedger.ledger hs.inv).latest_of_open hrun hopen
      have hnonterminal : g.runtimeState.isTerminal = false := by
        rcases hs.mirror g hg run hlatest with hsame | ⟨hstopping, -⟩
        · rw [hsame]
          exact hopen
        · rw [hstopping]
          rfl
      refine .kept not_false rfl ?_ ?_
      · rw [hnonterminal]
        exact RuntimeState.not_terminal hstate
      · rw [hdb]
        apply leased_iff_of_map fencedMirror_rows
        · intro other _
          split <;> rfl
        · intro other _ _
          split <;> rfl
  · have hdb : ((⟨time, .updateRunState runId w τ generationId attempt state⟩ :
        SessionEvent).next s).db = s.db := by
      simp only [SessionEvent.next, SessionOp.exec, updateRunState, hstate]
      rfl
    apply changes_of_runs
    · exact fun _ => not_false
    · rw [hdb]
    · intro k
      rw [hdb]

theorem changes_of_enabled {s : SessionState} {e : SessionEvent} (hs : MirrorInv s)
    (he : sessionSystem.enabled s e) (hcalled : e.asCalled) : Changes s e := by
  obtain ⟨time, op⟩ := e
  cases op with
  | createSession sessionId =>
      exact changes_of_runs (fun _ => not_false) rfl fun k => leased_iff_of_runs rfl k time
  | createGeneration sessionId generation generationId createdAt =>
      exact changes_createGeneration he.2
  | setMediaState generationId state errorCode => exact changes_setMediaState
  | setDesiredState sessionId desired =>
      obtain rfl : desired = .stopped := hcalled
      exact changes_setDesiredState
  | claimGeneration w τ lease runId => exact changes_claimGeneration he.2.2
  | renewRun runId w τ expiresAt generationId attempt => exact changes_renewRun hcalled
  | updateRunState runId w τ generationId attempt state => exact changes_updateRunState hs
  | finishRun runId w τ generationId attempt state errorCode => exact changes_finishRun

/-! ## Stopped generations -/

theorem Leased.antitone {db : SessionDb} {generationId : String} {t t' : Timestamp} (hle : t ≤ t')
    (h : Leased db generationId t') : Leased db generationId t := by
  obtain ⟨run, hrun, hid, hheld⟩ := h
  obtain ⟨expires, hexpires, hlt⟩ := sessionLeaseHeld_iff.mp hheld
  exact ⟨run, hrun, hid, sessionLeaseHeld_iff.mpr ⟨expires, hexpires, hle.trans_lt hlt⟩⟩

theorem stop_isTerminal (g : LiveSessionGeneration) :
    g.stop.runtimeState.isTerminal = g.runtimeState.isTerminal := by
  unfold LiveSessionGeneration.stop
  dsimp only
  split
  · rfl
  · rename_i hopen
    rw [Bool.not_eq_true] at hopen
    rw [hopen]
    rfl

/-- Stopped, not terminal, and without a lease. -/
def Stranded (s : SessionState) (generationId : String) : Prop :=
  ∃ g, s.db.generations.get generationId = some g ∧ g.desiredState = .stopped ∧
    g.runtimeState.isTerminal = false ∧ ¬ Leased s.db generationId s.now

/-- Every stopped generation is terminal or leased. -/
def NoGenerationStranded (s : SessionState) : Prop :=
  ∀ g ∈ s.db.generations.rows, g.desiredState = .stopped → g.runtimeState.isTerminal = false →
    Leased s.db g.generationId s.now

instance (s : SessionState) : Decidable (NoGenerationStranded s) :=
  inferInstanceAs (Decidable (∀ _ ∈ _, _))

/-- No call of a worker moves a stranded generation. -/
theorem Stranded.call {s : SessionState} {e : SessionEvent} {generationId : String}
    (h : Stranded s generationId) (hs : MirrorInv s) (he : sessionSystem.enabled s e)
    (hworker : e.op.byWorker) : Stranded (e.next s) generationId := by
  obtain ⟨g, hget, hdesired, hterminal, hleased⟩ := h
  have hid : g.generationId = generationId := (Table.get_eq_some_iff.mp hget).2
  have hcalled : e.asCalled := by
    obtain ⟨time, op⟩ := e
    cases op with
    | claimGeneration | finishRun | setMediaState => trivial
    | _ => cases hworker
  have hlater : ¬ Leased s.db g.generationId e.time := by
    rw [hid]
    exact fun h => hleased (h.antitone he.1)
  obtain ⟨g', hget', hchange⟩ := (changes_of_enabled hs he hcalled generationId).1 g hget
  cases hchange with
  | kept spared desired terminal leased =>
      refine ⟨g', hget', desired.trans hdesired, terminal.trans hterminal, ?_⟩
      rw [← hid]
      exact fun h => hlater (leased.mp h)
  | stopped stops row leased =>
      refine ⟨g', hget', ?_, ?_, ?_⟩
      · rw [row]
        rfl
      · rw [row, stop_isTerminal]
        exact hterminal
      · rw [← hid]
        exact fun h => hlater (leased.mp h)
  | claimed spared wanted row =>
      rw [hdesired] at wanted
      cases wanted
  | finished leased desired terminal => exact absurd leased hlater

/-- Nor does time. -/
theorem Stranded.next {s : SessionState} {step : SessionStep} {generationId : String}
    (h : Stranded s generationId) (hs : MirrorInv s) (he : sessionLife.enabled s step)
    (hworker : step.byWorker) : Stranded (sessionLife.next s step) generationId := by
  cases step with
  | call e => exact h.call hs he hworker
  | pass later =>
      obtain ⟨g, hget, hdesired, hterminal, hleased⟩ := h
      exact ⟨g, hget, hdesired, hterminal, fun h => hleased (h.antitone he)⟩

/-- As the services call it, an operation keeps the mirror. -/
theorem mirrorInv_called : sessionLife.PreservedUnder (fun _ step => step.asCalled) MirrorInv := by
  intro s step he hcalled hs
  cases step with
  | pass later => exact ⟨hs.inv, hs.reference, hs.mirror⟩
  | call e =>
      refine mirrorInv_next he ?_ hs
      obtain ⟨time, op⟩ := e
      cases op with
      | setDesiredState => exact hcalled
      | _ => trivial

theorem SessionStep.byWorker.asCalled {step : SessionStep} (h : step.byWorker) : step.asCalled := by
  cases step with
  | pass later => trivial
  | call e =>
      obtain ⟨time, op⟩ := e
      cases op with
      | claimGeneration | finishRun | setMediaState => trivial
      | _ => cases h

theorem Stranded.run {s : SessionState} {steps : List SessionStep} {generationId : String}
    (h : Stranded s generationId) (hs : MirrorInv s) (hv : sessionLife.Valid s steps)
    (hworker : ∀ step ∈ steps, step.byWorker) :
    Stranded (sessionLife.run s steps) generationId := by
  induction steps generalizing s with
  | nil => exact h
  | cons step steps ih =>
      have hstep := hworker step List.mem_cons_self
      apply ih
      · exact h.next hs hv.1 hstep
      · exact mirrorInv_called s step hv.1 hstep.asCalled hs
      · exact hv.2
      · exact fun other hother => hworker other (List.mem_cons_of_mem _ hother)

/-- Workers lead no stopped generation anywhere, so it settles only if it is terminal already. -/
theorem stoppedSettle_iff {s : SessionState} (hs : MirrorInv s) :
    s.StoppedSettle ↔ NoGenerationStranded s := by
  constructor
  · intro h g hg hdesired hterminal
    by_contra hleased
    rcases h g hg hdesired hleased with hyes | ⟨steps, hv, hworker, ⟨g', hget', hyes⟩, -⟩
    · rw [hterminal] at hyes
      cases hyes
    · have hstranded : Stranded s g.generationId :=
        ⟨g, Table.get_eq_some_iff.mpr ⟨hg, rfl⟩, hdesired, hterminal, hleased⟩
      obtain ⟨last, hlast, -, hopen, -⟩ := hstranded.run hs hv hworker
      rw [hget'] at hlast
      cases hlast
      rw [hyes] at hopen
      cases hopen
  · intro h g hg hdesired hleased
    refine .inl ?_
    rw [← Bool.not_eq_false]
    exact fun hopen => hleased (h g hg hdesired hopen)

/-- A call leaves every stopped generation terminal or leased exactly if at its time those have a
lease that are not terminal and that it stops, or that are stopped. -/
theorem noneStranded_call_iff {s : SessionState} {e : SessionEvent} (hchanges : Changes s e) :
    NoGenerationStranded (e.next s) ↔
      ∀ g ∈ s.db.generations.rows, g.runtimeState.isTerminal = false →
        g.desiredState = .stopped ∨ e.op.Stops s.db g → Leased s.db g.generationId e.time := by
  constructor
  · intro h g hg hterminal hwhy
    obtain ⟨g', hget', hchange⟩ := (hchanges g.generationId).1 g
      (Table.get_eq_some_iff.mpr ⟨hg, rfl⟩)
    obtain ⟨hg', hid'⟩ := Table.get_eq_some_iff.mp hget'
    cases hchange with
    | kept spared desired terminal leased =>
        have hstopped : g.desiredState = .stopped := hwhy.resolve_right spared
        apply leased.mp
        rw [← hid']
        exact h g' hg' (desired.trans hstopped) (terminal.trans hterminal)
    | stopped stops row leased =>
        apply leased.mp
        rw [← hid']
        apply h g' hg'
        · rw [row]
          rfl
        · rw [row, stop_isTerminal]
          exact hterminal
    | claimed spared wanted row =>
        rw [hwhy.resolve_right spared] at wanted
        cases wanted
    | finished leased desired terminal => exact leased
  · intro h g' hg' hdesired hterminal
    cases hget : s.db.generations.get g'.generationId with
    | none =>
        have hrunning := (hchanges g'.generationId).2 hget g'
          (Table.get_eq_some_iff.mpr ⟨hg', rfl⟩)
        rw [hdesired] at hrunning
        cases hrunning
    | some g =>
        obtain ⟨hg, hid⟩ := Table.get_eq_some_iff.mp hget
        obtain ⟨row', hrow', hchange⟩ := (hchanges g'.generationId).1 g hget
        obtain rfl : row' = g' := Option.some.inj
          (hrow'.symm.trans (Table.get_eq_some_iff.mpr ⟨hg', rfl⟩))
        show Leased (e.next s).db row'.generationId e.time
        rw [← hid]
        cases hchange with
        | kept spared desired terminal leased =>
            apply leased.mpr
            exact h g hg (terminal.symm.trans hterminal) (.inl (desired.symm.trans hdesired))
        | stopped stops row leased =>
            apply leased.mpr
            rw [row, stop_isTerminal] at hterminal
            exact h g hg hterminal (.inr stops)
        | claimed spared wanted row =>
            rw [row] at hdesired
            rw [show (g.start e.time).desiredState = g.desiredState from rfl, wanted] at hdesired
            cases hdesired
        | finished leased desired terminal =>
            rw [hterminal] at terminal
            cases terminal

/-- A step leaves every stopped generation terminal or leased, as they are before it, exactly if it
is timely. -/
theorem noneStranded_next_iff_timely {s : SessionState} {step : SessionStep} (hs : MirrorInv s)
    (he : sessionLife.enabled s step) (hcalled : step.asCalled) (h : NoGenerationStranded s) :
    NoGenerationStranded (sessionLife.next s step) ↔ s.Timely step := by
  cases step with
  | pass later =>
      constructor
      · intro hnext g hg hterminal
        exact ⟨fun hstops => hstops.elim, fun hdesired _ => hnext g hg hdesired hterminal⟩
      · intro htimely g hg hdesired hterminal
        exact (htimely g hg hterminal).2 hdesired (h g hg hdesired hterminal)
  | call e =>
      refine (noneStranded_call_iff (changes_of_enabled hs he hcalled)).trans ?_
      constructor
      · intro hleased g hg hterminal
        exact ⟨fun hstops => hleased g hg hterminal (.inr hstops),
          fun hdesired _ => hleased g hg hterminal (.inl hdesired)⟩
      · rintro htimely g hg hterminal (hdesired | hstops)
        · exact (htimely g hg hterminal).2 hdesired (h g hg hdesired hterminal)
        · exact (htimely g hg hterminal).1 hstops

theorem start_mirrorInv (now : Timestamp) : MirrorInv (SessionState.start now) :=
  mirrorInv_init ⟨rfl, rfl⟩

/-- In a run, stopped generations settle in every state exactly if every step is timely. -/
theorem stoppedSettle_iff_timely {now : Timestamp} {steps : List SessionStep}
    (hv : sessionLife.Valid (.start now) steps) (hcalled : ∀ step ∈ steps, step.asCalled) :
    sessionLife.Always SessionState.StoppedSettle (.start now) steps ↔
      sessionLife.Meets SessionState.Timely (.start now) steps := by
  have hsteps : sessionLife.Meets (fun s step => sessionLife.enabled s step ∧ step.asCalled)
      (.start now) steps := Machine.meets_and.mpr ⟨hv, Machine.meets_of_forall hcalled⟩
  apply Machine.always_iff_meets (I := MirrorInv)
    (E := fun s step => sessionLife.enabled s step ∧ step.asCalled)
  · rintro s step ⟨he, hcall⟩ hs
    exact mirrorInv_called s step he hcall hs
  · rintro s step ⟨he, hcall⟩ hs hsettle
    rw [stoppedSettle_iff (mirrorInv_called s step he hcall hs)]
    exact noneStranded_next_iff_timely hs he hcall ((stoppedSettle_iff hs).mp hsettle)
  · exact hsteps
  · exact start_mirrorInv now
  · rintro g ⟨⟩

/-! ### Stops before the first run and after a crash -/

/-- A session with one generation, ready to be claimed. -/
def oneSession : List SessionStep :=
  [.call ⟨0, .createSession "session"⟩, .call ⟨0, .createGeneration "session" 1 "generation" 0⟩,
    .call ⟨0, .setMediaState "generation" .ready none⟩]

/-- A worker claims the generation, and the session is stopped while it runs. -/
def stoppedRun : List SessionStep :=
  oneSession ++ [.call ⟨1, .claimGeneration "worker" "lease" 10 "run"⟩,
    .call ⟨2, .setDesiredState "session" .stopped⟩]

/-- The worker renews its lease, notices the stop and finishes its run in time. -/
theorem stop_in_time_settles :
    sessionLife.Always SessionState.StoppedSettle (.start 0)
      (stoppedRun ++
        [.call ⟨9, .renewRun "run" "worker" "lease" (timedelta 20) "generation" 1⟩,
          .pass (timedelta 15),
          .call ⟨timedelta 16, .finishRun "run" "worker" (some "lease") "generation" 1 .stopped none⟩,
          .pass (timedelta 100)]) :=
  (stoppedSettle_iff_timely (by decide +kernel) (by decide)).mpr (by decide)

/-- A session that is stopped before its first run is `STOPPING`, and no step of a worker changes
that; nor does one if the worker crashes after the stop and its lease has run out. -/
theorem stop_before_first_run_stays :
    (sessionLife.Valid (.start 0) (oneSession ++ [.call ⟨1, .setDesiredState "session" .stopped⟩]) ∧
      ¬ (sessionLife.run (.start 0)
        (oneSession ++ [.call ⟨1, .setDesiredState "session" .stopped⟩])).StoppedSettle) ∧
    sessionLife.Valid (.start 0) (stoppedRun ++ [.pass (timedelta 100)]) ∧
      ¬ (sessionLife.run (.start 0) (stoppedRun ++ [.pass (timedelta 100)])).StoppedSettle := by
  have hstranded : ∀ steps, sessionLife.Valid (.start 0) steps →
      (∀ step ∈ steps, step.asCalled) →
        ¬ NoGenerationStranded (sessionLife.run (.start 0) steps) →
          ¬ (sessionLife.run (.start 0) steps).StoppedSettle := by
    intro steps hv hcalled hno hsettle
    have hinv : MirrorInv (sessionLife.run (.start 0) steps) :=
      (mirrorInv_called.always hv (Machine.meets_of_forall hcalled) (start_mirrorInv 0)).last
    exact hno ((stoppedSettle_iff hinv).mp hsettle)
  refine ⟨⟨by decide +kernel, ?_⟩, by decide, ?_⟩
  · exact hstranded _ (by decide +kernel) (by decide) (by decide)
  · exact hstranded _ (by decide) (by decide) (by decide)

end Mvision.Live
