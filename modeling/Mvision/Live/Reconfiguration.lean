import Mvision.Library.Machine
import Mvision.Live.SessionRepository

/-!
# Stop and reconfigure: `LiveSessionService`

A reconfiguration loads the session without a lock, refuses a stopped one, and
takes the row lock only in `create_generation`.  The locking select does not
refresh a row that its transaction has loaded, so behind the lock the session
is still as it was before it; the generations are read behind the lock.  A stop
loads the session with the lock.
-/

namespace Mvision.Live

open Mvision.Library

namespace LiveSessionRepository

/-- The unique constraint on a session and a number. -/
def numberTaken (sessionId : String) (generation : Nat) (generations : Generations) : Bool :=
  generations.anyWhere fun g => g.sessionId = sessionId ∧ g.generation = generation

/-- `create_generation` in a transaction that has loaded the session as `parent`. -/
def createGenerationLoaded (parent : LiveSession) (sessionId : String) (generation : Nat)
    (generationId : String) (createdAt : Timestamp) (db : SessionDb) :
    Except String (LiveSessionGeneration × SessionDb) :=
  match db.sessions.get sessionId with
  | none => .error "LIVE_SESSION_NOT_FOUND"
  | some _ =>
      let latest := latestGeneration sessionId db.generations
      let expected := match latest with
        | none => 1
        | some _ => parent.currentGeneration + 1
      if generation ≠ expected then .error "LIVE_GENERATION_CONFLICT"
      else if numberTaken sessionId generation db.generations then .error "IntegrityError"
      else
        let new := newGeneration sessionId generation generationId createdAt
        match latest with
        | none => .ok (new, { db with generations := db.generations.insert new })
        | some latest =>
            -- of the session only the changed column is written
            .ok (new, { db with
              sessions := db.sessions.update sessionId (LiveSession.reconfigure generation)
                (LiveSession.reconfigure_sessionId generation)
              generations := (db.generations.update latest.generationId
                LiveSessionGeneration.stop LiveSessionGeneration.stop_generationId).insert new })

end LiveSessionRepository

open LiveSessionRepository

/-- A transaction of `reconfigure` that has loaded the session and is not yet at the lock. -/
structure Reconfiguring where
  requestId : String
  parent : LiveSession
deriving DecidableEq

/-- The committed rows and the open transactions. -/
structure RequestState where
  db : SessionDb
  loaded : Table Reconfiguring.requestId

namespace LiveSessionService

/-- The one transaction of `create`. -/
def create (sessionId generationId : String) (createdAt : Timestamp) (db : SessionDb) :
    Except String SessionDb :=
  (createGeneration sessionId 1 generationId createdAt (createSession sessionId db)).map Prod.snd

/-- `reconfigure` up to its check of the session. -/
def loadParent (sessionId : String) (db : SessionDb) : Except String LiveSession :=
  match db.sessions.get sessionId with
  | none => .error "LIVE_SESSION_NOT_FOUND"
  | some parent =>
      if parent.desiredState ≠ .running then .error "LIVE_SESSION_SPEC_INVALID"
      else .ok parent

/-- `reconfigure` from the lock to the commit, or to the rollback. -/
def reconfigureLocked (sessionId : String) (parent : LiveSession) (generationId : String)
    (createdAt : Timestamp) (db : SessionDb) : Except String Unit × SessionDb :=
  match createGenerationLoaded parent sessionId (parent.currentGeneration + 1) generationId
      createdAt db with
  | .error _ => (.error "LIVE_GENERATION_CONFLICT", db)
  | .ok (_, db') => (.ok (), db')

/-- The one transaction of `stop`. -/
def stop (sessionId : String) (now : Timestamp) (db : SessionDb) :
    Except String Unit × SessionDb :=
  match setDesiredState sessionId .stopped now db with
  | (none, _) => (.error "LIVE_SESSION_NOT_FOUND", db)
  | (some _, db') => (.ok (), db')

end LiveSessionService

/-- What the requests on one session do, as the database sees it. -/
inductive SessionRequest where
  | load (requestId : String)
  /-- A connector that is not there, a lost connection, a cancelled request. -/
  | rollback (requestId : String)
  | commit (requestId generationId : String) (createdAt : Timestamp)
  | stop (now : Timestamp)

namespace RequestState

variable (sessionId : String)

def next (s : RequestState) : SessionRequest → RequestState
  | .load requestId =>
      match LiveSessionService.loadParent sessionId s.db with
      | .error _ => s
      | .ok parent => { s with loaded := s.loaded.insert ⟨requestId, parent⟩ }
  | .rollback requestId => { s with loaded := s.loaded.erase requestId }
  | .commit requestId generationId createdAt =>
      match s.loaded.get requestId with
      | none => s
      | some request =>
          { db := (LiveSessionService.reconfigureLocked sessionId request.parent generationId
              createdAt s.db).2
            loaded := s.loaded.erase requestId }
  | .stop now => { s with db := (LiveSessionService.stop sessionId now s.db).2 }

/-- New rows get unused identifiers. -/
def enabled (s : RequestState) : SessionRequest → Prop
  | .commit _ generationId _ =>
      generationId ∉ s.db.generations.rows.map LiveSessionGeneration.generationId
  | _ => True

/-- The session has been created and no other request has been made. -/
def Created (s : RequestState) : Prop :=
  s.loaded = Table.empty ∧ ∃ db generationId createdAt,
    sessionId ∉ db.sessions.rows.map LiveSession.sessionId ∧
    generationId ∉ db.generations.rows.map LiveSessionGeneration.generationId ∧
    (∀ g ∈ db.generations.rows, g.sessionId ≠ sessionId) ∧
    LiveSessionService.create sessionId generationId createdAt db = .ok s.db

/-- A generation runs only if it is the current one of a session that is to run. -/
def StopWins (s : RequestState) : Prop :=
  ∀ session ∈ s.db.sessions.get sessionId, ∀ g ∈ s.db.generations.rows,
    g.sessionId = sessionId → g.desiredState = .running →
      g.generation = session.currentGeneration ∧ session.desiredState = .running

/-- No reconfiguration gets the lock behind a stop, unless another one has taken its number. -/
def Timely (s : RequestState) : SessionRequest → Prop
  | .commit requestId _ _ =>
      ∀ request ∈ s.loaded.get requestId, ∀ session ∈ s.db.sessions.get sessionId,
        request.parent.currentGeneration = session.currentGeneration →
          session.desiredState = .running
  | _ => True

instance (s : RequestState) : ∀ r : SessionRequest, Decidable (s.enabled r)
  | .commit _ _ _ => inferInstanceAs (Decidable (_ ∉ _))
  | .load _ | .rollback _ | .stop _ => isTrue trivial

instance (s : RequestState) : Decidable (s.StopWins sessionId) :=
  inferInstanceAs (Decidable (∀ _ ∈ s.db.sessions.get sessionId, _))

instance (s : RequestState) : ∀ r : SessionRequest, Decidable (s.Timely sessionId r)
  | .commit requestId _ _ =>
      inferInstanceAs (Decidable (∀ _ ∈ s.loaded.get requestId,
        ∀ _ ∈ s.db.sessions.get sessionId, _ → _))
  | .load _ | .rollback _ | .stop _ => isTrue trivial

end RequestState

/-- The requests on one session. -/
def sessionRequests (sessionId : String) : Machine RequestState SessionRequest where
  init := RequestState.Created sessionId
  enabled := RequestState.enabled
  next := RequestState.next sessionId

instance (sessionId : String) (s : RequestState) (r : SessionRequest) :
    Decidable ((sessionRequests sessionId).enabled s r) :=
  inferInstanceAs (Decidable (s.enabled r))

/-! ## The numbers of the generations -/

/-- The generations of a session are numbered from 1 to its current one, and only that one may be
to run. -/
structure Numbered (sessionId : String) (session : LiveSession) (generations : Generations) :
    Prop where
  positive : 1 ≤ session.currentGeneration
  le : ∀ g ∈ generations.rows, g.sessionId = sessionId →
    g.generation ≤ session.currentGeneration
  taken : ∀ n, 1 ≤ n → n ≤ session.currentGeneration →
    ∃ g ∈ generations.rows, g.sessionId = sessionId ∧ g.generation = n
  distinct : ∀ g ∈ generations.rows, ∀ g' ∈ generations.rows, g.sessionId = sessionId →
    g'.sessionId = sessionId → g.generation = g'.generation → g = g'
  older : ∀ g ∈ generations.rows, g.sessionId = sessionId → g.desiredState = .running →
    g.generation = session.currentGeneration

instance : Std.Total fun a b : LiveSessionGeneration => b.generation ≤ a.generation :=
  ⟨fun a b => Nat.le_total b.generation a.generation⟩

instance : IsTrans LiveSessionGeneration fun a b => b.generation ≤ a.generation :=
  ⟨fun _ _ _ hab hbc => Nat.le_trans hbc hab⟩

theorem numberTaken_iff {sessionId : String} {generation : Nat} {generations : Generations} :
    numberTaken sessionId generation generations = true ↔
      ∃ g ∈ generations.rows, g.sessionId = sessionId ∧ g.generation = generation := by
  simp [numberTaken, Table.anyWhere]

namespace Numbered

variable {sessionId : String} {session session' : LiveSession} {generations : Generations}

/-- The latest generation is the current one. -/
theorem exists_latest (h : Numbered sessionId session generations) :
    ∃ latest ∈ generations.rows, latestGeneration sessionId generations = some latest ∧
      latest.sessionId = sessionId ∧ latest.generation = session.currentGeneration := by
  obtain ⟨current, hcurrent, hof, hnumber⟩ := h.taken _ h.positive (Nat.le_refl _)
  obtain ⟨latest, hlatest⟩ : ∃ latest, latestGeneration sessionId generations = some latest := by
    apply first_isSome_iff.mpr
    exact ⟨current, hcurrent, by simpa using hof⟩
  obtain ⟨hmem, hown⟩ := first_mem hlatest
  have hown' : latest.sessionId = sessionId := of_decide_eq_true hown
  refine ⟨latest, hmem, hlatest, hown', ?_⟩
  apply Nat.le_antisymm
  · exact h.le latest hmem hown'
  · rw [← hnumber]
    exact first_le hlatest hcurrent (by simpa using hof)

/-- An update that keeps the numbers and sets nothing to run. -/
theorem map (h : Numbered sessionId session generations)
    {f : LiveSessionGeneration → LiveSessionGeneration}
    {hf : ∀ g, (f g).generationId = g.generationId}
    (hcurrent : session'.currentGeneration = session.currentGeneration)
    (hsession : ∀ g, (f g).sessionId = g.sessionId)
    (hnumber : ∀ g, (f g).generation = g.generation)
    (hrunning : ∀ g, (f g).desiredState = .running → g.desiredState = .running) :
    Numbered sessionId session' (generations.mapRows f hf) := by
  refine ⟨?_, ?_, ?_, ?_, ?_⟩
  · rw [hcurrent]
    exact h.positive
  · intro g' hg' hof
    obtain ⟨g, hg, rfl⟩ := Table.mem_mapRows.mp hg'
    rw [hnumber, hcurrent]
    exact h.le g hg (hsession g ▸ hof)
  · intro n hpos hle
    obtain ⟨g, hg, hof, hn⟩ := h.taken n hpos (hcurrent ▸ hle)
    refine ⟨f g, Table.mem_mapRows.mpr ⟨g, hg, rfl⟩, ?_, ?_⟩
    · rw [hsession, hof]
    · rw [hnumber, hn]
  · intro a' ha' b' hb' hofa hofb heq
    obtain ⟨a, ha, rfl⟩ := Table.mem_mapRows.mp ha'
    obtain ⟨b, hb, rfl⟩ := Table.mem_mapRows.mp hb'
    rw [hnumber, hnumber] at heq
    rw [h.distinct a ha b hb (hsession a ▸ hofa) (hsession b ▸ hofb) heq]
  · intro g' hg' hof hrun
    obtain ⟨g, hg, rfl⟩ := Table.mem_mapRows.mp hg'
    rw [hnumber, hcurrent]
    exact h.older g hg (hsession g ▸ hof) (hrunning g hrun)

/-- A new generation under the next number, when no other is to run. -/
theorem insert (h : Numbered sessionId session generations) {generationId : String}
    {createdAt : Timestamp}
    (hfresh : generationId ∉ generations.rows.map LiveSessionGeneration.generationId)
    (hidle : ∀ g ∈ generations.rows, g.sessionId = sessionId → g.desiredState ≠ .running) :
    Numbered sessionId (session.reconfigure (session.currentGeneration + 1))
      (generations.insert (newGeneration sessionId (session.currentGeneration + 1) generationId
        createdAt)) := by
  have hrows := Table.insert_rows (r := newGeneration sessionId (session.currentGeneration + 1)
    generationId createdAt) (t := generations) hfresh
  have hmem : ∀ g, g ∈ (generations.insert (newGeneration sessionId
      (session.currentGeneration + 1) generationId createdAt)).rows ↔ g ∈ generations.rows ∨
        g = newGeneration sessionId (session.currentGeneration + 1) generationId createdAt := by
    intro g
    rw [hrows, List.mem_append, List.mem_singleton]
  refine ⟨Nat.le_add_left 1 _, ?_, ?_, ?_, ?_⟩
  · intro g hg hof
    rcases (hmem g).mp hg with hold | rfl
    · exact Nat.le_succ_of_le (h.le g hold hof)
    · exact Nat.le_refl _
  · intro n hpos hle
    rcases Nat.le_or_eq_of_le_succ hle with hold | rfl
    · obtain ⟨g, hg, hof, hn⟩ := h.taken n hpos hold
      exact ⟨g, (hmem g).mpr (.inl hg), hof, hn⟩
    · exact ⟨_, (hmem _).mpr (.inr rfl), rfl, rfl⟩
  · -- the new number is above all the others
    intro a ha b hb hofa hofb heq
    rcases (hmem a).mp ha with holda | rfl <;> rcases (hmem b).mp hb with holdb | rfl
    · exact h.distinct a holda b holdb hofa hofb heq
    · exact absurd (heq ▸ h.le a holda hofa) (Nat.not_succ_le_self _)
    · exact absurd (heq ▸ h.le b holdb hofb) (Nat.not_succ_le_self _)
    · rfl
  · intro g hg hof hrun
    rcases (hmem g).mp hg with hold | rfl
    · exact absurd hrun (hidle g hold hof)
    · rfl

theorem idle_of_stopLatest (h : Numbered sessionId session generations)
    {latest : LiveSessionGeneration} (hmem : latest ∈ generations.rows)
    (hlatest : latest.sessionId = sessionId ∧ latest.generation = session.currentGeneration) :
    ∀ g ∈ (generations.update latest.generationId LiveSessionGeneration.stop
        LiveSessionGeneration.stop_generationId).rows,
      g.sessionId = sessionId → g.desiredState ≠ .running := by
  intro g hg hof hrun
  rcases Table.mem_update.mp hg with ⟨hold, hne⟩ | ⟨old, -, -, rfl⟩
  · apply hne
    rw [h.distinct g hold latest hmem hof hlatest.1 ((h.older g hold hof hrun).trans
      hlatest.2.symm)]
  · cases hrun

/-- What a reconfiguration that is not refused does to the generations. -/
theorem replaceLatest (h : Numbered sessionId session generations)
    {latest : LiveSessionGeneration} (hmem : latest ∈ generations.rows)
    (hlatest : latest.sessionId = sessionId ∧ latest.generation = session.currentGeneration)
    {generationId : String} {createdAt : Timestamp}
    (hfresh : generationId ∉ generations.rows.map LiveSessionGeneration.generationId) :
    Numbered sessionId (session.reconfigure (session.currentGeneration + 1))
      ((generations.update latest.generationId LiveSessionGeneration.stop
        LiveSessionGeneration.stop_generationId).insert
          (newGeneration sessionId (session.currentGeneration + 1) generationId createdAt)) := by
  have hstopped : Numbered sessionId session (generations.update latest.generationId
      LiveSessionGeneration.stop LiveSessionGeneration.stop_generationId) := by
    apply h.map rfl
    · intro g
      split <;> rfl
    · intro g
      split <;> rfl
    · intro g hrun
      split at hrun
      · cases hrun
      · exact hrun
  apply hstopped.insert
  · unfold Table.update
    rw [Table.mapRows_keys]
    exact hfresh
  · exact h.idle_of_stopLatest hmem hlatest

theorem stopCurrent (h : Numbered sessionId session generations) (now : Timestamp) :
    Numbered sessionId (session.desire .stopped now) (generations.updateWhere
      (fun g => decide (g.sessionId = sessionId ∧ g.generation = session.currentGeneration))
      (LiveSessionGeneration.desire .stopped)
      (LiveSessionGeneration.desire_generationId .stopped)) := by
  apply h.map (show (session.desire .stopped now).currentGeneration = session.currentGeneration from
    rfl)
  · intro g
    split <;> rfl
  · intro g
    split <;> rfl
  · intro g hrun
    split at hrun
    · cases hrun
    · exact hrun

theorem idle_of_stopCurrent (h : Numbered sessionId session generations) :
    ∀ g ∈ (generations.updateWhere
        (fun g => decide (g.sessionId = sessionId ∧ g.generation = session.currentGeneration))
        (LiveSessionGeneration.desire .stopped)
        (LiveSessionGeneration.desire_generationId .stopped)).rows,
      g.sessionId = sessionId → g.desiredState ≠ .running := by
  intro g' hg' hof hrun
  rw [Table.updateWhere_rows] at hg'
  obtain ⟨g, hg, rfl⟩ := List.mem_map.mp hg'
  by_cases hcurrent : g.sessionId = sessionId ∧ g.generation = session.currentGeneration
  · rw [if_pos (decide_eq_true hcurrent)] at hrun
    cases hrun
  · rw [if_neg (by simpa using hcurrent)] at hof hrun
    exact hcurrent ⟨hof, h.older g hg hof hrun⟩

end Numbered

/-! ## What the transactions do -/

namespace LiveSessionService

variable {sessionId : String} {session parent : LiveSession} {db : SessionDb}

/-- A reconfiguration is refused if another one has been made since it loaded the session;
otherwise it stops the latest generation and adds one that is to run. -/
theorem reconfigureLocked_cases (hsession : db.sessions.get sessionId = some session)
    (hnumbered : Numbered sessionId session db.generations)
    (hloaded : parent.currentGeneration ≤ session.currentGeneration) (generationId : String)
    (createdAt : Timestamp) :
    parent.currentGeneration ≠ session.currentGeneration ∧
        (reconfigureLocked sessionId parent generationId createdAt db).2 = db ∨
      parent.currentGeneration = session.currentGeneration ∧
        ∃ latest ∈ db.generations.rows, latest.sessionId = sessionId ∧
          latest.generation = session.currentGeneration ∧
          (reconfigureLocked sessionId parent generationId createdAt db).2 =
            { db with
              sessions := db.sessions.update sessionId
                (LiveSession.reconfigure (session.currentGeneration + 1))
                (LiveSession.reconfigure_sessionId _)
              generations := (db.generations.update latest.generationId
                LiveSessionGeneration.stop LiveSessionGeneration.stop_generationId).insert
                  (newGeneration sessionId (session.currentGeneration + 1) generationId
                    createdAt) } := by
  obtain ⟨latest, hmem, hlatest, hof, hcurrent⟩ := hnumbered.exists_latest
  unfold reconfigureLocked createGenerationLoaded
  rw [hsession]
  dsimp only
  rw [hlatest]
  dsimp only
  rw [if_neg (not_not_intro rfl)]
  rcases Nat.lt_or_eq_of_le hloaded with hlt | heq
  · -- the number it asks for is one that there is
    refine .inl ⟨Nat.ne_of_lt hlt, ?_⟩
    rw [if_pos (numberTaken_iff.mpr (hnumbered.taken _ (Nat.le_add_left 1 _) hlt))]
  · refine .inr ⟨heq, latest, hmem, hof, hcurrent, ?_⟩
    rw [heq, if_neg]
    rw [numberTaken_iff]
    rintro ⟨g, hg, hgof, hnumber⟩
    have hle := hnumbered.le g hg hgof
    rw [hnumber] at hle
    exact Nat.not_succ_le_self _ hle

theorem stop_eq (hsession : db.sessions.get sessionId = some session) (now : Timestamp) :
    (stop sessionId now db).2 =
      { db with
        sessions := db.sessions.update sessionId (LiveSession.desire .stopped now)
          (LiveSession.desire_sessionId .stopped now)
        generations := db.generations.updateWhere
          (fun g => decide (g.sessionId = sessionId ∧ g.generation = session.currentGeneration))
          (LiveSessionGeneration.desire .stopped)
          (LiveSessionGeneration.desire_generationId .stopped) } := by
  unfold stop setDesiredState
  rw [hsession]

theorem loadParent_eq_ok (h : loadParent sessionId db = .ok parent) :
    db.sessions.get sessionId = some parent ∧ parent.desiredState = .running := by
  unfold loadParent at h
  split at h
  · cases h
  · rename_i found hfound
    split at h
    · cases h
    · rename_i hrunning
      cases h
      exact ⟨hfound, of_not_not hrunning⟩

end LiveSessionService

/-! ## Runs -/

namespace RequestState

variable {sessionId : String} {s : RequestState}

/-- The generations are numbered, and no open transaction has loaded a later session than there
is. -/
def Coherent (sessionId : String) (s : RequestState) : Prop :=
  ∃ session, s.db.sessions.get sessionId = some session ∧
    Numbered sessionId session s.db.generations ∧
    ∀ request ∈ s.loaded.rows,
      request.parent.currentGeneration ≤ session.currentGeneration

/-- Only the current generation is ever to run, so all that counts is the session. -/
theorem stopWins_iff {session : LiveSession}
    (hsession : s.db.sessions.get sessionId = some session)
    (hnumbered : Numbered sessionId session s.db.generations) :
    s.StopWins sessionId ↔ ∀ g ∈ s.db.generations.rows, g.sessionId = sessionId →
      g.desiredState = .running → session.desiredState = .running := by
  unfold StopWins
  rw [hsession]
  constructor
  · intro h g hg hof hrun
    exact (h session rfl g hg hof hrun).2
  · rintro h found hfound g hg hof hrun
    cases hfound
    exact ⟨hnumbered.older g hg hof hrun, h g hg hof hrun⟩

theorem coherent_next {r : SessionRequest} (he : s.enabled r) (h : s.Coherent sessionId) :
    (s.next sessionId r).Coherent sessionId := by
  obtain ⟨session, hsession, hnumbered, hloaded⟩ := h
  cases r with
  | load requestId =>
      dsimp only [next]
      split
      · exact ⟨session, hsession, hnumbered, hloaded⟩
      · rename_i parent hparent
        refine ⟨session, hsession, hnumbered, ?_⟩
        intro request hrequest
        rcases Table.mem_insert hrequest with hold | ⟨rfl, -⟩
        · exact hloaded request hold
        · have hsame := (LiveSessionService.loadParent_eq_ok hparent).1
          rw [hsession] at hsame
          cases hsame
          exact Nat.le_refl _
  | rollback requestId =>
      refine ⟨session, hsession, hnumbered, ?_⟩
      exact fun request hrequest => hloaded request (Table.mem_erase.mp hrequest).1
  | commit requestId generationId createdAt =>
      dsimp only [next]
      split
      · exact ⟨session, hsession, hnumbered, hloaded⟩
      · rename_i request hrequest
        have hopen := hloaded request (Table.get_eq_some_iff.mp hrequest).1
        have hrest : ∀ other ∈ (s.loaded.erase requestId).rows,
            other.parent.currentGeneration ≤ session.currentGeneration :=
          fun other hother => hloaded other (Table.mem_erase.mp hother).1
        rcases LiveSessionService.reconfigureLocked_cases hsession hnumbered hopen generationId
          createdAt with ⟨-, hsame⟩ | ⟨-, latest, hmem, hof, hcurrent, hdone⟩
        · rw [hsame]
          exact ⟨session, hsession, hnumbered, hrest⟩
        · rw [hdone]
          refine ⟨session.reconfigure (session.currentGeneration + 1), ?_,
            hnumbered.replaceLatest hmem ⟨hof, hcurrent⟩ he, ?_⟩
          · rw [Table.get_update, if_pos rfl, hsession]
            rfl
          · exact fun other hother => Nat.le_succ_of_le (hrest other hother)
  | stop now =>
      dsimp only [next]
      rw [LiveSessionService.stop_eq hsession]
      refine ⟨session.desire .stopped now, ?_, hnumbered.stopCurrent now, hloaded⟩
      rw [Table.get_update, if_pos rfl, hsession]
      rfl

/-- A request keeps the stop exactly if it is timely. -/
theorem stopWins_next_iff {r : SessionRequest} (he : s.enabled r) (h : s.Coherent sessionId)
    (hwins : s.StopWins sessionId) :
    (s.next sessionId r).StopWins sessionId ↔ s.Timely sessionId r := by
  obtain ⟨session, hsession, hnumbered, hloaded⟩ := h
  cases r with
  | load requestId =>
      dsimp only [next]
      split <;> exact iff_of_true hwins trivial
  | rollback requestId => exact iff_of_true hwins trivial
  | commit requestId generationId createdAt =>
      dsimp only [next, Timely]
      cases hrequest : s.loaded.get requestId with
      | none =>
          refine iff_of_true hwins ?_
          rintro request ⟨⟩
      | some request =>
          dsimp only
          have hopen := hloaded request (Table.get_eq_some_iff.mp hrequest).1
          rw [hsession]
          rcases LiveSessionService.reconfigureLocked_cases hsession hnumbered hopen generationId
            createdAt with ⟨hother, hsame⟩ | ⟨hcurrent, latest, hmem, hof, hnumber, hdone⟩
          · -- it is refused
            rw [hsame]
            refine iff_of_true hwins ?_
            rintro _ ⟨⟩ _ ⟨⟩ heq
            exact absurd heq hother
          · rw [hdone]
            have hget : (s.db.sessions.update sessionId
                (LiveSession.reconfigure (session.currentGeneration + 1))
                (LiveSession.reconfigure_sessionId _)).get sessionId =
                  some (session.reconfigure (session.currentGeneration + 1)) := by
              rw [Table.get_update, if_pos rfl, hsession]
              rfl
            rw [stopWins_iff hget (hnumbered.replaceLatest hmem ⟨hof, hnumber⟩ he)]
            constructor
            · rintro hall _ ⟨⟩ _ ⟨⟩ -
              -- the new generation is to run
              apply hall (newGeneration sessionId (session.currentGeneration + 1) generationId
                createdAt)
              · rw [Table.insert_rows, List.mem_append]
                · exact .inr (List.mem_singleton.mpr rfl)
                · unfold Table.update
                  rw [Table.mapRows_keys]
                  exact he
              · rfl
              · rfl
            · intro htimely g _ _ _
              exact htimely request rfl session rfl hcurrent
  | stop now =>
      refine iff_of_true ?_ trivial
      dsimp only [next]
      rw [LiveSessionService.stop_eq hsession]
      rintro found - g hg hof hrun
      exact absurd hrun (hnumbered.idle_of_stopCurrent g hg hof)

/-- `create` makes the first generation of a session that is to run. -/
theorem created_rows (h : s.Created sessionId) :
    s.loaded = Table.empty ∧ ∃ db : SessionDb, ∃ generationId createdAt,
      (∀ g ∈ db.generations.rows, g.sessionId ≠ sessionId) ∧
      s.db.sessions.get sessionId = some ⟨sessionId, .running, 1, none⟩ ∧
      s.db.generations.rows =
        db.generations.rows ++ [newGeneration sessionId 1 generationId createdAt] := by
  obtain ⟨hloaded, db, generationId, createdAt, hnew, hfresh, hnone, hcreate⟩ := h
  refine ⟨hloaded, db, generationId, createdAt, hnone, ?_⟩
  have hget : (createSession sessionId db).sessions.get sessionId =
      some ⟨sessionId, .running, 1, none⟩ := by
    have hfree : db.sessions.get sessionId = none := by
      apply Table.get_eq_none_iff.mpr
      intro session hsession hid
      exact hnew (List.mem_map.mpr ⟨session, hsession, hid⟩)
    exact Table.get_insert_self hfree
  have hlatest : latestGeneration sessionId (createSession sessionId db).generations = none := by
    apply first_eq_none_iff.mpr
    exact fun g hg => decide_eq_false (hnone g hg)
  unfold LiveSessionService.create createGeneration at hcreate
  rw [hget] at hcreate
  dsimp only at hcreate
  rw [hlatest] at hcreate
  dsimp only at hcreate
  rw [if_neg (not_not_intro rfl)] at hcreate
  have hdb : s.db = { createSession sessionId db with
      generations := (createSession sessionId db).generations.insert
        (newGeneration sessionId 1 generationId createdAt) } := (Except.ok.inj hcreate).symm
  rw [hdb]
  exact ⟨hget, Table.insert_rows hfresh⟩

theorem coherent_of_created (h : s.Created sessionId) : s.Coherent sessionId := by
  obtain ⟨hloaded, db, generationId, createdAt, hnone, hget, hrows⟩ := created_rows h
  have hmem : ∀ g, g ∈ s.db.generations.rows → g.sessionId = sessionId →
      g = newGeneration sessionId 1 generationId createdAt := by
    intro g hg hof
    rw [hrows] at hg
    rcases List.mem_append.mp hg with hold | hnew
    · exact absurd hof (hnone g hold)
    · exact List.mem_singleton.mp hnew
  have hfirst : newGeneration sessionId 1 generationId createdAt ∈ s.db.generations.rows := by
    rw [hrows]
    exact List.mem_append_right _ (List.mem_singleton.mpr rfl)
  refine ⟨_, hget, ⟨Nat.le_refl _, ?_, ?_, ?_, ?_⟩, ?_⟩
  · intro g hg hof
    rw [hmem g hg hof]
    exact Nat.le_refl _
  · intro n hpos hle
    exact ⟨_, hfirst, rfl, Nat.le_antisymm hpos hle⟩
  · intro a ha b hb hofa hofb _
    rw [hmem a ha hofa, hmem b hb hofb]
  · intro g hg hof _
    rw [hmem g hg hof]
    rfl
  · intro request hrequest
    rw [hloaded] at hrequest
    cases hrequest

theorem stopWins_of_created (h : s.Created sessionId) : s.StopWins sessionId := by
  obtain ⟨session, hsession, hnumbered, -⟩ := coherent_of_created h
  obtain ⟨-, -, -, -, -, hget, -⟩ := created_rows h
  rw [stopWins_iff hsession hnumbered]
  rw [hsession] at hget
  cases hget
  exact fun _ _ _ _ => rfl

end RequestState

/-- In a run of the requests on one session, a stop wins in every state exactly if no
reconfiguration gets the lock behind it. -/
theorem stopWins_iff_timely {sessionId : String} {s : RequestState} {rs : List SessionRequest}
    (hcreated : (sessionRequests sessionId).init s)
    (hv : (sessionRequests sessionId).Valid s rs) :
    (sessionRequests sessionId).Always (RequestState.StopWins sessionId) s rs ↔
      (sessionRequests sessionId).Meets (RequestState.Timely sessionId) s rs := by
  apply Machine.always_iff_meets (I := RequestState.Coherent sessionId) (E := RequestState.enabled)
  · exact fun s r he hs => RequestState.coherent_next he hs
  · exact fun s r he hs hwins => RequestState.stopWins_next_iff he hs hwins
  · exact hv
  · exact RequestState.coherent_of_created hcreated
  · exact RequestState.stopWins_of_created hcreated

/-! ### A stop between the check and the lock -/

/-- A session that has just been created. -/
def createdSession : RequestState where
  db :=
    { sessions := Table.empty.insert ⟨"session", .running, 1, none⟩
      generations := Table.empty.insert (newGeneration "session" 1 "first" 0)
      runs := Table.empty }
  loaded := Table.empty

theorem createdSession_created : createdSession.Created "session" :=
  ⟨rfl, ⟨Table.empty, Table.empty, Table.empty⟩, "first", 0, List.not_mem_nil, List.not_mem_nil,
    fun _ hg => absurd hg List.not_mem_nil, rfl⟩

/-- Of two reconfigurations that load the same session one is refused, and a stop that follows
wins. -/
theorem stop_after_reconfigure_wins :
    (sessionRequests "session").Always (RequestState.StopWins "session") createdSession
      [.load "one", .load "two", .commit "two" "second" 1, .commit "one" "third" 2, .stop 3] :=
  (stopWins_iff_timely createdSession_created (by decide)).mpr (by decide)

/-- The session is stopped after the check and before the lock: its second generation is to
run. -/
theorem reconfigure_after_stop_runs :
    (sessionRequests "session").init createdSession ∧
      (sessionRequests "session").Valid createdSession
        [.load "one", .stop 1, .commit "one" "second" 2] ∧
      ¬ ((sessionRequests "session").run createdSession
        [.load "one", .stop 1, .commit "one" "second" 2]).StopWins "session" :=
  ⟨createdSession_created, by decide, by decide⟩

end Mvision.Live
