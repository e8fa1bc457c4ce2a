import Mvision.Media.Reconciliation

/-!
# Isolation of failures

A pass records the state of every generation in one transaction.  Two exceptions escape from it
and take all states with them: that of a stored config whose source is no text, and that of a
deletion.
-/

namespace Mvision.Media

open Mvision.Library
open Mvision.Live (Json MediaState)

/-- The state that the calls for a generation determine. -/
def determined : Except Raised MediaState → MediaState
  | .ok state => state
  | .error _ => .failed

/-- The pass commits for every running generation the state that its own calls determine. -/
def Isolated (service : Service) (stale : StaleSince) (pass : Pass) : Prop :=
  ∀ g ∈ listReconcilable pass.generations, ∃ committed row,
    (reconcileOnce service stale pass).committed = some committed ∧
      committed.get g.generationId = some row ∧
      row.mediaState = determined (mediaStateOf pass.media pass.cipher g).outcome

/-- MediaMTX has a config for the path, and its source is no text. -/
def OddSource (media : MediaMtx) (cipher : Cipher) (g : LiveSessionGeneration) : Prop :=
  ∃ url desired current value, sourceUrl cipher g.sourceCiphertext = .ok url ∧
    ingressConfig g.sourceType url = .ok desired ∧ path g.ingressPath = .ok () ∧
    media.getConfigPath g.ingressPath = .ok (some current) ∧
    current.lookup "source" = some value ∧ ∀ text, value ≠ .string text

/-- The grace of a stale path has ended. -/
def Due (service : Service) (stale : StaleSince) (now : Timestamp) (name : String) : Prop :=
  service.staleGrace ≤ now - (stale name).getD now

section Exceptions

variable {media : MediaMtx} {cipher : Cipher} {g : LiveSessionGeneration}

theorem request_ne_attributeError {α : Type} {call : MediaCall} {name : String}
    {answer : Except MediaMtxError α} :
    (request call name answer).outcome ≠ .error .attributeError := by
  unfold request path
  dsimp only
  split
  · rintro ⟨⟩
  · cases answer <;> rintro ⟨⟩

theorem getConfig_ne_attributeError {name : String} :
    (media.getConfig name).outcome ≠ .error .attributeError :=
  request_ne_attributeError

theorem getActive_ne_attributeError {name : String} :
    (media.getActive name).outcome ≠ .error .attributeError :=
  request_ne_attributeError

theorem sourceUrl_ne_attributeError {ciphertext : Option String} :
    sourceUrl cipher ciphertext ≠ .error .attributeError := by
  unfold sourceUrl
  split
  · rintro ⟨⟩
  · split <;> rintro ⟨⟩

theorem ingressConfig_ne_attributeError {sourceType : Live.SourceType} {url : Option String} :
    ingressConfig sourceType url ≠ .error .attributeError := by
  unfold ingressConfig
  split
  · rintro ⟨⟩
  · split <;> rintro ⟨⟩
  · split <;> rintro ⟨⟩
  · rintro ⟨⟩

theorem lift_ne_attributeError {α : Type} {x : Except Raised α}
    (h : x ≠ .error .attributeError) : (Calling.lift x).outcome ≠ .error .attributeError := h

theorem normalized_eq_attributeError_iff {config : JsonObject} :
    normalized config = .error .attributeError ↔
      ∃ value, config.lookup "source" = some value ∧ ∀ text, value ≠ .string text := by
  unfold normalized
  split
  · rename_i hnone
    refine iff_of_false (by rintro ⟨⟩) ?_
    rintro ⟨value, hvalue, -⟩
    rw [hnone] at hvalue
    cases hvalue
  · rename_i text htext
    refine iff_of_false (by split <;> rintro ⟨⟩) ?_
    rintro ⟨value, hvalue, hother⟩
    rw [htext] at hvalue
    exact hother text (Option.some.inj hvalue).symm
  · rename_i value hother hvalue
    refine iff_of_true rfl ⟨value, hvalue, ?_⟩
    rintro text rfl
    exact hother text rfl

theorem bind_eq_attributeError_iff {α β : Type} {x : Calling α} {f : α → Calling β} :
    (x >>= f).outcome = .error .attributeError ↔
      x.outcome = .error .attributeError ∨
        ∃ a, x.outcome = .ok a ∧ (f a).outcome = .error .attributeError := by
  rw [Calling.outcome_bind]
  cases x.outcome with
  | error e =>
      show Except.error e = _ ↔ _
      simp
  | ok a =>
      show (f a).outcome = _ ↔ _
      simp

theorem getConfig_eq_ok_iff {name : String} {current : Option JsonObject} :
    (media.getConfig name).outcome = .ok current ↔
      path name = .ok () ∧ media.getConfigPath name = .ok current := by
  unfold MediaMtx.getConfig request
  dsimp only
  cases path name with
  | error e => exact iff_of_false (by rintro ⟨⟩) (by rintro ⟨⟨⟩, -⟩)
  | ok valid =>
      rw [and_iff_right rfl]
      cases media.getConfigPath name with
      | error e => exact iff_of_false (by rintro ⟨⟩) (by rintro ⟨⟩)
      | ok value =>
          exact ⟨fun h => congrArg _ (Except.ok.inj h), fun h => congrArg _ (Except.ok.inj h)⟩

theorem ensurePath_eq_attributeError_iff {name : String} {desired : IngressConfig} :
    (ensurePath media name desired).outcome = .error .attributeError ↔
      ∃ current, path name = .ok () ∧ media.getConfigPath name = .ok (some current) ∧
        normalized current = .error .attributeError := by
  unfold ensurePath
  rw [bind_eq_attributeError_iff, or_iff_right getConfig_ne_attributeError]
  constructor
  · rintro ⟨current, hcurrent, h⟩
    obtain ⟨hpath, hget⟩ := getConfig_eq_ok_iff.mp hcurrent
    cases current with
    | none => exact absurd h request_ne_attributeError
    | some current =>
        rcases bind_eq_attributeError_iff.mp h with hodd | ⟨stored, -, h⟩
        · exact ⟨current, hpath, hget, hodd⟩
        · split at h
          · cases h
          · exact absurd h request_ne_attributeError
  · rintro ⟨current, hpath, hget, hodd⟩
    exact ⟨some current, getConfig_eq_ok_iff.mpr ⟨hpath, hget⟩,
      bind_eq_attributeError_iff.mpr (.inl hodd)⟩

/-- The only exception that the handler of a generation misses is that of an odd source. -/
theorem mediaStateOf_eq_attributeError_iff :
    (mediaStateOf media cipher g).outcome = .error .attributeError ↔
      OddSource media cipher g := by
  unfold mediaStateOf
  rw [bind_eq_attributeError_iff, or_iff_right (lift_ne_attributeError sourceUrl_ne_attributeError)]
  constructor
  · rintro ⟨url, hurl, h⟩
    rw [bind_eq_attributeError_iff,
      or_iff_right (lift_ne_attributeError ingressConfig_ne_attributeError)] at h
    obtain ⟨desired, hdesired, h⟩ := h
    rcases bind_eq_attributeError_iff.mp h with hensure | ⟨-, -, h⟩
    · obtain ⟨current, hpath, hget, hodd⟩ := ensurePath_eq_attributeError_iff.mp hensure
      obtain ⟨value, hvalue, hother⟩ := normalized_eq_attributeError_iff.mp hodd
      exact ⟨url, desired, current, value, hurl, hdesired, hpath, hget, hvalue, hother⟩
    · rw [bind_eq_attributeError_iff, or_iff_right getActive_ne_attributeError] at h
      obtain ⟨active, -, h⟩ := h
      cases h
  · rintro ⟨url, desired, current, value, hurl, hdesired, hpath, hget, hvalue, hother⟩
    refine ⟨url, hurl, bind_eq_attributeError_iff.mpr (.inr ⟨desired, hdesired, ?_⟩)⟩
    apply bind_eq_attributeError_iff.mpr
    exact .inl (ensurePath_eq_attributeError_iff.mpr ⟨current, hpath, hget,
      normalized_eq_attributeError_iff.mpr ⟨value, hvalue, hother⟩⟩)

end Exceptions

/-! ## The loop over the generations -/

section Records

variable {media : MediaMtx} {cipher : Cipher} {generations recorded : Generations}
  {running : List LiveSessionGeneration} {g : LiveSessionGeneration}

/-- A round of the loop ends with the state of its generation, or with the exception. -/
theorem recordState_cases (media : MediaMtx) (cipher : Cipher) (generations : Generations)
    (g : LiveSessionGeneration) :
    (OddSource media cipher g ∧
        (recordState media cipher generations g).outcome = .error .attributeError) ∨
      ¬ OddSource media cipher g ∧ ∃ errorCode,
        (recordState media cipher generations g).outcome =
          .ok (setMediaState generations g.generationId
            (determined (mediaStateOf media cipher g).outcome) errorCode) := by
  rw [← mediaStateOf_eq_attributeError_iff]
  unfold recordState
  dsimp only
  cases h : (mediaStateOf media cipher g).outcome with
  | ok state => exact .inr ⟨by rintro ⟨⟩, none, rfl⟩
  | error e =>
      cases e with
      | attributeError => exact .inl ⟨rfl, rfl⟩
      | valueError => exact .inr ⟨by rintro ⟨⟩, _, rfl⟩
      | mediaMtxError error => exact .inr ⟨by rintro ⟨⟩, _, rfl⟩

theorem recordStates_cons {rest : List LiveSessionGeneration} :
    (recordStates media cipher generations (g :: rest)).outcome =
      (recordState media cipher generations g).outcome >>= fun generations =>
        (recordStates media cipher generations rest).outcome := by
  unfold recordStates
  rw [List.foldlM_cons, Calling.outcome_bind]

theorem exists_recordStates_iff (media : MediaMtx) (cipher : Cipher) (generations : Generations)
    (running : List LiveSessionGeneration) :
    (∃ recorded, (recordStates media cipher generations running).outcome = .ok recorded) ↔
      ∀ g ∈ running, ¬ OddSource media cipher g := by
  induction running generalizing generations with
  | nil => exact iff_of_true ⟨generations, rfl⟩ (List.forall_mem_nil _)
  | cons g rest ih =>
      rw [recordStates_cons, List.forall_mem_cons]
      rcases recordState_cases media cipher generations g with ⟨hodd, h⟩ | ⟨hplain, errorCode, h⟩
      · rw [h]
        exact iff_of_false (by rintro ⟨recorded, ⟨⟩⟩) fun hall => hall.1 hodd
      · rw [h, and_iff_right hplain]
        exact ih _

theorem get_setMediaState {generationId id : String} {state : MediaState}
    {errorCode : Option String} :
    (setMediaState generations generationId state errorCode).get id =
      if id = generationId then
        (generations.get id).map (LiveSessionGeneration.setMediaState state errorCode)
      else generations.get id :=
  Table.get_update ..

/-- The loop leaves the rows of other generations as they are. -/
theorem get_recordStates_of_not_mem {id : String} (hid : ∀ g ∈ running, g.generationId ≠ id)
    (h : (recordStates media cipher generations running).outcome = .ok recorded) :
    recorded.get id = generations.get id := by
  induction running generalizing generations with
  | nil =>
      obtain rfl : generations = recorded := Except.ok.inj h
      rfl
  | cons g rest ih =>
      rw [List.forall_mem_cons] at hid
      rw [recordStates_cons] at h
      rcases recordState_cases media cipher generations g with ⟨-, hfirst⟩ | ⟨-, errorCode, hfirst⟩
      · rw [hfirst] at h
        cases h
      · rw [hfirst] at h
        rw [ih hid.2 h, get_setMediaState, if_neg hid.1.symm]

/-- Every generation of the loop has its own state in the end. -/
theorem get_recordStates (hnodup : (running.map LiveSessionGeneration.generationId).Nodup)
    (hrows : ∀ g ∈ running, ∃ row, generations.get g.generationId = some row)
    (h : (recordStates media cipher generations running).outcome = .ok recorded)
    (hg : g ∈ running) :
    ∃ row, recorded.get g.generationId = some row ∧
      row.mediaState = determined (mediaStateOf media cipher g).outcome := by
  induction running generalizing generations with
  | nil => cases hg
  | cons first rest ih =>
      rw [List.map_cons, List.nodup_cons] at hnodup
      rw [List.forall_mem_cons] at hrows
      rw [recordStates_cons] at h
      rcases recordState_cases media cipher generations first with ⟨-, hfirst⟩ | ⟨-, errorCode, hfirst⟩
      · rw [hfirst] at h
        cases h
      rw [hfirst] at h
      have hother : ∀ other ∈ rest, other.generationId ≠ first.generationId := by
        intro other hmem heq
        exact hnodup.1 (List.mem_map.mpr ⟨other, hmem, heq⟩)
      rcases List.mem_cons.mp hg with rfl | hg
      · obtain ⟨row, hrow⟩ := hrows.1
        refine ⟨row.setMediaState _ errorCode, ?_, rfl⟩
        rw [get_recordStates_of_not_mem hother h, get_setMediaState, if_pos rfl, hrow]
        rfl
      · refine ih hnodup.2 (fun other hmem => ?_) h hg
        rw [get_setMediaState, if_neg (hother other hmem)]
        exact hrows.2 other hmem

end Records

/-! ## The pass -/

theorem deleteStale_ok_iff {service : Service} {media : MediaMtx} {now : Timestamp}
    {names : List String} {stale : StaleSince} (hnodup : names.Nodup) :
    (deleteStale service media now names stale).outcome = .ok () ↔
      ∀ name ∈ names, Due service stale now name → (media.delete name).outcome = .ok () := by
  induction names generalizing stale with
  | nil => exact iff_of_true rfl (List.forall_mem_nil _)
  | cons name rest ih =>
      rw [List.nodup_cons] at hnodup
      have hrest {stale' : StaleSince} (hsame : ∀ other ≠ name, stale' other = stale other) :
          (∀ other ∈ rest, Due service stale' now other → (media.delete other).outcome = .ok ()) ↔
            ∀ other ∈ rest, Due service stale now other →
              (media.delete other).outcome = .ok () := by
        refine forall₂_congr fun other hmem => ?_
        rw [Due, Due, hsame other (ne_of_mem_of_not_mem hmem hnodup.1)]
      unfold deleteStale
      dsimp only
      rw [List.forall_mem_cons]
      split
      · rename_i hdue
        cases hdelete : (media.delete name).outcome with
        | error e =>
            refine iff_of_false (by rintro ⟨⟩) ?_
            rintro ⟨hfirst, -⟩
            exact absurd (hfirst hdue) (by rintro ⟨⟩)
        | ok done =>
            rw [and_iff_right fun _ => rfl]
            refine (ih hnodup.2).trans (hrest fun other hne => ?_)
            rw [Function.update_of_ne hne, Function.update_of_ne hne]
      · rename_i hdue
        have hfirst : Due service stale now name → (media.delete name).outcome = .ok () :=
          fun h => absurd h hdue
        rw [and_iff_right hfirst]
        exact (ih hnodup.2).trans (hrest fun other hne => Function.update_of_ne hne ..)

theorem nodup_staleNames {service : Service} {pass : Pass} {configured : List JsonObject} :
    (staleNames service pass configured).Nodup :=
  (service.order_perm _).nodup_iff.mpr ((List.nodup_dedup _).filter _)

theorem nodup_listReconcilable (generations : Generations) :
    ((listReconcilable generations).map LiveSessionGeneration.generationId).Nodup :=
  (((List.perm_insertionSort _ _).map _).nodup_iff).mpr
    (generations.nodup.sublist (List.filter_sublist.map _))

/-- A pass keeps the failures of the paths apart exactly if MediaMTX returns no config with an
odd source and deletes every stale path whose grace has ended. -/
theorem isolated_iff (service : Service) (stale : StaleSince) (pass : Pass) :
    Isolated service stale pass ↔ listReconcilable pass.generations = [] ∨
      (∀ g ∈ listReconcilable pass.generations, ¬ OddSource pass.media pass.cipher g) ∧
        ∀ configured, pass.media.listConfigPaths = .ok configured →
          ∀ name ∈ configuredNames service configured, name ∉ pass.desired →
            Due service stale pass.now name → (pass.media.delete name).outcome = .ok () := by
  by_cases hempty : listReconcilable pass.generations = []
  · refine iff_of_true ?_ (.inl hempty)
    intro g hg
    rw [hempty] at hg
    cases hg
  rw [or_iff_right hempty]
  obtain ⟨some_g, hsome⟩ := List.exists_mem_of_ne_nil _ hempty
  -- a pass that commits nothing isolates nothing
  have hlost (h : (reconcileOnce service stale pass).committed = none) :
      ¬ Isolated service stale pass := by
    intro hisolated
    obtain ⟨committed, -, hcommitted, -⟩ := hisolated some_g hsome
    rw [h] at hcommitted
    cases hcommitted
  have hkept {recorded : Generations} (hrecorded : pass.recorded.outcome = .ok recorded)
      (h : (reconcileOnce service stale pass).committed = some recorded) :
      Isolated service stale pass := by
    intro g hg
    have hrows : ∀ g ∈ listReconcilable pass.generations,
        ∃ row, pass.generations.get g.generationId = some row := fun g hg =>
      ⟨g, Table.get_eq_some_iff.mpr ⟨(mem_listReconcilable.mp hg).1, rfl⟩⟩
    obtain ⟨row, hrow, hstate⟩ :=
      get_recordStates (nodup_listReconcilable pass.generations) hrows hrecorded hg
    exact ⟨recorded, row, h, hrow, hstate⟩
  have hplain := exists_recordStates_iff pass.media pass.cipher pass.generations
    (listReconcilable pass.generations)
  rcases reconcileOnce_cases service stale pass with
    ⟨e, hrecorded, hresult⟩ | ⟨recorded, e, hrecorded, hlist, hresult⟩ |
      ⟨recorded, configured, hrecorded, hlist, hdeletion⟩
  · refine iff_of_false (hlost (by rw [hresult])) ?_
    rintro ⟨hodd, -⟩
    obtain ⟨recorded, h⟩ := hplain.mpr hodd
    rw [hrecorded] at h
    cases h
  · refine iff_of_true (hkept hrecorded (by rw [hresult])) ⟨hplain.mp ⟨_, hrecorded⟩, ?_⟩
    intro configured h
    rw [hlist] at h
    cases h
  · rw [and_iff_right (hplain.mp ⟨_, hrecorded⟩)]
    have hdelete : (pass.deletion service stale configured).outcome = .ok () ↔
        ∀ configured, pass.media.listConfigPaths = .ok configured →
          ∀ name ∈ configuredNames service configured, name ∉ pass.desired →
            Due service stale pass.now name → (pass.media.delete name).outcome = .ok () := by
      rw [deleteStale_ok_iff nodup_staleNames, hlist]
      simp only [Except.ok.injEq, forall_eq']
      refine forall_congr' fun name => ?_
      unfold staleNames
      rw [(service.order_perm _).mem_iff, List.mem_filter, decide_eq_true_eq, and_imp]
    rw [← hdelete]
    rcases hdeletion with ⟨e, hdeletion, hresult⟩ | ⟨hdeletion, hresult⟩
    · refine iff_of_false (hlost (by rw [hresult])) ?_
      rw [hdeletion]
      rintro ⟨⟩
    · exact iff_of_true (hkept hrecorded (by rw [hresult])) hdeletion

/-- A generation that pushes, and has no source to pull from. -/
def pushing : LiveSessionGeneration where
  generationId := "a"
  sourceType := .whipPush
  sourceCiphertext := none
  ingressPath := "ingress/a"

/-- The path of the generation is online, and MediaMTX does not delete a stale one. -/
def failingDeletion : Pass where
  generations := ⟨[pushing], by decide⟩
  cipher := none
  media :=
    { getConfigPath := fun _ => .ok none
      addPath := fun _ => .ok ()
      replacePath := fun _ => .ok ()
      getActivePath := fun _ => .ok (some [("online", .boolean true)])
      listConfigPaths :=
        .ok [[("name", .string "ingress/a")], [("name", .string "ingress/stale")]]
      deletePath := fun _ => .error (.httpError 500) }
  now := 31000000

/-- The state of the one path is rolled back because the other could not be deleted. -/
theorem failing_deletion_rolls_back :
    ¬ Isolated {} (fun _ => some 0) failingDeletion := by
  intro h
  obtain ⟨committed, row, hcommitted, -⟩ := h pushing (List.mem_singleton.mpr rfl)
  have hnone : (reconcileOnce {} (fun _ => some 0) failingDeletion).committed = none := by
    decide
  rw [hnone] at hcommitted
  cases hcommitted

end Mvision.Media
