import Mvision.Media.Reconciliation

/-!
# Deletion of stale paths

The table of stale paths is written while paths are deleted and cleaned only at the end of a
complete pass.  An entry is nevertheless the time of a pass that saw the path stale, and no
complete pass has seen it otherwise since.
-/

namespace Mvision.Media

open Mvision.Library

/-- A pass that has been made, and what it left. -/
structure PassRecord where
  pass : Pass
  result : PassResult

/-- The passes of one service, one after the other. -/
def runPasses (service : Service) : StaleSince → List Pass → List PassRecord
  | _, [] => []
  | stale, pass :: passes =>
      let result := reconcileOnce service stale pass
      ⟨pass, result⟩ :: runPasses service result.staleSince passes

/-- A pass found a path of the service configured, and no generation wanted it. -/
def SawStale (service : Service) (pass : Pass) (name : String) : Prop :=
  (∃ configured, pass.media.listConfigPaths = .ok configured ∧
    name ∈ configuredNames service configured) ∧
  ∀ g ∈ listReconcilable pass.generations, g.ingressPath ≠ name

/-- In some pass at the time `t` the path was stale, and in every complete pass since. -/
def StaleFrom (service : Service) (history : List PassRecord) (name : String) (t : Timestamp) :
    Prop :=
  ∃ earlier start later, history = earlier ++ start :: later ∧ start.pass.now = t ∧
    SawStale service start.pass name ∧
    ∀ record ∈ later, record.result.complete = true → SawStale service record.pass name

/-- What the table of stale paths says of the passes so far. -/
def Recorded (service : Service) (history : List PassRecord) (stale : StaleSince) : Prop :=
  ∀ name t, stale name = some t → StaleFrom service history name t

section Calls

variable {service : Service} {media : MediaMtx} {cipher : Cipher} {now : Timestamp}

theorem startsWith_of_configured {configured : List JsonObject} {name : String}
    (h : name ∈ configuredNames service configured) :
    startsWith name service.ownedPrefix = true := by
  rw [configuredNames, List.mem_dedup] at h
  obtain ⟨item, -, hname⟩ := List.mem_filterMap.mp h
  split at hname
  · split at hname
    · rename_i hprefix
      exact Option.some.inj hname ▸ hprefix
    · cases hname
  · cases hname

theorem mem_staleNames {pass : Pass} {configured : List JsonObject} {name : String} :
    name ∈ staleNames service pass configured ↔
      name ∈ configuredNames service configured ∧ name ∉ pass.desired := by
  rw [staleNames, (service.order_perm _).mem_iff, List.mem_filter, decide_eq_true_eq]

theorem sawStale_of_mem {pass : Pass} {configured : List JsonObject}
    (hlist : pass.media.listConfigPaths = .ok configured) {name : String}
    (hconfigured : name ∈ configuredNames service configured) (hdesired : name ∉ pass.desired) :
    SawStale service pass name :=
  ⟨⟨configured, hlist, hconfigured⟩, fun _ hg heq =>
    hdesired (heq ▸ List.mem_map_of_mem hg)⟩

/-- The calls for a generation are about its own path, and none is a deletion. -/
theorem calls_mediaStateOf {g : LiveSessionGeneration} {call : MediaCall}
    (h : call ∈ (mediaStateOf media cipher g).calls) :
    call = .getConfigPath g.ingressPath ∨ call = .getActivePath g.ingressPath ∨
      ∃ config, call = .addPath g.ingressPath config ∨ call = .replacePath g.ingressPath config := by
  unfold mediaStateOf at h
  rcases Calling.mem_calls_bind.mp h with h | ⟨url, -, h⟩
  · cases h
  rcases Calling.mem_calls_bind.mp h with h | ⟨desired, -, h⟩
  · cases h
  rcases Calling.mem_calls_bind.mp h with h | ⟨-, -, h⟩
  · unfold ensurePath at h
    rcases Calling.mem_calls_bind.mp h with h | ⟨current, -, h⟩
    · exact .inl (List.mem_singleton.mp h)
    · cases current with
      | none => exact .inr (.inr ⟨desired, .inl (List.mem_singleton.mp h)⟩)
      | some current =>
          rcases Calling.mem_calls_bind.mp h with h | ⟨stored, -, h⟩
          · cases h
          · split at h
            · cases h
            · exact .inr (.inr ⟨desired, .inr (List.mem_singleton.mp h)⟩)
  · rcases Calling.mem_calls_bind.mp h with h | ⟨active, -, h⟩
    · exact .inr (.inl (List.mem_singleton.mp h))
    · cases h

theorem calls_recordState {generations : Generations} {g : LiveSessionGeneration} :
    (recordState media cipher generations g).calls = (mediaStateOf media cipher g).calls := by
  unfold recordState
  dsimp only
  split <;> rfl

theorem calls_recordStates {generations : Generations} {running : List LiveSessionGeneration}
    {call : MediaCall} (h : call ∈ (recordStates media cipher generations running).calls) :
    ∃ g ∈ running, call ∈ (mediaStateOf media cipher g).calls := by
  unfold recordStates at h
  induction running generalizing generations with
  | nil => cases h
  | cons g rest ih =>
      rw [List.foldlM_cons] at h
      rcases Calling.mem_calls_bind.mp h with h | ⟨recorded, -, h⟩
      · rw [calls_recordState] at h
        exact ⟨g, List.mem_cons_self, h⟩
      · obtain ⟨g', hg', hcall⟩ := ih h
        exact ⟨g', List.mem_cons_of_mem g hg', hcall⟩

theorem no_deletion_recorded {generations : Generations} {running : List LiveSessionGeneration}
    {name : String} :
    MediaCall.deletePath name ∉ (recordStates media cipher generations running).calls := by
  intro h
  obtain ⟨g, -, hcall⟩ := calls_recordStates h
  rcases calls_mediaStateOf hcall with h | h | ⟨config, h | h⟩ <;> cases h

end Calls

/-! ## The loop over the stale paths -/

section Deletion

variable {service : Service} {media : MediaMtx} {now : Timestamp} {names : List String}
  {stale : StaleSince} {name : String} {t : Timestamp}

theorem marked_eq_some {head : String}
    (h : Function.update stale head (some ((stale head).getD now)) name = some t) :
    stale name = some t ∨ name = head ∧ t = now := by
  by_cases hname : name = head
  · subst hname
    rw [Function.update_self] at h
    cases hstale : stale name with
    | none =>
        rw [hstale] at h
        exact .inr ⟨rfl, (Option.some.inj h).symm⟩
    | some first =>
        rw [hstale] at h
        exact .inl h
  · rw [Function.update_of_ne hname] at h
    exact .inl h

theorem cleared_eq_some {head : String}
    (h : Function.update (Function.update stale head (some ((stale head).getD now))) head none
      name = some t) : stale name = some t := by
  by_cases hname : name = head
  · subst hname
    rw [Function.update_self] at h
    cases h
  · rwa [Function.update_of_ne hname, Function.update_of_ne hname] at h

/-- An entry of the table is an old one or has the time of the pass. -/
theorem staleSince_deleteStale
    (h : (deleteStale service media now names stale).staleSince name = some t) :
    stale name = some t ∨ name ∈ names ∧ t = now := by
  induction names generalizing stale with
  | nil => exact .inl h
  | cons head rest ih =>
      have hmarked (hm : Function.update stale head (some ((stale head).getD now)) name = some t) :
          stale name = some t ∨ name ∈ head :: rest ∧ t = now := by
        rcases marked_eq_some hm with hold | ⟨rfl, rfl⟩
        · exact .inl hold
        · exact .inr ⟨List.mem_cons_self, rfl⟩
      unfold deleteStale at h
      dsimp only at h
      split at h
      · split at h
        · exact hmarked h
        · rcases ih h with hold | ⟨hmem, ht⟩
          · exact .inl (cleared_eq_some hold)
          · exact .inr ⟨List.mem_cons_of_mem head hmem, ht⟩
      · rcases ih h with hold | ⟨hmem, ht⟩
        · exact hmarked hold
        · exact .inr ⟨List.mem_cons_of_mem head hmem, ht⟩

/-- A path is deleted at the end of the grace that its entry gives it. -/
theorem calls_deleteStale
    (h : .deletePath name ∈ (deleteStale service media now names stale).calls) :
    name ∈ names ∧ ∃ t, (stale name = some t ∨ t = now) ∧ service.staleGrace ≤ now - t := by
  induction names generalizing stale with
  | nil => cases h
  | cons head rest ih =>
      have hfirst (hdue : service.staleGrace ≤ now - (stale head).getD now) (hname : name = head) :
          name ∈ head :: rest ∧ ∃ t, (stale name = some t ∨ t = now) ∧
            service.staleGrace ≤ now - t := by
        subst hname
        refine ⟨List.mem_cons_self, _, ?_, hdue⟩
        cases hstale : stale name with
        | none => exact .inr rfl
        | some first => exact .inl rfl
      unfold deleteStale at h
      dsimp only at h
      split at h
      · rename_i hdue
        split at h
        · exact hfirst hdue (MediaCall.deletePath.inj (List.mem_singleton.mp h))
        · rcases List.mem_cons.mp h with h | h
          · exact hfirst hdue (MediaCall.deletePath.inj h)
          · obtain ⟨hmem, t, ht, hgrace⟩ := ih h
            exact ⟨List.mem_cons_of_mem head hmem, t, ht.imp_left cleared_eq_some, hgrace⟩
      · obtain ⟨hmem, t, ht, hgrace⟩ := ih h
        refine ⟨List.mem_cons_of_mem head hmem, t, ?_, hgrace⟩
        rcases ht with hmarked | hnow
        · rcases marked_eq_some hmarked with hold | ⟨-, hnow⟩
          · exact .inl hold
          · exact .inr hnow
        · exact .inr hnow

end Deletion

/-! ## One pass -/

section Pass

variable {service : Service} {stale : StaleSince} {pass : Pass} {name : String} {t : Timestamp}

/-- The deletions of a pass are of stale paths whose grace has ended. -/
theorem deletion_cases
    (h : .deletePath name ∈ (reconcileOnce service stale pass).calls) :
    SawStale service pass name ∧
      ∃ t, (stale name = some t ∨ t = pass.now) ∧ service.staleGrace ≤ pass.now - t := by
  have hafter {configured : List JsonObject}
      (hlist : pass.media.listConfigPaths = .ok configured)
      (h : .deletePath name ∈ pass.recorded.calls ++
        .listConfigPaths :: (pass.deletion service stale configured).calls) :
      SawStale service pass name ∧
        ∃ t, (stale name = some t ∨ t = pass.now) ∧ service.staleGrace ≤ pass.now - t := by
    rcases List.mem_append.mp h with h | h
    · exact absurd h no_deletion_recorded
    rcases List.mem_cons.mp h with h | h
    · cases h
    obtain ⟨hmem, hdue⟩ := calls_deleteStale h
    obtain ⟨hconfigured, hdesired⟩ := mem_staleNames.mp hmem
    exact ⟨sawStale_of_mem hlist hconfigured hdesired, hdue⟩
  rcases reconcileOnce_cases service stale pass with
    ⟨e, -, hresult⟩ | ⟨generations, e, -, -, hresult⟩ |
      ⟨generations, configured, -, hlist, ⟨e, -, hresult⟩ | ⟨-, hresult⟩⟩
  · rw [hresult] at h
    exact absurd h no_deletion_recorded
  · rw [hresult] at h
    rcases List.mem_append.mp h with h | h
    · exact absurd h no_deletion_recorded
    · cases List.mem_singleton.mp h
  · rw [hresult] at h
    exact hafter hlist h
  · rw [hresult] at h
    exact hafter hlist h

/-- The entries after a pass: the old ones, which a complete pass has seen stale again, and
those of the paths that it saw stale first. -/
theorem staleSince_reconcileOnce
    (h : (reconcileOnce service stale pass).staleSince name = some t) :
    (stale name = some t ∧ ((reconcileOnce service stale pass).complete = true →
      SawStale service pass name)) ∨ SawStale service pass name ∧ t = pass.now := by
  have hnew {configured : List JsonObject} (hlist : pass.media.listConfigPaths = .ok configured)
      (hentry : name ∈ staleNames service pass configured) : SawStale service pass name := by
    obtain ⟨hconfigured, hdesired⟩ := mem_staleNames.mp hentry
    exact sawStale_of_mem hlist hconfigured hdesired
  rcases reconcileOnce_cases service stale pass with
    ⟨e, -, hresult⟩ | ⟨generations, e, -, -, hresult⟩ |
      ⟨generations, configured, -, hlist, ⟨e, -, hresult⟩ | ⟨-, hresult⟩⟩
  · rw [hresult] at h ⊢
    exact .inl ⟨h, by rintro ⟨⟩⟩
  · rw [hresult] at h ⊢
    exact .inl ⟨h, by rintro ⟨⟩⟩
  · rw [hresult] at h ⊢
    rcases staleSince_deleteStale h with hold | ⟨hentry, ht⟩
    · exact .inl ⟨hold, by rintro ⟨⟩⟩
    · exact .inr ⟨hnew hlist hentry, ht⟩
  · rw [hresult] at h ⊢
    -- the end of the pass has dropped every entry of a path that is not stale
    dsimp only [keepStale] at h
    split at h
    · cases h
    · rename_i hkept
      rw [not_or, not_not] at hkept
      rcases staleSince_deleteStale h with hold | ⟨hentry, ht⟩
      · exact .inl ⟨hold, fun _ => sawStale_of_mem hlist hkept.2 hkept.1⟩
      · exact .inr ⟨hnew hlist hentry, ht⟩

theorem StaleFrom.extend {history : List PassRecord} {record : PassRecord}
    (h : StaleFrom service history name t)
    (hcomplete : record.result.complete = true → SawStale service record.pass name) :
    StaleFrom service (history ++ [record]) name t := by
  obtain ⟨earlier, start, later, rfl, hstart, hstale, hlater⟩ := h
  refine ⟨earlier, start, later ++ [record], by simp, hstart, hstale, ?_⟩
  intro other hother
  rcases List.mem_append.mp hother with hother | hother
  · exact hlater other hother
  · rw [List.mem_singleton.mp hother]
    exact hcomplete

theorem StaleFrom.start {history : List PassRecord} {record : PassRecord}
    (h : SawStale service record.pass name) :
    StaleFrom service (history ++ [record]) name record.pass.now :=
  ⟨history, record, [], rfl, rfl, h, by rintro _ ⟨⟩⟩

/-- A pass keeps the table true to the history. -/
theorem Recorded.step {history : List PassRecord} (h : Recorded service history stale) :
    Recorded service (history ++ [⟨pass, reconcileOnce service stale pass⟩])
      (reconcileOnce service stale pass).staleSince := by
  intro name t hentry
  rcases staleSince_reconcileOnce hentry with ⟨hold, hcomplete⟩ | ⟨hnew, rfl⟩
  · exact (h name t hold).extend hcomplete
  · exact StaleFrom.start hnew

end Pass

/-! ## All passes -/

theorem recorded_run {service : Service} {stale : StaleSince} {before : List PassRecord}
    (h : Recorded service before stale) {passes : List Pass} {history rest : List PassRecord}
    {record : PassRecord} (hrun : runPasses service stale passes = history ++ record :: rest) :
    ∃ stale', Recorded service (before ++ history) stale' ∧
      record.result = reconcileOnce service stale' record.pass := by
  induction passes generalizing stale before history with
  | nil => exact absurd hrun.symm (List.append_ne_nil_of_right_ne_nil _ (List.cons_ne_nil _ _))
  | cons pass passes ih =>
      unfold runPasses at hrun
      dsimp only at hrun
      cases history with
      | nil =>
          obtain ⟨rfl, -⟩ := List.cons.inj hrun
          exact ⟨stale, by rwa [List.append_nil], rfl⟩
      | cons first history =>
          obtain ⟨rfl, hrest⟩ := List.cons.inj hrun
          have hnext := ih h.step hrest
          rwa [List.append_assoc, List.singleton_append] at hnext

/-- A path is deleted only if the service owns it, no generation that is to run has it, and it
has been stale for the grace in every complete pass. -/
theorem deletions_safe (service : Service) (passes : List Pass)
    (history rest : List PassRecord) (record : PassRecord) (name : String)
    (hrun : runPasses service (fun _ => none) passes = history ++ record :: rest)
    (hdelete : .deletePath name ∈ record.result.calls) :
    startsWith name service.ownedPrefix = true ∧
      (∀ g ∈ record.pass.generations.rows, g.desiredState = .running → g.ingressPath ≠ name) ∧
      ∃ t ≤ record.pass.now - service.staleGrace,
        StaleFrom service (history ++ [record]) name t := by
  have hempty : Recorded service [] fun _ => none := by rintro _ _ ⟨⟩
  obtain ⟨stale, hrecorded, hresult⟩ := recorded_run hempty hrun
  rw [hresult] at hdelete
  obtain ⟨hstale, t, hknown, hgrace⟩ := deletion_cases hdelete
  obtain ⟨⟨configured, hlist, hconfigured⟩, hdesired⟩ := hstale
  refine ⟨startsWith_of_configured hconfigured, ?_, t, le_sub_comm.mp hgrace, ?_⟩
  · intro g hg hrunning
    exact hdesired g (mem_listReconcilable.mpr ⟨hg, hrunning⟩)
  · have hsaw : SawStale service record.pass name := ⟨⟨configured, hlist, hconfigured⟩, hdesired⟩
    rcases hknown with hold | rfl
    · exact (hrecorded name t hold).extend fun _ => hsaw
    · exact StaleFrom.start hsaw

/-- A pass in which MediaMTX has one path that no generation wants. -/
def stalePass (now : Timestamp) : Pass where
  generations := Table.empty
  cipher := none
  media := {
    getConfigPath := fun _ => .ok none
    addPath := fun _ => .ok ()
    replacePath := fun _ => .ok ()
    getActivePath := fun _ => .ok none
    listConfigPaths := .ok [[("name", .string "ingress/stale"), ("source", .string "publisher")]]
    deletePath := fun _ => .ok () }
  now := now

/-- The path is deleted in a pass 31 seconds after the one that saw it first. -/
theorem stale_path_deleted :
    startsWith "ingress/stale" "ingress/" = true ∧
      (∀ g ∈ (stalePass 31000000).generations.rows, g.desiredState = .running →
        g.ingressPath ≠ "ingress/stale") ∧
      ∃ t ≤ (31000000 : Timestamp) - timedelta 30,
        StaleFrom {} (runPasses {} (fun _ => none) [stalePass 0, stalePass 31000000])
          "ingress/stale" t :=
  deletions_safe {} [stalePass 0, stalePass 31000000]
    [⟨stalePass 0, reconcileOnce {} (fun _ => none) (stalePass 0)⟩] []
    ⟨stalePass 31000000, reconcileOnce {}
      (reconcileOnce {} (fun _ => none) (stalePass 0)).staleSince (stalePass 31000000)⟩
    "ingress/stale" rfl (by decide)

end Mvision.Media
