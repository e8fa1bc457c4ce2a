import Mvision.Video.Tracking

/-!
# The tracks of a video are a partition

`reconcile` gives each raw track with detections to one canonical track, and the order in which
the pipeline lists the raw tracks does not matter.
-/

namespace Mvision.Video.Tracking

open Mvision.Library

variable {K : Type}

/-! ## The best of the candidates -/

theorem best_mem [LinearOrder K] {items : List (Nat × K)} {item : Nat × K}
    (h : best items = some item) : item ∈ items := by
  cases items with
  | nil => cases h
  | cons first rest =>
      unfold best at h
      rw [Option.some.injEq] at h
      subst h
      induction rest generalizing first with
      | nil => exact List.mem_singleton.mpr rfl
      | cons second rest ih =>
          rw [List.foldl_cons]
          rcases List.mem_cons.mp (ih (if first.2 < second.2 then second else first)) with heq | hmem
          · rw [heq]
            split
            · exact List.mem_cons_of_mem _ List.mem_cons_self
            · exact List.mem_cons_self
          · exact List.mem_cons_of_mem _ (List.mem_cons_of_mem _ hmem)

section Loop

variable [Field K] [LinearOrder K] {service : TrackingService K}
  {working : List (WorkingTrack K)} {raw : SightedTrack K}

theorem admits_of_mem_candidates {index : Nat} {score : K}
    (h : (index, score) ∈ service.candidates working raw) :
    ∃ track, working[index]? = some track ∧ service.admits track raw = true := by
  unfold TrackingService.candidates at h
  obtain ⟨⟨track, number⟩, hmem, hitem⟩ := List.mem_filterMap.mp h
  dsimp only at hitem
  split at hitem
  · rename_i hadmits
    rw [Option.some.injEq, Prod.mk.injEq] at hitem
    obtain ⟨rfl, -⟩ := hitem
    exact ⟨track, List.mem_zipIdx_iff_getElem?.mp hmem, hadmits⟩
  · cases hitem

variable [IsStrictOrderedRing K]

/-- A round of the loop finds a place for the raw track. -/
theorem exists_place (hsqrt : ∀ x, 0 < x → 0 < service.sqrt x) (hthreshold : 0 < service.threshold)
    (hnonzero : ∃ x ∈ raw.val.embedding, x ≠ 0) {groups : List (List (SightedTrack K))}
    (h : List.Forall₂ (Represents service.threshold) working groups) :
    ∃ working' groups', service.place working raw = some working' ∧
      List.Forall₂ (Represents service.threshold) working' groups' ∧
      Placed raw groups groups' := by
  unfold TrackingService.place
  cases hbest : best (service.candidates working raw) with
  | none =>
      obtain ⟨track, htrack, hrepresents⟩ := exists_newTrack hsqrt working.length hnonzero
      rw [htrack]
      exact ⟨_, _, rfl, List.rel_append h (.cons hrepresents .nil), .alone groups⟩
  | some item =>
      obtain ⟨index, score⟩ := item
      obtain ⟨track, htrack, hadmits⟩ := admits_of_mem_candidates (best_mem hbest)
      obtain ⟨before, group, after, rfl, hgroup, hset⟩ := exists_group h htrack
      obtain ⟨merged, hmerged, hrepresents⟩ := exists_merge hsqrt hthreshold hgroup hadmits
      dsimp only
      rw [htrack, Option.bind_eq_bind, Option.bind_some, hmerged]
      exact ⟨_, _, rfl, hset merged _ hrepresents, .joined before after group⟩

end Loop

/-! ## The order of the raw tracks -/

/-- `(track.detections[0].frame, track.tracker_id)` -/
def SightedTrack.key (raw : SightedTrack K) : Int × Int := (raw.firstFrame, raw.val.trackerId)

theorem KeyLE.total (a b : SightedTrack K) : KeyLE a b ∨ KeyLE b a := by
  unfold KeyLE
  omega

theorem KeyLE.trans {a b c : SightedTrack K} (hab : KeyLE a b) (hbc : KeyLE b c) : KeyLE a c := by
  unfold KeyLE at *
  omega

theorem KeyLE.key_eq {a b : SightedTrack K} (hab : KeyLE a b) (hba : KeyLE b a) :
    a.key = b.key := by
  unfold KeyLE at hab hba
  refine Prod.ext ?_ ?_
  · show a.firstFrame = b.firstFrame
    omega
  · show a.val.trackerId = b.val.trackerId
    omega

theorem pairwise_ordered (rawTracks : List (VideoTrackOutput K)) :
    (ordered rawTracks).Pairwise KeyLE := by
  have htotal : Std.Total (KeyLE (K := K)) := ⟨KeyLE.total⟩
  have htrans : IsTrans (SightedTrack K) KeyLE := ⟨fun _ _ _ => KeyLE.trans⟩
  exact List.pairwise_insertionSort KeyLE (sightedTracks rawTracks)

theorem perm_ordered (rawTracks : List (VideoTrackOutput K)) :
    (ordered rawTracks).Perm (sightedTracks rawTracks) :=
  List.perm_insertionSort _ _

/-- Distinct keys have one order. -/
theorem ordered_eq_of_perm {rawTracks other : List (VideoTrackOutput K)}
    (hkeys : ((sightedTracks rawTracks).map SightedTrack.key).Nodup) (h : other.Perm rawTracks) :
    ordered other = ordered rawTracks := by
  have hperm : (ordered other).Perm (sightedTracks rawTracks) :=
    (perm_ordered other).trans (h.filterMap _)
  refine List.Perm.eq_of_pairwise ?_ (pairwise_ordered other) (pairwise_ordered rawTracks)
    (hperm.trans (perm_ordered rawTracks).symm)
  intro a b ha hb hab hba
  exact List.inj_on_of_nodup_map hkeys (hperm.mem_iff.mp ha)
    ((perm_ordered rawTracks).mem_iff.mp hb) (hab.key_eq hba)

/-! ## The partition -/

/-- A canonical track holds what its members hold, and nothing else. -/
structure Canonical [Field K] [LinearOrder K] (threshold : K) (members : List (SightedTrack K))
    (track : CanonicalVideoTrack K) : Prop where
  nonempty : members ≠ []
  ids : track.sourceTrackerIds = members.map fun raw => raw.val.trackerId
  templates : track.sourceTemplates = members.map sourceTemplate
  perm : track.detections.Perm (members.flatMap fun raw => raw.val.detections)
  sorted : track.detections.Pairwise fun a b => a.frame ≤ b.frame
  disjoint : members.Pairwise fun a b => Disjoint a.frames b.frames
  similar : members.Pairwise fun a b => a.val.embedding.length = b.val.embedding.length ∧
    threshold ≤ dot a.val.embedding b.val.embedding

section Partition

variable [Field K] [LinearOrder K] {service : TrackingService K}

theorem le_dot_of_le_cosine {threshold : K} {a b : List K} (hthreshold : 0 < threshold)
    (h : threshold ≤ cosine a b) : a.length = b.length ∧ threshold ≤ dot a b := by
  obtain ⟨hlength, hdot⟩ := cosine_pos_iff.mp (hthreshold.trans_le h)
  have hnil : a ≠ [] := by
    rintro rfl
    exact lt_irrefl 0 hdot
  unfold cosine at h
  rw [if_neg (by simp [hlength, hnil])] at h
  exact ⟨hlength, h⟩

theorem Represents.canonical {track : WorkingTrack K} {members : List (SightedTrack K)}
    {threshold : K} (hthreshold : 0 < threshold) (h : Represents threshold track members)
    (maxGap : K) (roundSix : K → K) :
    Canonical threshold members (finalize maxGap roundSix track) where
  nonempty := h.nonempty
  ids := h.ids
  templates := h.templates
  perm := h.perm
  sorted := h.sorted
  disjoint := h.disjoint
  similar := h.similar.imp (le_dot_of_le_cosine hthreshold)

/-- The loop takes every raw track. -/
theorem exists_reconcile [IsStrictOrderedRing K] (hsqrt : ∀ x, 0 < x → 0 < service.sqrt x)
    (hthreshold : 0 < service.threshold) {rawTracks : List (VideoTrackOutput K)}
    (hnonzero : ∀ raw ∈ sightedTracks rawTracks, ∃ x ∈ raw.val.embedding, x ≠ 0) :
    ∃ tracks groups, service.reconcile rawTracks = some tracks ∧
      groups.flatten.Perm (sightedTracks rawTracks) ∧
      List.Forall₂ (Canonical service.threshold) groups tracks := by
  have hplace : ∀ raw ∈ ordered rawTracks, ∀ working groups,
      List.Forall₂ (Represents service.threshold) working groups →
      ∃ working' groups', service.place working raw = some working' ∧
        List.Forall₂ (Represents service.threshold) working' groups' ∧
        Placed raw groups groups' := by
    intro raw hraw working groups h
    exact exists_place hsqrt hthreshold (hnonzero raw ((perm_ordered rawTracks).mem_iff.mp hraw)) h
  obtain ⟨working, groups, hloop, hrepresents, hperm⟩ := exists_groups hplace .nil
  refine ⟨working.map (finalize service.maxGap service.roundSix), groups, ?_,
    hperm.trans (perm_ordered rawTracks), ?_⟩
  · unfold TrackingService.reconcile
    rw [hloop]
    rfl
  · rw [List.forall₂_map_right_iff]
    exact hrepresents.flip.imp fun _ _ h => h.canonical hthreshold _ _

theorem reconcile_eq_of_perm {rawTracks other : List (VideoTrackOutput K)}
    (hkeys : ((sightedTracks rawTracks).map SightedTrack.key).Nodup) (h : other.Perm rawTracks) :
    service.reconcile other = service.reconcile rawTracks := by
  unfold TrackingService.reconcile
  rw [ordered_eq_of_perm hkeys h]

end Partition

/-- `reconcile` over the reals partitions the raw tracks that have detections. -/
theorem reconcile_partitions (service : TrackingService ℝ) (hsqrt : service.sqrt = Real.sqrt)
    (hthreshold : 0 < service.threshold) (rawTracks : List (VideoTrackOutput ℝ))
    (hkeys : ((sightedTracks rawTracks).map SightedTrack.key).Nodup)
    (hnonzero : ∀ raw ∈ sightedTracks rawTracks, ∃ x ∈ raw.val.embedding, x ≠ 0) :
    ∃ tracks groups, service.reconcile rawTracks = some tracks ∧
      groups.flatten.Perm (sightedTracks rawTracks) ∧
      List.Forall₂ (Canonical service.threshold) groups tracks ∧
      ∀ other, other.Perm rawTracks → service.reconcile other = some tracks := by
  have hpositive : ∀ x, 0 < x → 0 < service.sqrt x := by
    intro x hx
    rw [hsqrt]
    exact Real.sqrt_pos.mpr hx
  obtain ⟨tracks, groups, hreconcile, hperm, hcanonical⟩ :=
    exists_reconcile hpositive hthreshold hnonzero
  exact ⟨tracks, groups, hreconcile, hperm, hcanonical, fun other h =>
    (reconcile_eq_of_perm hkeys h).trans hreconcile⟩

/-- A face is lost for a while and tracked again under another id. -/
noncomputable def twoSightings : List (VideoTrackOutput ℝ) :=
  [⟨2, [1], [], [⟨5, 1, 0, 0, 10, 10, 1, []⟩]⟩, ⟨1, [1], [], [⟨0, 0, 0, 0, 10, 10, 1, []⟩]⟩]

noncomputable def halfService : TrackingService ℝ where
  threshold := 1 / 2
  maxGap := 1
  sqrt := Real.sqrt
  roundSix := id
  newTrackId := toString

theorem twoSightings_partitioned :
    ∃ tracks groups, halfService.reconcile twoSightings = some tracks ∧
      groups.flatten.Perm (sightedTracks twoSightings) ∧
      List.Forall₂ (Canonical halfService.threshold) groups tracks ∧
      ∀ other, other.Perm twoSightings → halfService.reconcile other = some tracks := by
  refine reconcile_partitions halfService rfl ?_ twoSightings ?_ ?_
  · show (0 : ℝ) < 1 / 2
    norm_num
  · simp [twoSightings, sightedTracks, SightedTrack.key, SightedTrack.firstFrame]
  · simp [twoSightings, sightedTracks]

end Mvision.Video.Tracking
