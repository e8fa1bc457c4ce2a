import Mathlib.Data.Finset.Max
import Mvision.Live.CommandQueue
import Mvision.Live.IdentityWorker

/-!
# Coalescing in the command queue

The queue keeps the newest assignment of a tracker, but a native track only
takes a face in an epoch that an 'unknown' has opened.  What decides the state
of the track is the last such reset and the face that follows it.  The
delivered assignments leave the native track as the whole stream would exactly
if no deciding assignment was replaced while it waited.
-/

namespace Mvision.Live

open Mvision.Library IdentityAssignmentState

/-- The assignment decides the state the stream leads to: it belongs to the last
epoch the stream announces, and is the face of that epoch, or a reset that a
'known' of the epoch still follows or that no other reset of it follows. -/
def Decides (stream : List IdentityAssignment) (c : IdentityAssignment) : Prop :=
  c.identityEpoch = lastReset stream ∧
    (Confirms stream c ∨ c.Unknown ∧
      ((∃ k ∈ stream, k.Known ∧ k.identityEpoch = c.identityEpoch ∧
          c.assignmentRevision < k.assignmentRevision) ∨
        ∀ u ∈ stream, u.Unknown → u.identityEpoch = c.identityEpoch →
          u.assignmentRevision ≤ c.assignmentRevision))

instance (stream : List IdentityAssignment) (c : IdentityAssignment) :
    Decidable (Decides stream c) :=
  inferInstanceAs (Decidable (_ ∧ (_ ∨ _ ∧ (_ ∨ _))))

/-! ## Emitted streams -/

section Emitted

variable {stream part : List IdentityAssignment} {a b : IdentityAssignment}

theorem rel_or_rel {R : IdentityAssignment → IdentityAssignment → Prop}
    (h : stream.Pairwise R) (ha : a ∈ stream) (hb : b ∈ stream) (hne : a ≠ b) :
    R a b ∨ R b a := by
  induction stream with
  | nil => cases ha
  | cons c stream ih =>
      obtain ⟨hc, hrest⟩ := List.pairwise_cons.mp h
      rcases List.mem_cons.mp ha with rfl | ha' <;> rcases List.mem_cons.mp hb with rfl | hb'
      · exact absurd rfl hne
      · exact Or.inl (hc b hb')
      · exact Or.inr (hc a ha')
      · exact ih hrest ha' hb'

theorem IsStream.eq_of_known (h : IsStream stream) (ha : a ∈ stream) (hb : b ∈ stream)
    (hka : a.Known) (hkb : b.Known) (he : a.identityEpoch = b.identityEpoch) : a = b := by
  by_contra hne
  rcases rel_or_rel h.oneKnown ha hb hne with hr | hr
  · exact hr hka hkb he
  · exact hr hkb hka he.symm

/-- An assignment that something follows is not the last one. -/
theorem IsStream.mem_dropLast (h : IsStream stream) (ha : a ∈ stream) (hb : b ∈ stream)
    (hlt : a.assignmentRevision < b.assignmentRevision) : a ∈ stream.dropLast := by
  have hne : stream ≠ [] := List.ne_nil_of_mem ha
  have hsplit := List.dropLast_append_getLast hne
  rw [← hsplit] at ha
  rcases List.mem_append.mp ha with ha | ha
  · exact ha
  · -- nothing in the stream is younger than its last assignment
    have hr := h.revisions
    rw [← hsplit] at hr hb
    rw [List.mem_singleton.mp ha] at hlt
    rcases List.mem_append.mp hb with hb | hb
    · have := (List.pairwise_append.mp hr).2.2 b hb _ (List.mem_singleton_self _)
      omega
    · rw [List.mem_singleton.mp hb] at hlt
      omega

theorem mem_dropLast_or_last (ha : a ∈ stream) :
    a ∈ stream.dropLast ∨ stream.getLast? = some a := by
  have hne : stream ≠ [] := List.ne_nil_of_mem ha
  rw [← List.dropLast_append_getLast hne] at ha
  rcases List.mem_append.mp ha with ha | ha
  · exact Or.inl ha
  · rw [List.mem_singleton.mp ha]
    exact Or.inr (List.getLast?_eq_some_getLast hne)

theorem IsEmitted.eq_of_reset (h : IsEmitted stream) (ha : a ∈ stream.dropLast)
    (hb : b ∈ stream.dropLast) (hua : a.Unknown) (hub : b.Unknown)
    (he : a.identityEpoch = b.identityEpoch) : a = b := by
  by_contra hne
  rcases rel_or_rel h.oneReset ha hb hne with hr | hr
  · exact hr hua hub he
  · exact hr hub hua he.symm

/-- A stream that announces its last epoch has a reset of it that decides. -/
theorem exists_decides (h : ∃ u ∈ stream, u.Unknown ∧ u.identityEpoch = lastReset stream) :
    ∃ u ∈ stream, u.Unknown ∧ u.identityEpoch = lastReset stream ∧ Decides stream u := by
  obtain ⟨u, hu, hunk, he⟩ := h
  let resets := stream.toFinset.filter
    (fun u => u.Unknown ∧ u.identityEpoch = lastReset stream)
  have hne : resets.Nonempty := ⟨u, by simp [resets, hu, hunk, he]⟩
  obtain ⟨v, hv, hmax⟩ := resets.exists_max_image IdentityAssignment.assignmentRevision hne
  have hv' : v ∈ stream ∧ v.Unknown ∧ v.identityEpoch = lastReset stream := by
    simpa [resets] using hv
  refine ⟨v, hv'.1, hv'.2.1, hv'.2.2, hv'.2.2, Or.inr ⟨hv'.2.1, Or.inr ?_⟩⟩
  intro t ht htu hte
  exact hmax t (by simp [resets, ht, htu, hte.trans hv'.2.2])

/-! ## Which parts of a stream lead to the same identity -/

/-- If a part keeps the deciding assignments, it announces the same last epoch. -/
theorem lastReset_part (hsub : part ⊆ stream) (h : ∀ c ∈ stream, Decides stream c → c ∈ part) :
    lastReset part = lastReset stream := by
  apply Nat.le_antisymm (lastReset_mono hsub)
  rcases lastReset_announced stream with h1 | hu
  · rw [h1]
    exact one_le_lastReset part
  · obtain ⟨u, hu, hunk, he, hd⟩ := exists_decides hu
    rw [← he]
    exact le_lastReset (h u hu hd) hunk

/-- A part that keeps the deciding assignments confirms the deciding face. -/
theorem confirms_part (h : ∀ c ∈ stream, Decides stream c → c ∈ part)
    {k : IdentityAssignment} (hk : k ∈ stream) (hc : Confirms stream k)
    (he : k.identityEpoch = lastReset stream) : Confirms part k := by
  refine ⟨hc.1, hc.2.imp_right ?_⟩
  rintro ⟨u, hu, hunk, hue, hlt⟩
  refine ⟨u, h u hu ⟨hue.trans he, Or.inr ⟨hunk, Or.inl ?_⟩⟩, hunk, hue, hlt⟩
  exact ⟨k, hk, hc.1, hue.symm, hlt⟩

theorem identity_eq_of_keeps (hst : IsStream stream) (hpart : part.Sublist stream)
    (h : ∀ c ∈ stream, Decides stream c → c ∈ part) :
    (fresh.applyAll part).identity = (fresh.applyAll stream).identity := by
  have hN := reads hst
  have hM := reads (hst.sublist hpart)
  have hreset := lastReset_part hpart.subset h
  have hepoch : (fresh.applyAll part).identityEpoch = (fresh.applyAll stream).identityEpoch := by
    rw [hM.epoch, hreset, hN.epoch]
  by_cases hknown : (fresh.applyAll stream).state = .known
  · obtain ⟨k, hk, hc, he⟩ := hN.known.mp hknown
    have hkp : k ∈ part := h k hk ⟨he, Or.inl hc⟩
    have hcp := confirms_part h hk hc he
    have hep : k.identityEpoch = lastReset part := he.trans hreset.symm
    have hstate : (fresh.applyAll part).state = .known := hM.known.mpr ⟨k, hkp, hcp, hep⟩
    have hface : (fresh.applyAll part).faceId = (fresh.applyAll stream).faceId :=
      (hM.face k hkp hcp hep).trans (hN.face k hk hc he).symm
    rw [identity, identity, hstate, hknown, hface, hepoch]
  · have hstate : (fresh.applyAll part).state ≠ .known := by
      intro hs
      obtain ⟨k, hk, hc, he⟩ := hM.known.mp hs
      exact hknown (hN.known.mpr
        ⟨k, hpart.subset hk, hc.mono hpart.subset, he.trans hreset⟩)
    have hsame : (fresh.applyAll part).state = (fresh.applyAll stream).state := by
      cases hs : (fresh.applyAll stream).state with
      | known => exact absurd hs hknown
      | pending =>
          cases hp : (fresh.applyAll part).state with
          | known => exact absurd hp hstate
          | pending => rfl
          | unknown =>
              obtain ⟨u, hu, hunk, -⟩ := hM.unknown hp
              exact absurd hunk (hN.pending hs u (hpart.subset hu))
      | unknown =>
          cases hp : (fresh.applyAll part).state with
          | known => exact absurd hp hstate
          | unknown => rfl
          | pending =>
              obtain ⟨u, hu, hunk, -, hd⟩ := exists_decides (hN.unknown hs)
              exact absurd hunk (hM.pending hp u (h u hu hd))
    rw [identity, identity, hsame, hM.noFace hstate, hN.noFace hknown, hepoch]

theorem keeps_of_identity_eq (hem : IsEmitted stream) (hpart : part.Sublist stream)
    (hlast : ∀ a, stream.getLast? = some a → a ∈ part)
    (h : (fresh.applyAll part).identity = (fresh.applyAll stream).identity) :
    ∀ c ∈ stream, Decides stream c → c ∈ part := by
  have hst := hem.isStream
  have hN := reads hst
  have hM := reads (hst.sublist hpart)
  have hstate : (fresh.applyAll part).state = (fresh.applyAll stream).state := congrArg Prod.fst h
  have hreset : lastReset part = lastReset stream := by
    rw [← hM.epoch, ← hN.epoch]
    exact congrArg (fun i => i.2.2) h
  -- the face of the last epoch, if the stream confirms one, is in the part
  have hface : ∀ k ∈ stream, Confirms stream k → k.identityEpoch = lastReset stream →
      k ∈ part ∧ Confirms part k := by
    intro k hk hc he
    have hs : (fresh.applyAll part).state = .known := hstate.trans (hN.known.mpr ⟨k, hk, hc, he⟩)
    obtain ⟨k', hk', hc', he'⟩ := hM.known.mp hs
    have heq : k' = k := hst.eq_of_known (hpart.subset hk') hk hc'.1 hc.1
      (he'.trans (hreset.trans he.symm))
    exact heq ▸ ⟨hk', hc'⟩
  rintro c hc ⟨he, hconf | ⟨hunk, ⟨k, hk, hkn, hke, hlt⟩ | hyoung⟩⟩
  · exact (hface c hc hconf he).1
  · -- a reset that the face of its epoch follows
    have hdrop := hst.mem_dropLast hc hk hlt
    have hconf : Confirms stream k := ⟨hkn, Or.inr ⟨c, hc, hunk, hke.symm, hlt⟩⟩
    obtain ⟨-, -, h1 | ⟨u, hu, hu', hue, hult⟩⟩ := hface k hk hconf (hke.trans he)
    · have := hem.resets c hdrop hunk
      omega
    · have hudrop := hst.mem_dropLast (hpart.subset hu) hk hult
      exact hem.eq_of_reset hudrop hdrop hu' hunk (hue.trans hke) ▸ hu
  · rcases mem_dropLast_or_last hc with hdrop | hl
    · have hgt := hem.resets c hdrop hunk
      rcases lastReset_announced part with h1 | ⟨u, hu, hu', hue⟩
      · omega
      · have hueq : u.identityEpoch = c.identityEpoch := hue.trans (hreset.trans he.symm)
        have hle := hyoung u (hpart.subset hu) hu' hueq
        by_cases heq : u = c
        · exact heq ▸ hu
        · have hult : u.assignmentRevision < c.assignmentRevision := by
            rcases rel_or_rel hst.revisions (hpart.subset hu) hc heq with hr | hr
            · exact hr
            · omega
          have hudrop := hst.mem_dropLast (hpart.subset hu) hc hult
          exact hem.eq_of_reset hudrop hdrop hu' hunk hueq ▸ hu
    · exact hlast c hl

/-- A part that keeps the last assignment leads to the same identity exactly if
it keeps every deciding one. -/
theorem identity_eq_iff (hem : IsEmitted stream) (hpart : part.Sublist stream)
    (hlast : ∀ a, stream.getLast? = some a → a ∈ part) :
    (fresh.applyAll part).identity = (fresh.applyAll stream).identity ↔
      ∀ c ∈ stream, Decides stream c → c ∈ part :=
  ⟨keeps_of_identity_eq hem hpart hlast, identity_eq_of_keeps hem.isStream hpart⟩

end Emitted

/-! ## The queue between the services and the native track -/

/-- A run on a new queue that puts the stream of the track in order, among any
other commands, evicts nothing and ends with the queue drained. -/
structure Delivers (key : TrackKey) (w : IdentityWorker) (r : QueueRun) (ops : List QueueOp) :
    Prop where
  init : commandQueue.init r
  puts : putsFor key.trackerId ops = w.stream key.trackerId
  room : commandQueue.Meets (fun r op => ¬ Evicts r op) r ops
  empty : (commandQueue.run r ops).queue.getNowait = none

theorem coalescing_preserves_iff {key : TrackKey} {w : IdentityWorker} {r : QueueRun}
    {ops : List QueueOp} (hw : (identityWorker key).Reachable w) (h : Delivers key w r ops) :
    (fresh.applyAll ((commandQueue.run r ops).delivered key.trackerId)).identity =
        (fresh.applyAll (w.stream key.trackerId)).identity ↔
      commandQueue.Meets (Spares key.trackerId (Decides (w.stream key.trackerId))) r ops := by
  have hem := (tracked_of_reachable hw).emitted
  have hdrains : Drains key.trackerId r ops := by
    refine ⟨h.init, h.room, ?_, h.empty⟩
    rw [h.puts]
    exact hem.isStream.revisions
  have hsub := hdrains.delivered_sublist
  rw [h.puts] at hsub
  rw [← hdrains.delivers_iff, h.puts]
  refine identity_eq_iff hem hsub fun a ha => ?_
  exact hdrains.getLast_delivered (h.puts ▸ ha)

section Sample

/-- Face `a` is found, then face `b` wins three windows. -/
def sampleChanged : IdentityWorker :=
  (identityWorker sampleKey).run sampleWorker
    [sampleWindow "a" 1 true, sampleWindow "b" 2 true, sampleWindow "b" 3 true,
      sampleWindow "b" 4 true]

theorem sampleChanged_reachable : (identityWorker sampleKey).Reachable sampleChanged :=
  ⟨_, _, sampleWorker_fresh, by decide, rfl⟩

def sampleStream : List IdentityAssignment := sampleChanged.stream 7

example : sampleStream.map
    (fun a => (a.assignmentRevision, a.identityEpoch, a.identityState, a.faceId)) =
      [(1, 1, .known, some "a"), (2, 2, .unknown, none), (3, 2, .known, some "b")] := by decide

def sampleQueue : QueueRun := ⟨⟨256, [], .empty, by decide⟩, []⟩

theorem sampleQueue_init : commandQueue.init sampleQueue := ⟨⟨256, rfl⟩, rfl⟩

/-- The writer takes every assignment before the next is put. -/
def samplePrompt : List QueueOp :=
  sampleStream.flatMap fun a => [.put (.assignment a), .get]

/-- The writer sleeps while the services put the reset and the new face. -/
def sampleLate : List QueueOp :=
  (sampleStream.take 1).map (fun a => .put (.assignment a)) ++ .get ::
    (sampleStream.drop 1).map (fun a => .put (.assignment a)) ++ [.get]

theorem coalescing_preserves_iff_prompt :
    (fresh.applyAll ((commandQueue.run sampleQueue samplePrompt).delivered 7)).identity =
        (fresh.applyAll sampleStream).identity ↔
      commandQueue.Meets (Spares 7 (Decides sampleStream)) sampleQueue samplePrompt :=
  coalescing_preserves_iff sampleChanged_reachable
    ⟨sampleQueue_init, by decide, by decide, rfl⟩

/-- The new face arrives without its reset, and the native track keeps the old one. -/
theorem coalescing_loses_reset :
    ¬ ∀ (key : TrackKey) (w : IdentityWorker) (r : QueueRun) (ops : List QueueOp),
      (identityWorker key).Reachable w →
      (w.stream key.trackerId).Pairwise (fun a b => a.identityEpoch ≤ b.identityEpoch) →
      Delivers key w r ops →
      (fresh.applyAll ((commandQueue.run r ops).delivered key.trackerId)).identity =
        (fresh.applyAll (w.stream key.trackerId)).identity := by
  intro h
  have hlost := h sampleKey sampleChanged sampleQueue sampleLate sampleChanged_reachable
    (by decide) ⟨sampleQueue_init, by decide, by decide, rfl⟩
  revert hlost
  decide

end Sample

end Mvision.Live
