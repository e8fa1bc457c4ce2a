import Mvision.Live.EventService
import Mvision.Live.TrackState

/-!
# The assignments of one track, as the services emit them

While a track lives, each window adds nothing, a reset, a face, or a reset and
a face to its stream.  `Grows` is what stays true of the stream on the way, in
terms of the epoch, the revision and the face that the services hold.
-/

namespace Mvision.Live

open LiveEventService

theorem assignmentAt_unknown (evidence : TrackEvidenceEvent) (decision : LiveIdentityDecision)
    (r : Nat) : (assignmentAt evidence decision .unknown r).Unknown := rfl

theorem assignmentAt_known {evidence : TrackEvidenceEvent} {decision : LiveIdentityDecision}
    {found : FaceMatch} (h : decision.faceMatch = some found) (r : Nat) :
    (assignmentAt evidence decision .known r).Known := by
  refine ⟨rfl, ?_⟩
  simp [assignmentAt, h]

/-- What a call puts into the command queue: nothing when it raises. -/
def issued : Except LiveEventError (List IdentityAssignment) → List IdentityAssignment
  | .ok commands => commands
  | .error _ => []

/-- The stream of a track that lives in epoch `e`, up to revision `r`.  A known
track may have used up its epoch. -/
structure Grows (stream : List IdentityAssignment) (e r : Nat) (known : Prop) : Prop where
  revisions : stream.Pairwise (fun a b => a.assignmentRevision < b.assignmentRevision)
  bounds : ∀ a ∈ stream, 0 < a.assignmentRevision ∧ a.assignmentRevision ≤ r
  states : ∀ a ∈ stream, a.Known ∨ a.Unknown
  epochs : ∀ a ∈ stream, 1 ≤ a.identityEpoch ∧ a.identityEpoch ≤ e
  oneKnown : stream.Pairwise (fun a b => a.Known → b.Known → a.identityEpoch ≠ b.identityEpoch)
  oneReset : stream.Pairwise
    (fun a b => a.Unknown → b.Unknown → a.identityEpoch ≠ b.identityEpoch)
  resets : ∀ u ∈ stream, u.Unknown → 1 < u.identityEpoch
  vacant : ¬ known → ∀ k ∈ stream, k.Known → k.identityEpoch < e

/-- A stream that may have ended with the report of an expired track. -/
structure IsEmitted (stream : List IdentityAssignment) : Prop where
  isStream : IsStream stream
  oneReset : stream.dropLast.Pairwise
    (fun a b => a.Unknown → b.Unknown → a.identityEpoch ≠ b.identityEpoch)
  resets : ∀ u ∈ stream.dropLast, u.Unknown → 1 < u.identityEpoch

section Grows

variable {stream : List IdentityAssignment} {e r : Nat} {known known' : Prop}
  {a : IdentityAssignment}

theorem Grows.nil (r : Nat) : Grows [] 1 r False where
  revisions := List.Pairwise.nil
  bounds := fun a ha => by cases ha
  states := fun a ha => by cases ha
  epochs := fun a ha => by cases ha
  oneKnown := List.Pairwise.nil
  oneReset := List.Pairwise.nil
  resets := fun a ha => by cases ha
  vacant := fun _ a ha => by cases ha

theorem Grows.imp (h : Grows stream e r known) (hk : known → known') :
    Grows stream e r known' :=
  { h with vacant := fun hn => h.vacant fun hk' => hn (hk hk') }

/-- A new epoch is vacant, also when its reset has been lost. -/
theorem Grows.bump (h : Grows stream e r known) : Grows stream (e + 1) r known' :=
  { h with
    epochs := fun a ha => ⟨(h.epochs a ha).1, Nat.le_succ_of_le (h.epochs a ha).2⟩
    vacant := fun _ a ha _ => Nat.lt_succ_of_le (h.epochs a ha).2 }

theorem Grows.isStream (h : Grows stream e r known) : IsStream stream where
  revisions := h.revisions
  positive a ha := (h.bounds a ha).1
  states := h.states
  epochs a ha := (h.epochs a ha).1
  oneKnown := h.oneKnown

theorem pairwise_concat {R : IdentityAssignment → IdentityAssignment → Prop}
    (h : stream.Pairwise R) (ha : ∀ b ∈ stream, R b a) : (stream ++ [a]).Pairwise R := by
  rw [List.pairwise_append]
  refine ⟨h, List.pairwise_singleton R a, ?_⟩
  intro b hb c hc
  rw [List.mem_singleton.mp hc]
  exact ha b hb

theorem forall_concat {P : IdentityAssignment → Prop} (h : ∀ b ∈ stream, P b) (ha : P a) :
    ∀ b ∈ stream ++ [a], P b := by
  intro b hb
  rcases List.mem_append.mp hb with hb | hb
  · exact h b hb
  · rwa [List.mem_singleton.mp hb]

/-- A reset opens the next epoch. -/
theorem Grows.reset (h : Grows stream e r known) (hu : a.Unknown)
    (hr : a.assignmentRevision = r + 1) (he : a.identityEpoch = e + 1) (hpos : 1 ≤ e) :
    Grows (stream ++ [a]) (e + 1) (r + 1) known' where
  revisions := pairwise_concat h.revisions fun b hb => by
    have := (h.bounds b hb).2
    omega
  bounds := forall_concat (fun b hb => by
    have := h.bounds b hb
    omega) (by omega)
  states := forall_concat h.states (Or.inr hu)
  epochs := forall_concat (fun b hb => by
    have := h.epochs b hb
    omega) (by omega)
  oneKnown := pairwise_concat h.oneKnown fun b _ _ hk => absurd hu hk.not_unknown
  oneReset := pairwise_concat h.oneReset fun b hb _ _ => by
    have := (h.epochs b hb).2
    omega
  resets := forall_concat h.resets fun _ => by omega
  vacant := fun _ => forall_concat (fun b hb _ => by
    have := (h.epochs b hb).2
    omega) fun hk => absurd hu hk.not_unknown

/-- A face takes a vacant epoch. -/
theorem Grows.face (h : Grows stream e r known) (hv : ¬ known) (hk : a.Known)
    (hr : a.assignmentRevision = r + 1) (he : a.identityEpoch = e) (hpos : 1 ≤ e) :
    Grows (stream ++ [a]) e (r + 1) True where
  revisions := pairwise_concat h.revisions fun b hb => by
    have := (h.bounds b hb).2
    omega
  bounds := forall_concat (fun b hb => by
    have := h.bounds b hb
    omega) (by omega)
  states := forall_concat h.states (Or.inl hk)
  epochs := forall_concat h.epochs (by omega)
  oneKnown := pairwise_concat h.oneKnown fun b hb hbk _ => by
    have := h.vacant hv b hb hbk
    omega
  oneReset := pairwise_concat h.oneReset fun b _ _ hu => absurd hu hk.not_unknown
  resets := forall_concat h.resets fun hu => absurd hu hk.not_unknown
  vacant := fun hn => absurd trivial hn

theorem Grows.isEmitted (h : Grows stream e r known) : IsEmitted stream where
  isStream := h.isStream
  oneReset := h.oneReset.sublist (List.dropLast_sublist stream)
  resets u hu := h.resets u (List.dropLast_subset stream hu)

/-- The last report of an expired track may repeat an epoch. -/
theorem Grows.expire (h : Grows stream e r known) (hu : a.Unknown)
    (hr : a.assignmentRevision = r + 1) (hpos : 1 ≤ a.identityEpoch) :
    IsEmitted (stream ++ [a]) where
  isStream := {
    revisions := pairwise_concat h.revisions fun b hb => by
      have := (h.bounds b hb).2
      omega
    positive := forall_concat (fun b hb => (h.bounds b hb).1) (by omega)
    states := forall_concat h.states (Or.inr hu)
    epochs := forall_concat (fun b hb => (h.epochs b hb).1) hpos
    oneKnown := pairwise_concat h.oneKnown fun b _ _ hk => absurd hu hk.not_unknown }
  oneReset := by
    rw [List.dropLast_concat]
    exact h.oneReset
  resets := by
    rw [List.dropLast_concat]
    exact h.resets

end Grows

/-- What one window does to the stream of its own track. -/
theorem Grows.window {stream : List IdentityAssignment} {state state' : TrackIdentity}
    {s : LiveEventService} {evidence : TrackEvidenceEvent} {decision : LiveIdentityDecision}
    {result : Except LiveEventError (List IdentityAssignment)}
    {revisions : String × Nat → Option Nat}
    (h : Grows stream state.identityEpoch (s.revision evidence.trackKey)
      (state.knownMatch ≠ none))
    (hpos : 1 ≤ state.identityEpoch) (hres : Resolution state decision state')
    (hacc : Accepted s evidence decision result revisions) :
    Grows (stream ++ issued result) state'.identityEpoch
      ((revisions evidence.trackKey).getD 0) (state'.knownMatch ≠ none) := by
  have hsilent : Grows (stream ++ issued (.ok [])) state.identityEpoch
      ((s.revisions evidence.trackKey).getD 0) (state.knownMatch ≠ none) := by
    rw [issued, List.append_nil]
    exact h
  cases hres with
  | stays ht _ he hk =>
      cases hacc with
      | silent => rw [he, hk]; exact hsilent
      | failed _ hne => exact absurd ht hne
      | unmatched ht' => rw [ht] at ht'; cases ht'
      | reset ht' => rw [ht] at ht'; cases ht'
      | known _ ht' => rw [ht] at ht'; cases ht'
      | replaced _ ht' => rw [ht] at ht'; cases ht'
  | gaveUp ht hd he _ hk =>
      rw [he]
      cases hacc with
      | failed => exact hsilent.bump
      | reset =>
          rw [Function.update_self, Option.getD_some]
          exact h.reset (assignmentAt_unknown evidence decision _) rfl hd hpos
      | silent ht' => rw [ht] at ht'; cases ht'
      | unmatched ht' => rw [ht] at ht'; cases ht'
      | known _ ht' => rw [ht] at ht'; cases ht'
      | replaced _ ht' => rw [ht] at ht'; cases ht'
  | identified found ht hm hv hr hd he hnone hk =>
      rw [he]
      cases hacc with
      | failed => exact hsilent.imp fun _ => by rw [hk]; exact Option.some_ne_none found
      | unmatched _ hno =>
          rcases hno with hno | hno
          · rw [hm] at hno
            cases hno
          · exact absurd hno hv
      | known _ _ hm' =>
          rw [Function.update_self, Option.getD_some]
          refine (h.face (fun hne => hne hnone) (assignmentAt_known hm' _) rfl hd hpos).imp ?_
          intro _
          rw [hk]
          exact Option.some_ne_none found
      | replaced _ _ _ hr' => rw [hr] at hr'; cases hr'
      | silent ht' => rw [ht] at ht'; cases ht'
      | reset ht' => rw [ht] at ht'; cases ht'
  | replaced found ht hm hv hr hd he _ hk =>
      rw [he]
      cases hacc with
      | failed => exact hsilent.bump
      | unmatched _ hno =>
          rcases hno with hno | hno
          · rw [hm] at hno
            cases hno
          · exact absurd hno hv
      | known _ _ _ hr' => rw [hr] at hr'; cases hr'
      | replaced _ _ hm' =>
          rw [Function.update_self, Option.getD_some]
          have hreset : Grows _ (state.identityEpoch + 1)
              (s.revision evidence.trackKey + 1) False :=
            h.reset (assignmentAt_unknown evidence decision _) rfl hd hpos
          have hk' : (assignmentAt evidence decision .known
              (s.revision evidence.trackKey + 2)).Known := assignmentAt_known hm' _
          have hface := hreset.face not_false hk' rfl hd (by omega)
          rw [List.append_assoc] at hface
          refine hface.imp ?_
          intro _
          rw [hk]
          exact Option.some_ne_none found
      | silent ht' => rw [ht] at ht'; cases ht'
      | reset ht' => rw [ht] at ht'; cases ht'

end Mvision.Live
