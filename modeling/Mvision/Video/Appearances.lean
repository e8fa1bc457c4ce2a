import Mvision.Video.Tracking

/-!
# The appearances of a track

`_finalize` cuts the detections of a track where the gap is too long.  Its appearances are
those of the maximal runs of detections, which `List.splitBy` gives at once.
-/

namespace Mvision.Video.Tracking

variable {K : Type} [Field K] [LinearOrder K] {maxGap : K}

/-- Two detections in a row that belong to one appearance. -/
def near (maxGap : K) (a b : VideoDetection K) : Bool :=
  decide (b.timestamp - a.timestamp ≤ maxGap)

/-- The maximal runs of detections without a long gap. -/
def blocks (maxGap : K) (detections : List (VideoDetection K)) : List (List (VideoDetection K)) :=
  detections.splitBy (near maxGap)

/-- The appearance goes from the first detection of the block to its last. -/
def Spans (block : List (VideoDetection K)) (item : Appearance K) : Prop :=
  ∃ h : block ≠ [],
    item = ⟨(block.head h).timestamp, (block.getLast h).timestamp, (block.head h).frame,
      (block.getLast h).frame⟩

/-- The duration before it is rounded. -/
def duration (items : List (Appearance K)) : K := (items.map fun item => item.stop - item.start).sum

/-! ## The loop -/

theorem appearances_cons (start previous detection : VideoDetection K)
    (rest : List (VideoDetection K)) :
    appearances maxGap start previous (detection :: rest) =
      if maxGap < detection.timestamp - previous.timestamp then
        appearance start previous :: appearances maxGap detection detection rest
      else appearances maxGap start detection rest :=
  rfl

/-- The open block of the loop is a run that ends in `previous`. -/
theorem spans_appearances (rest : List (VideoDetection K)) {block : List (VideoDetection K)}
    (hne : block ≠ []) (hblock : block.IsChain fun a b => near maxGap a b) :
    List.Forall₂ Spans (blocks maxGap (block ++ rest))
      (appearances maxGap (block.head hne) (block.getLast hne) rest) := by
  have hone : blocks maxGap block = [block] := List.splitBy_of_isChain hne hblock
  induction rest generalizing block with
  | nil =>
      rw [List.append_nil, hone]
      exact .cons ⟨hne, rfl⟩ .nil
  | cons detection rest ih =>
      rw [appearances_cons]
      split
      · -- the block ends here, and the next one starts with this detection
        rename_i hgap
        have hcut : blocks maxGap (block ++ detection :: rest) =
            block :: blocks maxGap (detection :: rest) := by
          have hsplit : blocks maxGap (block ++ detection :: rest) =
              blocks maxGap block ++ blocks maxGap (detection :: rest) := by
            apply List.splitBy_append_cons
            intro last hlast
            rw [List.getLast?_eq_getLast_of_ne_nil hne, Option.mem_some_iff] at hlast
            rw [← hlast]
            exact decide_eq_false (not_le.mpr hgap)
          rw [hsplit, hone, List.singleton_append]
        rw [hcut]
        have hsingle : [detection].IsChain fun a b => near maxGap a b := List.isChain_singleton _
        exact .cons ⟨hne, rfl⟩
          (ih (List.cons_ne_nil _ _) hsingle (List.splitBy_of_isChain (by simp) hsingle))
      · rename_i hgap
        have hlonger : (block ++ [detection]).IsChain fun a b => near maxGap a b := by
          rw [List.isChain_append]
          refine ⟨hblock, List.isChain_singleton _, ?_⟩
          intro last hlast first hfirst
          rw [List.getLast?_eq_getLast_of_ne_nil hne, Option.mem_some_iff] at hlast
          obtain rfl : detection = first := by simpa using hfirst
          rw [← hlast]
          exact decide_eq_true (not_lt.mp hgap)
        have hne' : block ++ [detection] ≠ [] := by simp
        have hrest := ih hne' hlonger (List.splitBy_of_isChain hne' hlonger)
        rw [List.head_append_of_ne_nil hne, List.getLast_append_singleton,
          List.append_assoc] at hrest
        exact hrest

/-- The loop over a list with a long gap in it. -/
theorem appearances_append {start previous detection : VideoDetection K}
    {front rest : List (VideoDetection K)}
    (hgap : maxGap < detection.timestamp -
      ((previous :: front).getLast (List.cons_ne_nil _ _)).timestamp) :
    appearances maxGap start previous (front ++ detection :: rest) =
      appearances maxGap start previous front ++ appearances maxGap detection detection rest := by
  induction front generalizing start previous with
  | nil =>
      rw [List.getLast_singleton] at hgap
      rw [List.nil_append, appearances_cons, if_pos hgap]
      rfl
  | cons first front ih =>
      rw [List.getLast_cons (List.cons_ne_nil _ _)] at hgap
      rw [List.cons_append, appearances_cons, appearances_cons]
      split
      · rw [ih hgap, List.cons_append]
      · exact ih hgap

omit [LinearOrder K] in
@[simp] theorem duration_cons (item : Appearance K) (items : List (Appearance K)) :
    duration (item :: items) = item.stop - item.start + duration items := by
  rw [duration, List.map_cons, List.sum_cons, duration]

/-- The gaps between the blocks are not part of the duration. -/
theorem duration_appearances_le [IsStrictOrderedRing K] (hgap : 0 ≤ maxGap)
    (rest : List (VideoDetection K)) {start previous : VideoDetection K} :
    duration (appearances maxGap start previous rest) ≤
      ((previous :: rest).getLast (List.cons_ne_nil _ _)).timestamp - start.timestamp := by
  induction rest generalizing start previous with
  | nil =>
      rw [appearances, duration_cons, List.getLast_singleton]
      exact (add_zero _).le
  | cons detection rest ih =>
      rw [List.getLast_cons (List.cons_ne_nil _ _), appearances_cons]
      split
      · rename_i hlong
        have hrest := @ih detection detection
        rw [duration_cons]
        dsimp only [appearance]
        linarith
      · exact ih

/-! ## `_finalize` -/

/-- What `_finalize` does with the detections of a track. -/
theorem finalize_blocks [IsStrictOrderedRing K] (hgap : 0 ≤ maxGap) (roundSix : K → K)
    (track : WorkingTrack K) :
    List.Forall₂ Spans (blocks maxGap track.detections)
        (finalize maxGap roundSix track).appearances ∧
      duration (finalize maxGap roundSix track).appearances ≤
        (finalize maxGap roundSix track).lastSeen - (finalize maxGap roundSix track).firstSeen := by
  have hsplit : [track.detections.head track.sighted] ++ track.detections.tail =
      track.detections := List.cons_head_tail track.sighted
  constructor
  · have hspans := @spans_appearances _ _ _ maxGap track.detections.tail _
      (List.cons_ne_nil (track.detections.head track.sighted) []) (List.isChain_singleton _)
    rw [hsplit] at hspans
    exact hspans
  · have hle := @duration_appearances_le _ _ _ _ _ hgap track.detections.tail
      (track.detections.head track.sighted) (track.detections.head track.sighted)
    have hlast : (track.detections.head track.sighted :: track.detections.tail).getLast
        (List.cons_ne_nil _ _) = track.detections.getLast track.sighted := by
      congr 1
    rw [hlast] at hle
    exact hle

/-- Between the blocks the gap is too long. -/
def Apart (maxGap : K) (a b : List (VideoDetection K)) : Prop :=
  ∃ (ha : a ≠ []) (hb : b ≠ []), maxGap < (b.head hb).timestamp - (a.getLast ha).timestamp

/-- The time from the first detection of a block to its last. -/
def extent : List (VideoDetection K) → K
  | [] => 0
  | first :: rest =>
      ((first :: rest).getLast (List.cons_ne_nil _ _)).timestamp - first.timestamp

omit [LinearOrder K] in
theorem duration_eq_sum {parts : List (List (VideoDetection K))} {items : List (Appearance K)}
    (h : List.Forall₂ Spans parts items) : duration items = (parts.map extent).sum := by
  induction h with
  | nil => rfl
  | @cons block item parts items hspans hrest ih =>
      obtain ⟨hne, rfl⟩ := hspans
      rw [duration_cons, List.map_cons, List.sum_cons, ih]
      cases block with
      | nil => exact absurd rfl hne
      | cons first rest => rfl

/-- The blocks are the maximal runs. -/
theorem isChain_apart_blocks (detections : List (VideoDetection K)) :
    (blocks maxGap detections).IsChain (Apart maxGap) := by
  apply (List.isChain_getLast_head_splitBy (near maxGap) detections).imp
  rintro a b ⟨ha, hb, hfar⟩
  exact ⟨ha, hb, not_le.mp (of_decide_eq_false hfar)⟩

theorem isChain_of_mem_blocks {detections block : List (VideoDetection K)}
    (h : block ∈ blocks maxGap detections) :
    block.IsChain fun a b => b.timestamp - a.timestamp ≤ maxGap :=
  (List.isChain_of_mem_splitBy h).imp fun _ _ => of_decide_eq_true

/-! ## Merged tracks -/

/-- The frames and the timestamps do not decrease. -/
def Chronological (detections : List (VideoDetection K)) : Prop :=
  detections.Pairwise fun a b => a.frame ≤ b.frame ∧ a.timestamp ≤ b.timestamp

section Merged

variable {first second : List (VideoDetection K)}

omit [Field K] in
/-- Every two detections of such a list are in the same order by frame and by timestamp. -/
theorem Chronological.agree {detections : List (VideoDetection K)}
    (h : Chronological detections) {a b : VideoDetection K} (ha : a ∈ detections)
    (hb : b ∈ detections) :
    (a.frame ≤ b.frame ∧ a.timestamp ≤ b.timestamp) ∨
      (b.frame ≤ a.frame ∧ b.timestamp ≤ a.timestamp) := by
  let Agree := fun a b : VideoDetection K =>
    (a.frame ≤ b.frame ∧ a.timestamp ≤ b.timestamp) ∨
      (b.frame ≤ a.frame ∧ b.timestamp ≤ a.timestamp)
  have hsymm : Std.Symm Agree := ⟨fun _ _ => Or.symm⟩
  have hpairs : detections.Pairwise Agree := h.imp Or.inl
  have hself : ∀ x ∈ detections, Agree x x := fun x _ => .inl ⟨le_rfl, le_rfl⟩
  exact List.Pairwise.forall_of_forall hself hpairs ha hb

omit [Field K] in
theorem Chronological.head_le {detections : List (VideoDetection K)}
    (h : Chronological detections) (hne : detections ≠ []) :
    ∀ a ∈ detections, (detections.head hne).timestamp ≤ a.timestamp := by
  cases detections with
  | nil => exact absurd rfl hne
  | cons start rest =>
      rw [List.forall_mem_cons]
      exact ⟨le_rfl, fun a ha => ((List.pairwise_cons.mp h).1 a ha).2⟩

omit [Field K] in
theorem Chronological.le_getLast {detections : List (VideoDetection K)}
    (h : Chronological detections) (hne : detections ≠ []) :
    ∀ a ∈ detections, a.timestamp ≤ (detections.getLast hne).timestamp := by
  have hsplit := List.dropLast_append_getLast hne
  intro a ha
  rw [Chronological, ← hsplit, List.pairwise_append] at h
  rw [← hsplit, List.mem_append, List.mem_singleton] at ha
  rcases ha with ha | rfl
  · exact (h.2.2 a ha _ (List.mem_singleton_self _)).2
  · exact le_rfl

omit [Field K] [LinearOrder K] in
/-- Detections that are later than all of a list are inserted after it. -/
theorem orderedInsert_append {detection : VideoDetection K}
    (h : ∀ a ∈ first, ¬ detection.frame ≤ a.frame) (rest : List (VideoDetection K)) :
    (first ++ rest).orderedInsert (fun a b => a.frame ≤ b.frame) detection =
      first ++ rest.orderedInsert (fun a b => a.frame ≤ b.frame) detection := by
  induction first with
  | nil => rfl
  | cons start front ih =>
      rw [List.forall_mem_cons] at h
      rw [List.cons_append, List.orderedInsert_cons, if_neg h.1, ih h.2, List.cons_append]

omit [Field K] [LinearOrder K] in
theorem sortByFrame_append_comm (hfirst : sortByFrame first = first)
    (h : ∀ b ∈ second, ∀ a ∈ first, ¬ b.frame ≤ a.frame) :
    sortByFrame (second ++ first) = first ++ sortByFrame second := by
  induction second with
  | nil => exact hfirst.trans (List.append_nil first).symm
  | cons detection second ih =>
      rw [List.forall_mem_cons] at h
      have hrest := ih h.2
      unfold sortByFrame at hrest ⊢
      rw [List.cons_append, List.insertionSort_cons, hrest, orderedInsert_append h.1,
        List.insertionSort_cons]

omit [Field K] [LinearOrder K] in
theorem sortByFrame_eq_self {detections : List (VideoDetection K)}
    (h : detections.Pairwise fun a b => a.frame ≤ b.frame) : sortByFrame detections = detections :=
  List.Pairwise.insertionSort_eq h

omit [Field K] in
/-- Where all of a list comes before all of another, the merged list is the one and then the
other, in whichever order they are merged. -/
theorem sortByFrame_merged (hfirst : Chronological first) (hsecond : Chronological second)
    (hbefore : ∀ a ∈ first, ∀ b ∈ second, a.timestamp < b.timestamp)
    {merged : List (VideoDetection K)}
    (hmerged : merged = first ++ second ∨ merged = second ++ first)
    (hchron : Chronological (sortByFrame merged)) : sortByFrame merged = first ++ second := by
  have hframes : ∀ a ∈ first, ∀ b ∈ second, a.frame ≤ b.frame := by
    intro a ha b hb
    have hmem : ∀ c, c ∈ first ∨ c ∈ second → c ∈ sortByFrame merged := by
      intro c hc
      rw [(perm_sortByFrame merged).mem_iff]
      rcases hmerged with rfl | rfl
      · exact List.mem_append.mpr hc
      · exact List.mem_append.mpr hc.symm
    rcases hchron.agree (hmem a (.inl ha)) (hmem b (.inr hb)) with hle | hge
    · exact hle.1
    · exact absurd (hbefore a ha b hb) (not_lt.mpr hge.2)
  rcases hmerged with rfl | rfl
  · apply sortByFrame_eq_self
    rw [List.pairwise_append]
    exact ⟨hfirst.imp And.left, hsecond.imp And.left, hframes⟩
  · -- a frame in common would leave the later detection first
    have hstrict : ∀ b ∈ second, ∀ a ∈ first, ¬ b.frame ≤ a.frame := by
      intro b hb a ha hle
      have hpair : [b, a].Sublist (second ++ first) :=
        (List.singleton_sublist.mpr hb).append (List.singleton_sublist.mpr ha)
      have hsorted := List.sublist_insertionSort (r := fun a b => a.frame ≤ b.frame)
        (List.pairwise_pair.mpr hle) hpair
      have hlate := List.pairwise_pair.mp (hchron.sublist hsorted)
      exact absurd (hbefore a ha b hb) (not_lt.mpr hlate.2)
    rw [sortByFrame_append_comm (sortByFrame_eq_self (hfirst.imp And.left)) hstrict,
      sortByFrame_eq_self (hsecond.imp And.left)]

theorem appearances_finalize {roundSix : K → K} {track : WorkingTrack K}
    {start : VideoDetection K} {rest : List (VideoDetection K)}
    (h : track.detections = start :: rest) :
    (finalize maxGap roundSix track).appearances = appearances maxGap start start rest := by
  simp only [finalize, h, List.head_cons, List.tail_cons]

/-- The appearances of a track that was merged from two with a long gap between them. -/
theorem finalize_merged (roundSix : K → K) {early late merged : WorkingTrack K}
    (hgap : maxGap < (late.detections.head late.sighted).timestamp -
      (early.detections.getLast early.sighted).timestamp)
    (hmerged : merged.detections = early.detections ++ late.detections) :
    (finalize maxGap roundSix merged).appearances =
      (finalize maxGap roundSix early).appearances ++
        (finalize maxGap roundSix late).appearances := by
  obtain ⟨start, front, hearly⟩ := List.exists_cons_of_ne_nil early.sighted
  obtain ⟨detection, rest, hlate⟩ := List.exists_cons_of_ne_nil late.sighted
  rw [hearly, hlate, List.cons_append] at hmerged
  simp only [hearly, hlate, List.head_cons] at hgap
  rw [appearances_finalize hmerged, appearances_finalize hearly, appearances_finalize hlate,
    appearances_append hgap]

end Merged

/-! ## The result -/

/-- The appearances of a track are those of the maximal runs of its detections, and those of two
tracks far from each other stay as they are when the tracks are merged. -/
theorem appearances_are_maximal_runs [IsStrictOrderedRing K] (hgap : 0 ≤ maxGap)
    (roundSix : K → K) (track : WorkingTrack K) :
    let result := finalize maxGap roundSix track
    let parts := blocks maxGap track.detections
    parts.flatten = track.detections ∧
      (∀ block ∈ parts, block ≠ [] ∧
        block.IsChain fun a b => b.timestamp - a.timestamp ≤ maxGap) ∧
      parts.IsChain (Apart maxGap) ∧
      List.Forall₂ Spans parts result.appearances ∧
      result.totalDuration = roundSix (duration result.appearances) ∧
      duration result.appearances = (parts.map extent).sum ∧
      duration result.appearances ≤ result.lastSeen - result.firstSeen ∧
      ∀ later merged : WorkingTrack K, Chronological track.detections →
        Chronological later.detections →
        maxGap < (later.detections.head later.sighted).timestamp -
          (track.detections.getLast track.sighted).timestamp →
        (merged.detections = sortByFrame (track.detections ++ later.detections) ∨
          merged.detections = sortByFrame (later.detections ++ track.detections)) →
        Chronological merged.detections →
        (finalize maxGap roundSix merged).appearances =
          result.appearances ++ (finalize maxGap roundSix later).appearances := by
  intro result parts
  obtain ⟨hspans, hle⟩ := finalize_blocks hgap roundSix track
  refine ⟨List.flatten_splitBy _ _, ?_, isChain_apart_blocks _, hspans, rfl,
    duration_eq_sum hspans, hle, ?_⟩
  · intro block hblock
    exact ⟨List.ne_nil_of_mem_splitBy hblock, isChain_of_mem_blocks hblock⟩
  · intro later merged htrack hlater hfar hmerged hchron
    have hbefore : ∀ a ∈ track.detections, ∀ b ∈ later.detections,
        a.timestamp < b.timestamp := by
      intro a ha b hb
      have hlast := htrack.le_getLast track.sighted a ha
      have hhead := hlater.head_le later.sighted b hb
      linarith
    apply finalize_merged roundSix hfar
    rcases hmerged with hmerged | hmerged
    · rw [hmerged] at hchron ⊢
      exact sortByFrame_merged htrack hlater hbefore (.inl rfl) hchron
    · rw [hmerged] at hchron ⊢
      exact sortByFrame_merged htrack hlater hbefore (.inr rfl) hchron

/-- A detection of a frame at 25 frames a second. -/
def detectionAt (frame : Int) : VideoDetection ℚ where
  frame := frame
  timestamp := frame / 25
  x := 0
  y := 0
  width := 40
  height := 40
  detectorConfidence := 9 / 10
  landmarks := []

def trackOf (detections : List (VideoDetection ℚ)) (sighted : detections ≠ []) :
    WorkingTrack ℚ where
  trackId := "track"
  sourceTrackerIds := [1]
  sourceEmbeddings := [[1]]
  sourceTemplates := []
  embedding := [1]
  representativeJpeg := []
  representativeScore := 9 / 10
  detections := detections
  sighted := sighted

/-- Seen in frames 0 to 2 and in frame 60. -/
def seenTwice : WorkingTrack ℚ :=
  trackOf [detectionAt 0, detectionAt 1, detectionAt 2, detectionAt 60] (List.cons_ne_nil _ _)

/-- Seen in frames 200 and 201. -/
def seenLate : WorkingTrack ℚ :=
  trackOf [detectionAt 200, detectionAt 201] (List.cons_ne_nil _ _)

def seenInAll : WorkingTrack ℚ :=
  trackOf (sortByFrame (seenLate.detections ++ seenTwice.detections))
    (sortByFrame_ne_nil (List.cons_ne_nil _ _))

theorem appearances_seenInAll :
    (0 : ℚ) ≤ 1 ∧
      List.Forall₂ Spans (blocks 1 seenTwice.detections) (finalize 1 id seenTwice).appearances ∧
      (finalize 1 id seenInAll).appearances =
        [⟨0, 2 / 25, 0, 2⟩, ⟨60 / 25, 60 / 25, 60, 60⟩] ++ [⟨200 / 25, 201 / 25, 200, 201⟩] := by
  have hgap : (0 : ℚ) ≤ 1 := by decide
  have hruns := appearances_are_maximal_runs hgap id seenTwice
  have hearly : Chronological seenTwice.detections := by unfold Chronological; decide +kernel
  have hlate : Chronological seenLate.detections := by unfold Chronological; decide +kernel
  have hall : Chronological seenInAll.detections := by unfold Chronological; decide +kernel
  have hmerged := hruns.2.2.2.2.2.2.2 seenLate seenInAll hearly hlate (by decide +kernel)
    (.inr rfl) hall
  refine ⟨hgap, hruns.2.2.2.1, hmerged.trans ?_⟩
  decide +kernel

end Mvision.Video.Tracking
