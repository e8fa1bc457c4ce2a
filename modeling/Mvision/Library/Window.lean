import Mathlib.Data.List.DropRight
import Mathlib.Data.List.Perm.Subperm
import Mathlib.Data.List.Sort

/-!
# Windows over a stream

The items of a stream whose keys come up for the first time, and the last of them.
-/

namespace Mvision.Library

variable {α κ : Type*}

section Firsts

variable [DecidableEq κ] (key : α → κ)

/-- The items whose keys are new. -/
def firsts (seen : List κ) : List α → List α
  | [] => []
  | item :: rest =>
      if key item ∈ seen then firsts seen rest else item :: firsts (key item :: seen) rest

variable {key} {seen : List κ} {items : List α} {item : α}

theorem firsts_sublist : (firsts key seen items).Sublist items := by
  induction items generalizing seen with
  | nil => exact .slnil
  | cons first rest ih =>
      unfold firsts
      split
      · exact ih.cons first
      · exact ih.cons_cons first

theorem mem_firsts :
    item ∈ firsts key seen items ↔
      key item ∉ seen ∧ items.find? (fun other => key other = key item) = some item := by
  induction items generalizing seen with
  | nil => exact iff_of_false List.not_mem_nil fun h => Option.some_ne_none item h.2.symm
  | cons first rest ih =>
      unfold firsts
      by_cases hkey : key first = key item
      · -- an item is the first with its key, or there is one before it
        rw [List.find?_cons, decide_eq_true hkey]
        dsimp only
        rw [Option.some.injEq]
        split
        · rename_i hseen
          rw [ih]
          exact iff_of_false (fun h => h.1 (hkey ▸ hseen)) fun h => h.1 (hkey ▸ hseen)
        · rename_i hnew
          rw [List.mem_cons, ih]
          constructor
          · rintro (rfl | ⟨hnot, -⟩)
            · exact ⟨hnew, rfl⟩
            · exact absurd (hkey ▸ List.mem_cons_self) hnot
          · rintro ⟨-, rfl⟩
            exact .inl rfl
      · rw [List.find?_cons, decide_eq_false hkey]
        dsimp only
        split
        · exact ih
        · rw [List.mem_cons, ih, List.mem_cons, not_or]
          constructor
          · rintro (rfl | ⟨⟨-, hnot⟩, hfind⟩)
            · exact absurd rfl hkey
            · exact ⟨hnot, hfind⟩
          · rintro ⟨hnot, hfind⟩
            exact .inr ⟨⟨Ne.symm hkey, hnot⟩, hfind⟩

theorem firsts_congr {seen' : List κ} (h : ∀ k, k ∈ seen ↔ k ∈ seen') :
    firsts key seen items = firsts key seen' items := by
  induction items generalizing seen seen' with
  | nil => rfl
  | cons first rest ih =>
      have hcons : ∀ k, k ∈ key first :: seen ↔ k ∈ key first :: seen' := by
        intro k
        rw [List.mem_cons, List.mem_cons, h]
      unfold firsts
      rw [ih h, ih hcons]
      simp only [h]

theorem pairwise_firsts : (firsts key seen items).Pairwise fun a b => key a ≠ key b := by
  induction items generalizing seen with
  | nil => exact .nil
  | cons first rest ih =>
      unfold firsts
      split
      · exact ih
      · refine List.pairwise_cons.mpr ⟨fun later hlater heq => ?_, ih⟩
        exact (mem_firsts.mp hlater).1 (heq ▸ List.mem_cons_self)

/-- Items that agree on the first of every key agree on what is new. -/
theorem firsts_perm {other : List α}
    (h : ∀ item, other.find? (fun a => key a = key item) = items.find? fun a => key a = key item) :
    (firsts key seen other).Perm (firsts key seen items) := by
  have hnodup (items : List α) : (firsts key seen items).Nodup :=
    pairwise_firsts.imp fun hkey heq => hkey (congrArg key heq)
  rw [List.perm_ext_iff_of_nodup (hnodup other) (hnodup items)]
  intro item
  rw [mem_firsts, mem_firsts, h]

end Firsts

section Sorting

variable [LinearOrder κ] {key : α → κ}

/-- A stable sort does not change the first item of a key. -/
theorem find?_insertionSort (items : List α) (k : κ) :
    (items.insertionSort fun a b => key a ≤ key b).find? (fun item => key item = k) =
      items.find? fun item => key item = k := by
  have hinsert (first : α) (sorted : List α) :
      (sorted.orderedInsert (fun a b => key a ≤ key b) first).find? (fun item => key item = k) =
        (first :: sorted).find? fun item => key item = k := by
    induction sorted with
    | nil => rfl
    | cons second rest ih =>
        rw [List.orderedInsert_cons]
        split
        · rfl
        · -- the item passes one with a smaller key
          rename_i hlt
          by_cases hsecond : key second = k
          · have hfirst : ¬ key first = k := fun h => hlt (h.trans hsecond.symm).le
            simp [hsecond, hfirst]
          · rw [List.find?_cons_of_neg (by simpa using hsecond), ih]
            simp only [List.find?_cons, hsecond, decide_false]
  induction items with
  | nil => rfl
  | cons first rest ih =>
      rw [List.insertionSort_cons, hinsert, List.find?_cons, List.find?_cons, ih]

end Sorting

section Last

theorem rtake_append (a b : List α) (n : Nat) :
    (a ++ b).rtake n = a.drop (a.length + b.length - n) ++ b.rtake n := by
  unfold List.rtake
  rw [List.length_append, List.drop_append]
  congr 2
  omega

/-- Items behind the last ones push out the same items. -/
theorem rtake_rtake_append (a b : List α) (n : Nat) : (a.rtake n ++ b).rtake n = (a ++ b).rtake n := by
  rw [rtake_append, rtake_append]
  congr 1
  unfold List.rtake
  rw [List.drop_drop, List.length_drop]
  congr 1
  omega

theorem rtake_cons (first : α) (rest : List α) (n : Nat) :
    (first :: rest).rtake n = if rest.length < n then first :: rest else rest.rtake n := by
  unfold List.rtake
  rw [List.length_cons]
  split
  · rw [Nat.sub_eq_zero_of_le (by omega), List.drop_zero]
  · rw [Nat.succ_sub (by omega), List.drop_succ_cons]

section Order

variable {R : α → α → Prop} [IsTrans α R] {a b : List α} {n : Nat}

/-- In an ordered list, what comes after its last item comes after all of it. -/
theorem forall_of_getLast (h : a.Pairwise R) {item : α} (hlast : ∀ last ∈ a.getLast?, R last item) :
    ∀ earlier ∈ a, R earlier item := by
  intro earlier hearlier
  obtain ⟨front, last, rfl⟩ := List.eq_nil_or_concat a |>.resolve_left (List.ne_nil_of_mem hearlier)
  rw [List.concat_eq_append] at h hlast hearlier
  have hitem : R last item := hlast last (by simp)
  rcases List.mem_append.mp hearlier with hfront | hend
  · exact IsTrans.trans _ _ _
      ((List.pairwise_append.mp h).2.2 earlier hfront last List.mem_cons_self) hitem
  · rw [List.mem_singleton.mp hend]
    exact hitem

/-- The last items of two ordered lists are in order if the second list has all of them, or goes on
where the first one ends. -/
theorem pairwise_rtake_append_iff (ha : a.Pairwise R) (hb : b.Pairwise R) :
    ((a ++ b).rtake n).Pairwise R ↔
      n ≤ b.length ∨ ∀ last ∈ a.getLast?, ∀ item ∈ b, R last item := by
  rw [rtake_append]
  by_cases hall : n ≤ b.length
  · -- nothing is left of the first list
    rw [List.drop_eq_nil_of_le (by omega), List.nil_append]
    exact iff_of_true (hb.sublist (List.drop_sublist _ _)) (.inl hall)
  · have hb_eq : b.rtake n = b := by
      unfold List.rtake
      rw [Nat.sub_eq_zero_of_le (by omega), List.drop_zero]
    rw [hb_eq, or_iff_right hall, List.pairwise_append]
    constructor
    · rintro ⟨-, -, hcross⟩ last hlast item hitem
      refine hcross last ?_ item hitem
      have hlength : 0 < a.length := List.length_pos_of_mem (List.mem_of_mem_getLast? hlast)
      have hdrop : (a.drop (a.length + b.length - n)).getLast? = a.getLast? := by
        rw [List.getLast?_drop, if_neg (by omega)]
      exact List.mem_of_mem_getLast? (hdrop ▸ hlast)
    · intro hlast
      refine ⟨ha.sublist (List.drop_sublist _ _), hb, fun earlier hearlier item hitem => ?_⟩
      exact forall_of_getLast ha (fun last h => hlast last h item hitem) earlier
        (List.mem_of_mem_drop hearlier)

end Order

variable [LinearOrder κ] {key : α → κ}

/-- Of items in order, the last are those with few behind them. -/
theorem mem_rtake_of_pairwise {items : List α} {item : α} {n : Nat}
    (h : items.Pairwise fun a b => key a < key b) :
    item ∈ items.rtake n ↔ item ∈ items ∧ items.countP (fun other => key item < key other) < n := by
  induction items with
  | nil => exact iff_of_false (by simp) fun h => List.not_mem_nil h.1
  | cons first rest ih =>
      obtain ⟨hfirst, hrest⟩ := List.pairwise_cons.mp h
      have hcount (hmem : item ∈ first :: rest) :
          (first :: rest).countP (fun other => key item < key other) =
            rest.countP fun other => key item < key other := by
        have hle : key first ≤ key item := by
          rcases List.mem_cons.mp hmem with rfl | hmem
          · exact le_rfl
          · exact (hfirst item hmem).le
        exact List.countP_cons_of_neg (by simpa using hle)
      rw [rtake_cons]
      split
      · rename_i hshort
        refine (and_iff_left_of_imp fun hmem => ?_).symm
        rw [hcount hmem]
        exact List.countP_le_length.trans_lt hshort
      · rename_i hlong
        rw [ih hrest]
        constructor
        · rintro ⟨hmem, hfew⟩
          rw [hcount (List.mem_cons_of_mem first hmem)]
          exact ⟨List.mem_cons_of_mem first hmem, hfew⟩
        · rintro ⟨hmem, hfew⟩
          rw [hcount hmem] at hfew
          rcases List.mem_cons.mp hmem with rfl | hmem
          · -- all the others are behind the first item
            have hall : rest.countP (fun other => key item < key other) = rest.length :=
              List.countP_eq_length.mpr fun other hother => decide_eq_true (hfirst other hother)
            omega
          · exact ⟨hmem, hfew⟩

/-- The last new items of a stream in the order of their keys. -/
theorem mem_rtake_firsts (seen : List κ) (items : List α) {item : α} {n : Nat} :
    item ∈ (firsts key seen (items.insertionSort fun a b => key a ≤ key b)).rtake n ↔
      item ∈ firsts key seen items ∧
        (firsts key seen items).countP (fun other => key item < key other) < n := by
  have htotal : Std.Total fun a b : α => key a ≤ key b := ⟨fun a b => le_total (key a) (key b)⟩
  have htrans : IsTrans α fun a b => key a ≤ key b := ⟨fun _ _ _ => le_trans⟩
  have hincreasing : (firsts key seen (items.insertionSort fun a b => key a ≤ key b)).Pairwise
      fun a b => key a < key b := by
    have hsorted := List.pairwise_insertionSort (fun a b : α => key a ≤ key b) items
    exact ((hsorted.sublist firsts_sublist).and pairwise_firsts).imp fun h =>
      lt_of_le_of_ne h.1 h.2
  have hperm : (firsts key seen (items.insertionSort fun a b => key a ≤ key b)).Perm
      (firsts key seen items) :=
    firsts_perm fun item => find?_insertionSort items (key item)
  rw [mem_rtake_of_pairwise hincreasing, hperm.mem_iff, hperm.countP_eq]

end Last

end Mvision.Library
