import Mvision.Library.Machine
import Mathlib.Data.List.Nodup
import Mathlib.Data.List.Sublists

/-!
# A mailbox that keeps the newest letter

A mailbox has one slot.  A letter put into a full slot replaces the letter
that waits there, so what is taken out is a selection of what was put in.  The
main rule says when the selection misses no letter of a kind `D`: exactly if
no letter of that kind is replaced while it waits.
-/

namespace Mvision.Library

structure Mailbox (α : Type*) where
  slot : Option α
  taken : List α

namespace Mailbox

variable {α : Type*}

inductive Op (α : Type*) where
  | put (letter : α)
  | take

def empty : Mailbox α := ⟨none, []⟩

/-- Everything taken so far, and what the slot still holds. -/
def kept (m : Mailbox α) : List α := m.taken ++ m.slot.toList

def machine (α : Type*) : Machine (Mailbox α) (Op α) where
  init m := m = empty
  enabled _ _ := True
  next m
    | .put letter => ⟨some letter, m.taken⟩
    | .take => ⟨none, m.kept⟩

/-- The letters put in, in order. -/
def puts : List (Op α) → List α
  | [] => []
  | .put letter :: ops => letter :: puts ops
  | .take :: ops => puts ops

/-- The step replaces no waiting letter of kind `D`. -/
def Spares (D : α → Prop) (m : Mailbox α) : Op α → Prop
  | .put _ => ∀ letter, m.slot = some letter → ¬ D letter
  | .take => True

@[simp] theorem next_put (m : Mailbox α) (letter : α) :
    (machine α).next m (.put letter) = ⟨some letter, m.taken⟩ := rfl

@[simp] theorem next_take (m : Mailbox α) : (machine α).next m .take = ⟨none, m.kept⟩ := rfl

@[simp] theorem kept_mk_none (taken : List α) : kept ⟨none, taken⟩ = taken :=
  List.append_nil taken

@[simp] theorem kept_mk_some (letter : α) (taken : List α) :
    kept ⟨some letter, taken⟩ = taken ++ [letter] := rfl

theorem taken_sublist_kept (m : Mailbox α) : m.taken.Sublist m.kept :=
  List.sublist_append_left _ _

/-- What is kept is a selection, in order, of what was there and what came. -/
theorem kept_sublist (m : Mailbox α) (ops : List (Op α)) :
    ((machine α).run m ops).kept.Sublist (m.kept ++ puts ops) := by
  induction ops generalizing m with
  | nil => simp [puts]
  | cons op ops ih =>
      cases op with
      | put letter =>
          refine (ih ⟨some letter, m.taken⟩).trans ?_
          rw [kept_mk_some, List.append_assoc]
          exact (taken_sublist_kept m).append (List.Sublist.refl _)
      | take =>
          have h := ih ⟨none, m.kept⟩
          rwa [kept_mk_none] at h

theorem taken_subset_kept (m : Mailbox α) (ops : List (Op α)) {letter : α}
    (h : letter ∈ m.taken) : letter ∈ ((machine α).run m ops).kept := by
  induction ops generalizing m with
  | nil => exact List.mem_append_left _ h
  | cons op ops ih =>
      cases op with
      | put _ => exact ih _ h
      | take => exact ih _ (List.mem_append_left _ h)

/-- The newest letter is never lost. -/
theorem getLast_kept (m : Mailbox α) (ops : List (Op α)) {letter : α}
    (h : (m.slot.toList ++ puts ops).getLast? = some letter) :
    letter ∈ ((machine α).run m ops).kept := by
  induction ops generalizing m with
  | nil =>
      rw [puts, List.append_nil] at h
      exact List.mem_append_right _ (List.mem_of_getLast? h)
  | cons op ops ih =>
      cases op with
      | put new =>
          apply ih
          show ([new] ++ puts ops).getLast? = some letter
          rwa [puts, List.getLast?_append_of_ne_nil _ (List.cons_ne_nil _ _)] at h
      | take =>
          cases hp : puts ops with
          | nil =>
              rw [puts, hp, List.append_nil] at h
              apply taken_subset_kept ⟨none, m.kept⟩ ops
              exact List.mem_append_right _ (List.mem_of_getLast? h)
          | cons new rest =>
              apply ih
              rw [puts, hp, List.getLast?_append_of_ne_nil _ (List.cons_ne_nil _ _)] at h
              rw [hp]
              exact h

/-- No letter of kind `D` is missed exactly if none is replaced while it waits. -/
theorem keeps_iff_spares {D : α → Prop} {m : Mailbox α} {ops : List (Op α)}
    (hnd : (m.kept ++ puts ops).Nodup) :
    (∀ letter ∈ m.slot.toList ++ puts ops, D letter → letter ∈ ((machine α).run m ops).kept) ↔
      (machine α).Meets (Spares D) m ops := by
  induction ops generalizing m with
  | nil =>
      rw [puts, List.append_nil]
      exact iff_of_true (fun letter h _ => List.mem_append_right _ h) trivial
  | cons op ops ih =>
      cases op with
      | put new =>
          have hnd' : ((Mailbox.mk (some new) m.taken).kept ++ puts ops).Nodup := by
            rw [kept_mk_some, List.append_assoc]
            exact hnd.sublist ((taken_sublist_kept m).append (List.Sublist.refl _))
          rw [Machine.meets_cons, next_put, ← ih hnd']
          constructor
          · intro h
            refine ⟨?_, ?_⟩
            · -- a replaced letter is a duplicate of nothing that is kept
              intro letter hslot hD
              have hin := h letter (by simp [hslot]) hD
              have hsub := (kept_sublist ⟨some new, m.taken⟩ ops).subset hin
              rw [kept, hslot, Option.toList_some] at hnd
              rw [kept_mk_some, List.append_assoc] at hsub
              rw [List.append_assoc, puts] at hnd
              have hmid := (List.nodup_middle.mp hnd).notMem
              exact hmid hsub
            · intro letter hl
              exact h letter (List.mem_append_right _ hl)
          · rintro ⟨hspare, h⟩ letter hl hD
            rcases List.mem_append.mp hl with hs | hp
            · exact absurd hD (hspare letter (Option.mem_toList.mp hs))
            · exact h letter hp hD
      | take =>
          have hnd' : ((Mailbox.mk none m.kept).kept ++ puts ops).Nodup := by
            rw [kept_mk_none]
            exact hnd
          rw [Machine.meets_cons, next_take, ← ih hnd']
          constructor
          · intro h
            exact ⟨trivial, fun letter hl => h letter (List.mem_append_right _ hl)⟩
          · rintro ⟨-, h⟩ letter hl hD
            rcases List.mem_append.mp hl with hs | hp
            · exact taken_subset_kept ⟨none, m.kept⟩ ops (List.mem_append_right _ hs)
            · exact h letter hp hD

end Mailbox

end Mvision.Library
