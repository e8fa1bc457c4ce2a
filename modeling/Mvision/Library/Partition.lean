import Mathlib.Data.List.Forall2

/-!
# Grouping the items of a list

A loop keeps one state for each group.  An item joins the group of one state, or is a group of its
own.
-/

namespace Mvision.Library

variable {α σ : Type*}

/-- The groups after an item has found its place. -/
inductive Placed (item : α) : List (List α) → List (List α) → Prop
  | alone (groups : List (List α)) : Placed item groups (groups ++ [[item]])
  | joined (before after : List (List α)) (group : List α) :
      Placed item (before ++ group :: after) (before ++ (group ++ [item]) :: after)

theorem Placed.perm {item : α} {groups groups' : List (List α)} (h : Placed item groups groups') :
    groups'.flatten.Perm (groups.flatten ++ [item]) := by
  cases h with
  | alone =>
      rw [List.flatten_append, List.flatten_singleton]
  | joined before after group =>
      rw [List.flatten_append, List.flatten_append, List.flatten_cons, List.flatten_cons,
        List.append_assoc, List.append_assoc, List.append_assoc]
      exact List.Perm.append_left _ (List.perm_append_comm.append_left group)

/-- The group of the state at an index, and what becomes of the groups when it changes. -/
theorem exists_group {R : σ → List α → Prop} {states : List σ} {groups : List (List α)}
    (h : List.Forall₂ R states groups) {index : Nat} {state : σ}
    (hstate : states[index]? = some state) :
    ∃ before group after, groups = before ++ group :: after ∧ R state group ∧
      ∀ state' group', R state' group' →
        List.Forall₂ R (states.set index state') (before ++ group' :: after) := by
  induction h generalizing index with
  | nil => cases hstate
  | @cons first firstGroup rest restGroups hfirst hrest ih =>
      cases index with
      | zero =>
          rw [List.getElem?_cons_zero, Option.some.injEq] at hstate
          subst hstate
          exact ⟨[], firstGroup, restGroups, rfl, hfirst, fun _ _ h => .cons h hrest⟩
      | succ index =>
          rw [List.getElem?_cons_succ] at hstate
          obtain ⟨before, group, after, rfl, hgroup, hset⟩ := ih hstate
          exact ⟨firstGroup :: before, group, after, rfl, hgroup,
            fun state' group' h => .cons hfirst (hset state' group' h)⟩

/-- A loop that finds a place for every item partitions the items. -/
theorem exists_groups {R : σ → List α → Prop} {place : List σ → α → Option (List σ)}
    {items : List α}
    (hplace : ∀ item ∈ items, ∀ states groups, List.Forall₂ R states groups →
      ∃ states' groups', place states item = some states' ∧ List.Forall₂ R states' groups' ∧
        Placed item groups groups')
    {states : List σ} {groups : List (List α)} (h : List.Forall₂ R states groups) :
    ∃ states' groups', items.foldlM place states = some states' ∧
      List.Forall₂ R states' groups' ∧ groups'.flatten.Perm (groups.flatten ++ items) := by
  induction items generalizing states groups with
  | nil =>
      refine ⟨states, groups, rfl, h, ?_⟩
      rw [List.append_nil]
  | cons item rest ih =>
      rw [List.forall_mem_cons] at hplace
      obtain ⟨middle, middleGroups, hitem, hmiddle, hplaced⟩ := hplace.1 states groups h
      obtain ⟨last, lastGroups, hrest, hlast, hperm⟩ := ih hplace.2 hmiddle
      refine ⟨last, lastGroups, ?_, hlast, ?_⟩
      · rw [List.foldlM_cons, hitem]
        exact hrest
      · -- the item is after the ones before it
        rw [List.append_cons groups.flatten item rest]
        exact hperm.trans (hplaced.perm.append_right rest)

end Mvision.Library
