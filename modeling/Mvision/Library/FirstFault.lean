import Mvision.Library.Checks

/-!
# The first fault

A computation that checks one thing after the other ends with the error of the first check that
fails.  Where some errors may escape and others may not, it is safe exactly if no check that lets
one escape is reached: each of them has a failing check before it.
-/

namespace Mvision.Library

/-- A check as its input decides it: whether it passes, and whether an error escapes it. -/
structure Field where
  accepts : Bool
  escapes : Bool
deriving DecidableEq, Repr

namespace Field

/-- A check that rejects, and lets no error escape. -/
def test (accepts : Bool) : Field := ⟨accepts, false⟩

def AllAccept (fields : List Field) : Prop := ∀ field ∈ fields, field.accepts = true

/-- No error escapes the checks before one of them rejects. -/
def Clean : List Field → Prop
  | [] => True
  | field :: fields => field.escapes = false ∧ (field.accepts = true → Clean fields)

instance decidableClean : ∀ fields : List Field, Decidable (Clean fields)
  | [] => isTrue trivial
  | _ :: fields =>
      @instDecidableAnd _ _ _ (@instDecidableForall _ _ _ (decidableClean fields))

theorem clean_cons {field : Field} {fields : List Field} :
    Clean (field :: fields) ↔ field.escapes = false ∧ (field.accepts = true → Clean fields) :=
  Iff.rfl

theorem clean_append {before after : List Field} :
    Clean (before ++ after) ↔ Clean before ∧ (AllAccept before → Clean after) := by
  induction before with
  | nil => simp [Clean, AllAccept]
  | cons field before ih =>
      rw [List.cons_append, clean_cons, clean_cons, ih]
      unfold AllAccept
      rw [List.forall_mem_cons]
      constructor
      · rintro ⟨hescapes, hrest⟩
        exact ⟨⟨hescapes, fun h => (hrest h).1⟩, fun h => (hrest h.1).2 h.2⟩
      · rintro ⟨⟨hescapes, hbefore⟩, hafter⟩
        exact ⟨hescapes, fun h => ⟨hbefore h, fun hall => hafter ⟨h, hall⟩⟩⟩

end Field

open Mvision.Library.Field

variable {ε α β : Type} {escaping : ε → Bool}

/-- The computation ends with an error that escapes. -/
def Escapes (escaping : ε → Bool) (x : Except ε α) : Prop := ∃ e, x = .error e ∧ escaping e = true

theorem escapes_error {e : ε} : Escapes escaping (.error e : Except ε α) ↔ escaping e = true := by
  constructor
  · rintro ⟨e', he, h⟩
    obtain rfl := Except.error.inj he
    exact h
  · intro h
    exact ⟨e, rfl, h⟩

theorem not_escapes_ok {a : α} : ¬ Escapes escaping (.ok a : Except ε α) := by
  rintro ⟨e, he, -⟩
  cases he

/-- The checks decide whether the computation succeeds and whether an error escapes it. -/
structure Describes (escaping : ε → Bool) (fields : List Field) (x : Except ε α) : Prop where
  accepts : (∃ a, x = .ok a) ↔ AllAccept fields
  escapes : Escapes escaping x ↔ ¬ Clean fields

namespace Describes

theorem pure (a : α) : Describes escaping [] (.ok a) := by
  exact ⟨iff_of_true ⟨a, rfl⟩ (List.forall_mem_nil _),
    iff_of_false not_escapes_ok (not_not_intro trivial)⟩

/-- One check. -/
theorem single {field : Field} {x : Except ε α} (haccepts : (∃ a, x = .ok a) ↔ field.accepts = true)
    (hescapes : Escapes escaping x ↔ field.escapes = true) : Describes escaping [field] x := by
  refine ⟨?_, ?_⟩
  · unfold AllAccept
    rw [List.forall_mem_singleton]
    exact haccepts
  · rw [hescapes, clean_cons]
    simp [Clean]

/-- A check that rejects without letting an error escape. -/
theorem test {accepts : Bool} {x : Except ε α} (haccepts : (∃ a, x = .ok a) ↔ accepts = true)
    (hsafe : ∀ e, x = .error e → escaping e = false) :
    Describes escaping [Field.test accepts] x := by
  apply single haccepts
  refine iff_of_false ?_ Bool.false_ne_true
  rintro ⟨e, he, hescaping⟩
  rw [hsafe e he] at hescaping
  cases hescaping

/-- One computation after the other. -/
theorem bind {before after : List Field} {x : Except ε α} {f : α → Except ε β}
    (hx : Describes escaping before x)
    (hf : ∀ a, x = .ok a → Describes escaping after (f a)) :
    Describes escaping (before ++ after) (x >>= f) := by
  cases x with
  | error e =>
      have hnot : ¬ AllAccept before := by
        rw [← hx.accepts]
        rintro ⟨a, ha⟩
        cases ha
      refine ⟨?_, ?_⟩
      · refine iff_of_false ?_ ?_
        · rintro ⟨b, hb⟩
          cases hb
        · intro hall
          exact hnot fun field hfield => hall field (List.mem_append_left _ hfield)
      · show Escapes escaping (.error e : Except ε β) ↔ _
        rw [escapes_error, ← escapes_error (α := α), hx.escapes, clean_append,
          and_iff_left fun hall => absurd hall hnot]
  | ok a =>
      have hafter := hf a rfl
      have hall : AllAccept before := hx.accepts.mp ⟨a, rfl⟩
      have hclean : Clean before := by
        rw [← not_not (a := Clean before), ← hx.escapes]
        exact not_escapes_ok
      refine ⟨?_, ?_⟩
      · show (∃ b, f a = .ok b) ↔ _
        rw [hafter.accepts]
        unfold AllAccept at *
        rw [List.forall_mem_append]
        exact (and_iff_right hall).symm
      · show Escapes escaping (f a) ↔ _
        rw [hafter.escapes, clean_append, and_iff_right hclean, imp_iff_right hall]

/-- One check, and the rest. -/
theorem step {field : Field} {after : List Field} {x : Except ε α} {f : α → Except ε β}
    (hx : Describes escaping [field] x) (hf : ∀ a, x = .ok a → Describes escaping after (f a)) :
    Describes escaping (field :: after) (x >>= f) :=
  bind hx hf

/-- The last computation, with something made of its result. -/
theorem last {fields : List Field} {x : Except ε α} (hx : Describes escaping fields x)
    (f : α → β) : Describes escaping fields (x >>= fun a => .ok (f a)) := by
  have hbind := bind hx fun a _ => pure (f a)
  rwa [List.append_nil] at hbind

/-- What is returned does not matter. -/
theorem map {fields : List Field} {x : Except ε α} (hx : Describes escaping fields x)
    (f : α → β) : Describes escaping fields (f <$> x) := by
  refine ⟨exists_map_ok_iff.trans hx.accepts, ?_⟩
  rw [← hx.escapes]
  cases x with
  | error e => exact escapes_error.trans escapes_error.symm
  | ok a => exact iff_of_false not_escapes_ok not_escapes_ok

/-- A loop, with the checks of each item. -/
theorem mapM {items : List α} {f : α → Except ε β} {fields : α → List Field}
    (h : ∀ item ∈ items, Describes escaping (fields item) (f item)) :
    Describes escaping (items.flatMap fields) (items.mapM f) := by
  induction items with
  | nil => exact pure []
  | cons item items ih =>
      rw [List.forall_mem_cons] at h
      rw [List.mapM_cons, List.flatMap_cons]
      apply bind h.1
      intro b _
      exact last (ih h.2) fun results => b :: results

end Describes

end Mvision.Library
