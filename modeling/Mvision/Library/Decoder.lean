import Mathlib.Data.List.Basic
import Mathlib.Logic.Function.Basic
import Mathlib.Order.Basic
import Mathlib.Tactic.Common

/-!
# Decoders with a state

A decoder reads one input after the other, accepts or rejects each, and keeps a state between
them.  Two rules: what a rejected input must leave for the rest to be decoded as if it had never
come, and what makes the marks of accepted inputs increase.
-/

namespace Mvision.Library

abbrev Decoder (σ φ ε μ : Type*) := σ → φ → Except ε μ × σ

namespace Decoder

variable {σ φ ε μ : Type*} (decode : Decoder σ φ ε μ)

/-- What becomes of the inputs of a list. -/
def results : σ → List φ → List (Except ε μ)
  | _, [] => []
  | s, input :: inputs => (decode s input).1 :: results (decode s input).2 inputs

/-- The state after a list of inputs. -/
def after : σ → List φ → σ
  | s, [] => s
  | s, input :: inputs => after (decode s input).2 inputs

theorem results_append (s : σ) (before rest : List φ) :
    results decode s (before ++ rest) =
      results decode s before ++ results decode (after decode s before) rest := by
  induction before generalizing s with
  | nil => rfl
  | cons input inputs ih => exact congrArg _ (ih _)

@[simp] theorem length_results (s : σ) (inputs : List φ) :
    (results decode s inputs).length = inputs.length := by
  induction inputs generalizing s with
  | nil => rfl
  | cons input inputs ih => exact congrArg (· + 1) (ih _)

variable {decode}

/-- A property of every input that is accepted in a state with an invariant. -/
theorem forall_mem_results {I : σ → Prop} {P : μ → Prop}
    (hkeep : ∀ s input, I s → I (decode s input).2)
    (h : ∀ s input message, I s → (decode s input).1 = .ok message → P message) {s : σ}
    (hs : I s) {inputs : List φ} {message : μ} (hmem : .ok message ∈ results decode s inputs) :
    P message := by
  induction inputs generalizing s with
  | nil => cases hmem
  | cons input inputs ih =>
      rcases List.mem_cons.mp hmem with hfirst | hrest
      · exact h s input message hs hfirst.symm
      · exact ih (hkeep s input hs) hrest

/-! ## Rejected inputs -/

/-- A relation between states that no input tells apart. -/
structure Alike (decode : Decoder σ φ ε μ) (R : σ → σ → Prop) : Prop where
  result : ∀ {s t}, R s t → ∀ input, (decode s input).1 = (decode t input).1
  next : ∀ {s t}, R s t → ∀ input, R (decode s input).2 (decode t input).2

/-- A state is like itself. -/
theorem Alike.equal (decode : Decoder σ φ ε μ) : Alike decode Eq where
  result h input := congrArg (fun s => (decode s input).1) h
  next h input := congrArg (fun s => (decode s input).2) h

variable {R : σ → σ → Prop}

theorem Alike.results_eq (h : Alike decode R) {s t : σ} (hst : R s t) (inputs : List φ) :
    results decode s inputs = results decode t inputs := by
  induction inputs generalizing s t with
  | nil => rfl
  | cons input inputs ih =>
      show (decode s input).1 :: _ = (decode t input).1 :: _
      rw [h.result hst, ih (h.next hst input)]

/-- If a rejection leaves a state that no input tells from the one before, then the other inputs
of a list are decoded as if the rejected one had never come. -/
theorem Alike.results_eraseIdx (h : Alike decode R)
    (hrejected : ∀ s input e, (decode s input).1 = .error e → R (decode s input).2 s)
    {s : σ} {before rest : List φ} {input : φ} {e : ε}
    (hresult : (results decode s (before ++ input :: rest))[before.length]? = some (.error e)) :
    (results decode s (before ++ input :: rest)).eraseIdx before.length =
      results decode s (before ++ rest) := by
  have hlength : (results decode s before).length = before.length := length_results ..
  rw [results_append] at hresult ⊢
  rw [← hlength] at hresult ⊢
  rw [List.getElem?_append_right (Nat.le_refl _), Nat.sub_self] at hresult
  rw [List.eraseIdx_append_of_length_le (Nat.le_refl _), Nat.sub_self, results_append]
  have hhead : (decode (after decode s before) input).1 = .error e := Option.some.inj hresult
  exact congrArg _ (h.results_eq (hrejected _ _ _ hhead) rest)

/-! ## Marks -/

section Marks

variable {κ ν : Type*} [DecidableEq κ]

/-- The mark of a result if it is an accepted input with this key. -/
def markOf (mark : μ → Option (κ × ν)) (key : κ) : Except ε μ → Option ν
  | .ok message => (mark message).bind fun entry => if entry.1 = key then some entry.2 else none
  | .error _ => none

/-- The marks of one key in the accepted inputs. -/
def marksOf (mark : μ → Option (κ × ν)) (key : κ) (results : List (Except ε μ)) : List ν :=
  results.filterMap (markOf mark key)

variable {mark : μ → Option (κ × ν)} {key : κ} {value : ν}

theorem markOf_eq_some {result : Except ε μ} (h : markOf mark key result = some value) :
    ∃ message, result = .ok message ∧ mark message = some (key, value) := by
  cases result with
  | error e => cases h
  | ok message =>
      obtain ⟨⟨key', value'⟩, hentry, hvalue⟩ := Option.bind_eq_some_iff.mp h
      obtain ⟨rfl, heq⟩ := Option.ite_none_right_eq_some.mp hvalue
      obtain rfl := Option.some.inj heq
      exact ⟨message, rfl, hentry⟩

variable [Preorder ν] {last : σ → κ → ν}

theorem last_lt_of_mem_marksOf (hkeep : ∀ s input key, last s key ≤ last (decode s input).2 key)
    (hmark : ∀ s input message key value, (decode s input).1 = .ok message →
      mark message = some (key, value) → last s key < value ∧ value ≤ last (decode s input).2 key)
    {s : σ} {inputs : List φ} (h : value ∈ marksOf mark key (results decode s inputs)) :
    last s key < value := by
  induction inputs generalizing s with
  | nil => cases h
  | cons input inputs ih =>
      obtain ⟨result, hresult, hvalue⟩ := List.mem_filterMap.mp h
      rcases List.mem_cons.mp hresult with rfl | hresult
      · obtain ⟨message, hdecode, hentry⟩ := markOf_eq_some hvalue
        exact (hmark s input message key value hdecode hentry).1
      · exact (hkeep s input key).trans_lt (ih (List.mem_filterMap.mpr ⟨result, hresult, hvalue⟩))

/-- If the state keeps the last mark of each key, and only greater ones are accepted, the marks
of a key increase. -/
theorem pairwise_marksOf (hkeep : ∀ s input key, last s key ≤ last (decode s input).2 key)
    (hmark : ∀ s input message key value, (decode s input).1 = .ok message →
      mark message = some (key, value) → last s key < value ∧ value ≤ last (decode s input).2 key)
    (s : σ) (inputs : List φ) (key : κ) :
    (marksOf mark key (results decode s inputs)).Pairwise (· < ·) := by
  induction inputs generalizing s with
  | nil => exact List.Pairwise.nil
  | cons input inputs ih =>
      show (List.filterMap _ ((decode s input).1 :: _)).Pairwise (· < ·)
      rw [List.filterMap_cons]
      split
      · exact ih _
      · rename_i value hvalue
        obtain ⟨message, hdecode, hentry⟩ := markOf_eq_some hvalue
        -- the state after the input keeps its mark, and all later marks are above that
        have hlast := (hmark s input message key value hdecode hentry).2
        exact List.pairwise_cons.mpr
          ⟨fun later hlater => hlast.trans_lt (last_lt_of_mem_marksOf hkeep hmark hlater), ih _⟩

end Marks

/-! ## Gates -/

section Gate

variable {κ ν : Type*} [DecidableEq κ]

/-- An optional entry in a map with a default. -/
theorem getD_update (entries : κ → Option ν) (key key' : κ) (value default : ν) :
    (Function.update entries key (some value) key').getD default =
      if key' = key then value else (entries key').getD default := by
  rw [Function.update_apply]
  split <;> rfl

/-- The last marks after an accepted message. -/
def marked : Option (κ × ν) → (κ → ν) → κ → ν
  | some (key, value), last => fun key' => if key' = key then value else last key'
  | none, last => last

variable [Preorder ν]

/-- A decoder for messages that its state owns.  It accepts a mark only above the last one of its
key, and a rejected input leaves a state that no input tells from the one before. -/
structure Gate (decode : Decoder σ φ ε μ) (owns : σ → μ → Prop) (last : σ → κ → ν)
    (mark : μ → Option (κ × ν)) (R : σ → σ → Prop) : Prop where
  alike : Alike decode R
  owns_eq : ∀ {s t}, R s t → owns s = owns t
  last_eq : ∀ {s t}, R s t → last s = last t
  step : ∀ s input, (∃ e, (decode s input).1 = .error e ∧ R (decode s input).2 s) ∨
    ∃ message, (decode s input).1 = .ok message ∧ owns s message ∧
      owns (decode s input).2 = owns s ∧
      (∀ key value, mark message = some (key, value) → last s key < value) ∧
      last (decode s input).2 = marked (mark message) (last s)

variable {owns : σ → μ → Prop} {last : σ → κ → ν} {mark : μ → Option (κ × ν)}
  {s : σ} {input : φ} {message : μ}

namespace Gate

theorem owns_next (h : Gate decode owns last mark R) (s : σ) (input : φ) :
    owns (decode s input).2 = owns s := by
  rcases h.step s input with ⟨e, -, hsame⟩ | ⟨message, -, -, howns, -⟩
  · exact h.owns_eq hsame
  · exact howns

theorem last_le_next (h : Gate decode owns last mark R) (s : σ) (input : φ) (key : κ) :
    last s key ≤ last (decode s input).2 key := by
  rcases h.step s input with ⟨e, -, hsame⟩ | ⟨message, -, -, -, hfresh, hlast⟩
  · rw [h.last_eq hsame]
  · rw [hlast]
    cases hmark : mark message with
    | none => exact le_rfl
    | some entry =>
        show last s key ≤ if key = entry.1 then entry.2 else last s key
        split
        · next hkey => exact hkey ▸ (hfresh entry.1 entry.2 hmark).le
        · exact le_rfl

/-- What holds of an input that is accepted. -/
theorem accepted (h : Gate decode owns last mark R) (hok : (decode s input).1 = .ok message) :
    owns s message ∧ ∀ key value, mark message = some (key, value) →
      last s key < value ∧ value ≤ last (decode s input).2 key := by
  rcases h.step s input with ⟨e, herror, -⟩ | ⟨message', hok', howns, -, hfresh, hlast⟩
  · rw [herror] at hok
    cases hok
  · obtain rfl := Except.ok.inj (hok.symm.trans hok')
    refine ⟨howns, ?_⟩
    intro key value hmark
    refine ⟨hfresh key value hmark, ?_⟩
    rw [hlast, hmark]
    exact (if_pos rfl).ge

theorem rejected (h : Gate decode owns last mark R) {e : ε}
    (herror : (decode s input).1 = .error e) : R (decode s input).2 s := by
  rcases h.step s input with ⟨e, -, hsame⟩ | ⟨message, hok, -⟩
  · exact hsame
  · rw [hok] at herror
    cases herror

/-- Every accepted message belongs to the state before the first input. -/
theorem owns_of_mem (h : Gate decode owns last mark R) {inputs : List φ}
    (hmem : .ok message ∈ results decode s inputs) : owns s message := by
  refine forall_mem_results (I := fun t => owns t = owns s) ?_ ?_ rfl hmem
  · intro t input hsame
    exact (h.owns_next t input).trans hsame
  · intro t input message hsame hok
    exact hsame ▸ (h.accepted hok).1

/-- The accepted marks of a key increase. -/
theorem increasing (h : Gate decode owns last mark R) (s : σ) (inputs : List φ) (key : κ) :
    (marksOf mark key (results decode s inputs)).Pairwise (· < ·) :=
  pairwise_marksOf h.last_le_next (fun _ _ _ key value hok => (h.accepted hok).2 key value) s
    inputs key

end Gate

end Gate

end Decoder

end Mvision.Library
