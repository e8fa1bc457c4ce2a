import Mathlib.Data.List.Basic
import Mathlib.Logic.Function.Basic
import Mathlib.Tactic.Common

/-!
# Threads that store words

The threads of a kernel store one value each, in any order.  Where all that store to an address
store the same value, the memory does not depend on the order, nor on what was there before.
-/

namespace Mvision.Library

variable {τ ν : Type*}

/-- A store to an address, or none. -/
def store (memory : Nat → ν) : Option (Nat × ν) → Nat → ν
  | none => memory
  | some (address, value) => Function.update memory address value

/-- The memory after the stores of all threads. -/
def runThreads (kernel : τ → Option (Nat × ν)) (threads : List τ) (memory : Nat → ν) : Nat → ν :=
  threads.foldl (fun memory thread => store memory (kernel thread)) memory

section Stores

variable {kernel : τ → Option (Nat × ν)} {threads : List τ} {address : Nat} {value : ν}

theorem store_cases (memory : Nat → ν) (thread : τ) (address : Nat) :
    (∃ value, kernel thread = some (address, value) ∧
        store memory (kernel thread) address = value) ∨
      store memory (kernel thread) address = memory address := by
  cases h : kernel thread with
  | none => exact .inr rfl
  | some target =>
      obtain ⟨stored, value⟩ := target
      by_cases haddress : stored = address
      · subst haddress
        exact .inl ⟨value, rfl, Function.update_self ..⟩
      · exact .inr (Function.update_of_ne (Ne.symm haddress) ..)

/-- A value stays where no other is stored. -/
theorem runThreads_keeps {memory : Nat → ν}
    (hsame : ∀ thread ∈ threads, ∀ v, kernel thread = some (address, v) → v = value)
    (hmemory : memory address = value) : runThreads kernel threads memory address = value := by
  induction threads generalizing memory with
  | nil => exact hmemory
  | cons thread threads ih =>
      rw [List.forall_mem_cons] at hsame
      apply ih hsame.2
      rcases @store_cases _ _ kernel memory thread address with ⟨v, hstore, heq⟩ | heq
      · exact heq.trans (hsame.1 v hstore)
      · exact heq.trans hmemory

theorem runThreads_eq {memory : Nat → ν}
    (hsame : ∀ thread ∈ threads, ∀ v, kernel thread = some (address, v) → v = value)
    (hstored : ∃ thread ∈ threads, kernel thread = some (address, value)) :
    runThreads kernel threads memory address = value := by
  induction threads generalizing memory with
  | nil =>
      obtain ⟨thread, hthread, -⟩ := hstored
      cases hthread
  | cons thread threads ih =>
      rw [List.forall_mem_cons] at hsame
      obtain ⟨other, hother, hstore⟩ := hstored
      rcases List.mem_cons.mp hother with rfl | hrest
      · -- this thread stores it, and what comes later does not change it
        apply runThreads_keeps hsame.2
        show store memory (kernel other) address = value
        rw [hstore]
        exact Function.update_self ..
      · exact ih hsame.2 ⟨other, hrest, hstore⟩

/-- The thread of an address stores there, and no other one does. -/
theorem runThreads_own {kernel : Nat → Option ν} {threads : List Nat} {memory : Nat → ν}
    {address : Nat} {value : ν} (hmem : address ∈ threads) (hvalue : kernel address = some value) :
    runThreads (fun thread => (kernel thread).map fun v => (thread, v)) threads memory address =
      value := by
  apply runThreads_eq
  · intro thread _ v hstore
    obtain ⟨w, hw, heq⟩ := Option.map_eq_some_iff.mp hstore
    obtain ⟨rfl, rfl⟩ := Prod.mk.inj heq
    exact Option.some.inj (hw.symm.trans hvalue)
  · exact ⟨address, hmem, by rw [hvalue]; rfl⟩

end Stores

/-! ## Lists in memory -/

/-- Values from an address on. -/
def storeList (memory : Nat → ν) (start : Nat) (values : List ν) (address : Nat) : ν :=
  if address < start then memory address
  else (values[address - start]?).getD (memory address)

theorem storeList_of_lt {memory : Nat → ν} {start i : Nat} {values : List ν}
    (h : i < values.length) : storeList memory start values (start + i) = values[i] := by
  unfold storeList
  rw [if_neg (by omega), Nat.add_sub_cancel_left, List.getElem?_eq_getElem h, Option.getD_some]

/-- Other addresses keep what they have. -/
theorem storeList_other {memory : Nat → ν} {start address : Nat} {values : List ν}
    (h : address < start ∨ start + values.length ≤ address) :
    storeList memory start values address = memory address := by
  unfold storeList
  split
  · rfl
  · rw [List.getElem?_eq_none (by omega), Option.getD_none]

/-! ## Words of bits -/

variable {w : Nat}

/-- Set the bits of a word for which a condition holds, one after the other. -/
def setBits (p : Nat → Bool) (items : List Nat) (mask : BitVec w) : BitVec w :=
  items.foldl (fun mask item => if p item then mask ||| (1#w <<< item) else mask) mask

theorem getLsbD_one_shiftLeft (item i : Nat) :
    (1#w <<< item).getLsbD i = (decide (i < w) && decide (i = item)) := by
  rw [BitVec.getLsbD_shiftLeft, BitVec.getLsbD_one]
  by_cases hi : i < w
  · by_cases hitem : i = item
    · subst hitem
      simp [hi, Nat.zero_lt_of_lt hi]
    · have hsplit : i < item ∨ i - item ≠ 0 := by omega
      rcases hsplit with h | h
      · simp [hitem, h]
      · simp [hitem, h]
  · simp [hi]

theorem getLsbD_setBits (p : Nat → Bool) (items : List Nat) (mask : BitVec w) (i : Nat) :
    (setBits p items mask).getLsbD i =
      (mask.getLsbD i || (decide (i < w) && (decide (i ∈ items) && p i))) := by
  induction items generalizing mask with
  | nil => simp [setBits]
  | cons item items ih =>
      rw [setBits, List.foldl_cons, ← setBits, ih]
      by_cases hitem : i = item
      · subst hitem
        split
        · rename_i hp
          rw [BitVec.getLsbD_or, getLsbD_one_shiftLeft]
          cases decide (i < w) <;> simp [hp]
        · rename_i hp
          simp [hp]
      · split
        · rw [BitVec.getLsbD_or, getLsbD_one_shiftLeft]
          simp [hitem]
        · simp [hitem]

/-- The test of one bit. -/
theorem and_one_shiftLeft_ne_zero {x : BitVec w} {i : Nat} (h : i < w) :
    x &&& (1#w <<< i) ≠ 0#w ↔ x.getLsbD i = true := by
  constructor
  · intro hne
    by_contra hbit
    apply hne
    apply BitVec.eq_of_getLsbD_eq
    intro j hj
    rw [BitVec.getLsbD_and, getLsbD_one_shiftLeft, BitVec.getLsbD_zero]
    by_cases hij : j = i
    · subst hij
      rw [Bool.not_eq_true] at hbit
      rw [hbit, Bool.false_and]
    · rw [decide_eq_false hij, Bool.and_false, Bool.and_false]
  · intro hbit hzero
    have hsame : (x &&& (1#w <<< i)).getLsbD i = (0#w).getLsbD i := by rw [hzero]
    rw [BitVec.getLsbD_and, getLsbD_one_shiftLeft, BitVec.getLsbD_zero, hbit, decide_eq_true h,
      decide_eq_true rfl] at hsame
    cases hsame

end Mvision.Library
