import Mathlib.Algebra.Order.Floor.Semiring
import Mathlib.Data.List.Sort
import Mathlib.Data.Rat.Floor
import Mvision.Library.Loops
import Mvision.Library.Window

/-!
# Reading page by page

Rows with distinct keys of a linear order, and a reader who asks for the rows behind the last one
seen, a bounded number at a time, until a page is empty.
-/

namespace Mvision.Library

variable {ρ κ ε : Type*} [LinearOrder κ] (key : ρ → κ)

/-- `ORDER BY key` -/
def ordered (rows : List ρ) : List ρ := rows.insertionSort fun r s => key r ≤ key s

/-- `WHERE cursor < key`, without a cursor all of them. -/
def rowsBehind (last : Option ρ) (rows : List ρ) : List ρ :=
  rows.filter fun r => ∀ l ∈ last, key l < key r

/-- `LIMIT limit` -/
def page (rows : List ρ) (limit : Nat) (last : Option ρ) : List ρ :=
  (ordered key (rowsBehind key last rows)).take limit

/-- The reader asks for the page behind the last row, until a page is empty. -/
def readPass (ask : Option ρ → Except ε (List ρ)) (state : Option ρ × List (List ρ)) :
    Pass (Option ρ × List (List ρ)) (Except ε (List (List ρ))) :=
  match ask state.1 with
  | .error e => .done (.error e)
  | .ok rows =>
      match rows.getLast? with
      | none => .done (.ok state.2)
      | some last => .next (some last, state.2 ++ [rows])

variable {key} {rows seen rest : List ρ} {last : ρ} {limit : Nat}

theorem ordered_perm : (ordered key rows).Perm rows := List.perm_insertionSort _ rows

theorem mem_ordered (key : ρ → κ) {r : ρ} : r ∈ ordered key rows ↔ r ∈ rows :=
  ordered_perm.mem_iff

/-- The order of rows with distinct keys is strict. -/
theorem pairwise_ordered (hkeys : (rows.map key).Nodup) :
    (ordered key rows).Pairwise fun r s => key r < key s := by
  have : Std.Total fun r s => key r ≤ key s := ⟨fun r s => le_total (key r) (key s)⟩
  have : IsTrans ρ fun r s => key r ≤ key s := ⟨fun _ _ _ => le_trans⟩
  have hle : (ordered key rows).Pairwise fun r s => key r ≤ key s :=
    List.pairwise_insertionSort _ rows
  have hne : (ordered key rows).Pairwise fun r s => key r ≠ key s :=
    List.pairwise_map.mp ((ordered_perm.map key).nodup_iff.mpr hkeys)
  exact hle.imp₂ (fun _ _ => lt_of_le_of_ne) hne

/-- Behind the last row of a beginning comes the rest. -/
theorem ordered_rowsBehind (hkeys : (rows.map key).Nodup)
    (hsplit : ordered key rows = seen ++ rest) :
    ordered key (rowsBehind key seen.getLast? rows) = rest := by
  have hsorted := pairwise_ordered hkeys
  rw [hsplit] at hsorted
  obtain ⟨hseen, hrest, hacross⟩ := List.pairwise_append.mp hsorted
  have hkeys' : ((rowsBehind key seen.getLast? rows).map key).Nodup :=
    hkeys.sublist (List.filter_sublist.map key)
  have : Std.Antisymm fun r s => key r < key s := ⟨fun _ _ h h' => (lt_asymm h h').elim⟩
  have : Std.Irrefl fun r s => key r < key s := ⟨fun r => lt_irrefl (key r)⟩
  -- a strict order has one list of these members
  refine (pairwise_ordered hkeys').eq_of_mem_iff hrest fun r => ?_
  have hrows : r ∈ rows ↔ r ∈ seen ∨ r ∈ rest := by
    rw [← mem_ordered key, hsplit, List.mem_append]
  have hlast : ∀ l ∈ seen.getLast?, l ∈ seen := fun l => List.mem_of_getLast?
  rw [mem_ordered key, rowsBehind, List.mem_filter, decide_eq_true_iff, hrows]
  constructor
  · rintro ⟨hmem | hmem, hbehind⟩
    · -- a row of the beginning is not behind the last of them
      have : IsTrans ρ fun r s => key r < key s := ⟨fun _ _ _ => lt_trans⟩
      exact absurd (forall_of_getLast hseen hbehind r hmem) (lt_irrefl _)
    · exact hmem
  · exact fun hmem => ⟨.inr hmem, fun l hl => hacross l (hlast l hl) r hmem⟩

/-- The pages read so far are the beginning of the rows, all of them full while rows are left. -/
structure ReadSoFar (key : ρ → κ) (rows : List ρ) (limit : Nat)
    (state : Option ρ × List (List ρ)) (rest : List ρ) : Prop where
  split : ordered key rows = state.2.flatten ++ rest
  last : state.1 = state.2.flatten.getLast?
  nonempty : ∀ page ∈ state.2, page ≠ []
  full : rest ≠ [] → state.2.flatten.length = limit * state.2.length
  count : state.2 ≠ [] → limit * (state.2.length - 1) < state.2.flatten.length

theorem readSoFar_start : ReadSoFar key rows limit (none, []) (ordered key rows) where
  split := rfl
  last := rfl
  nonempty := List.forall_mem_nil _
  full _ := rfl
  count h := absurd rfl h

theorem page_of_readSoFar {state : Option ρ × List (List ρ)} (hkeys : (rows.map key).Nodup)
    (h : ReadSoFar key rows limit state rest) :
    page key rows limit state.1 = rest.take limit := by
  rw [page, h.last, ordered_rowsBehind hkeys h.split]

/-- A page that is not empty is read. -/
theorem ReadSoFar.next {state : Option ρ × List (List ρ)} {last : ρ}
    (h : ReadSoFar key rows limit state rest) (hlast : (rest.take limit).getLast? = some last) :
    ReadSoFar key rows limit (some last, state.2 ++ [rest.take limit]) (rest.drop limit) := by
  have hpage : rest.take limit ≠ [] := by
    intro hnil
    rw [hnil] at hlast
    cases hlast
  have hrest : rest ≠ [] := by
    rintro rfl
    exact hpage List.take_nil
  have hflatten : (state.2 ++ [rest.take limit]).flatten =
      state.2.flatten ++ rest.take limit := by
    rw [List.flatten_append, List.flatten_singleton]
  have hpos : 0 < (rest.take limit).length := List.length_pos_iff.mpr hpage
  have hread : (state.2.flatten ++ rest.take limit).length =
      limit * state.2.length + (rest.take limit).length := by
    rw [List.length_append, h.full hrest]
  constructor
  case split => rw [hflatten, List.append_assoc, List.take_append_drop, h.split]
  case last => rw [hflatten, List.getLast?_append, hlast, Option.some_or]
  case nonempty =>
    intro page hmem
    rcases List.mem_append.mp hmem with hmem | hmem
    · exact h.nonempty page hmem
    · rw [List.mem_singleton.mp hmem]
      exact hpage
  case full =>
    -- rows are left, so the limit has cut the page off
    intro hmore
    have hlong : limit < rest.length := not_le.mp (mt List.drop_eq_nil_iff.mpr hmore)
    rw [hflatten, hread, List.length_take, min_eq_left hlong.le, List.length_append,
      List.length_singleton, Nat.mul_succ]
  case count =>
    -- the pages before this one were full
    intro _
    rw [hflatten, hread, List.length_append, List.length_singleton, Nat.add_sub_cancel]
    omega

/-- Every row is read once, in order, and no page but the last one is short. -/
structure ReadAll (key : ρ → κ) (rows : List ρ) (limit : Nat) (pages : List (List ρ)) : Prop where
  flatten : pages.flatten = ordered key rows
  nonempty : ∀ page ∈ pages, page ≠ []
  count : pages.length ≤ ⌈(rows.length : ℚ) / limit⌉₊

theorem ReadSoFar.done {state : Option ρ × List (List ρ)} (hlimit : 0 < limit)
    (h : ReadSoFar key rows limit state []) : ReadAll key rows limit state.2 := by
  have hflatten : state.2.flatten = ordered key rows := by
    rw [h.split, List.append_nil]
  refine ⟨hflatten, h.nonempty, ?_⟩
  by_cases hpages : state.2 = []
  · rw [hpages]
    exact Nat.zero_le _
  · have hcount := h.count hpages
    rw [hflatten, ordered_perm.length_eq] at hcount
    have hlength : 0 < state.2.length := List.length_pos_iff.mpr hpages
    have hlt : state.2.length - 1 < ⌈(rows.length : ℚ) / limit⌉₊ := by
      rw [Nat.lt_ceil, lt_div_iff₀ (Nat.cast_pos.mpr hlimit), mul_comm]
      exact_mod_cast hcount
    omega

/-- Reading page by page ends, and has then read every row once. -/
theorem readAll_of_pages {ask : Option ρ → Except ε (List ρ)} (hkeys : (rows.map key).Nodup)
    (hlimit : 0 < limit) (hask : ∀ last, ask last = .ok (page key rows limit last)) :
    ∃ pages, ReadAll key rows limit pages ∧
      ∀ fuel, rows.length < fuel → loop (readPass ask) fuel (none, []) = some (.ok pages) := by
  have hnext : ∀ state state', (∃ rest, ReadSoFar key rows limit state rest) →
      readPass ask state = .next state' →
      (∃ rest, ReadSoFar key rows limit state' rest) ∧
        rows.length - state'.2.flatten.length < rows.length - state.2.flatten.length := by
    rintro state state' ⟨rest, hstate⟩ hpass
    rw [readPass, hask, page_of_readSoFar hkeys hstate] at hpass
    dsimp only at hpass
    split at hpass
    · cases hpass
    · rename_i last hlast
      obtain rfl := Pass.next.inj hpass
      refine ⟨⟨_, hstate.next hlast⟩, ?_⟩
      -- the rows of the page are among those left
      have hpos : 0 < (rest.take limit).length :=
        List.length_pos_of_mem (List.mem_of_getLast? hlast)
      have hlength := congrArg List.length hstate.split
      rw [ordered_perm.length_eq, List.length_append] at hlength
      rw [List.flatten_append, List.flatten_singleton, List.length_append]
      rw [List.length_take] at hpos ⊢
      omega
  have hdone : ∀ state result, (∃ rest, ReadSoFar key rows limit state rest) →
      readPass ask state = .done result → ∃ pages, result = .ok pages ∧
        ReadAll key rows limit pages := by
    rintro state result ⟨rest, hstate⟩ hpass
    rw [readPass, hask, page_of_readSoFar hkeys hstate] at hpass
    dsimp only at hpass
    split at hpass
    · rename_i hlast
      obtain rfl := Pass.done.inj hpass
      -- an empty page says that no row is left, since the limit is not zero
      have hnil : rest = [] := by
        rcases List.take_eq_nil_iff.mp (List.getLast?_eq_none_iff.mp hlast) with hzero | hnil
        · exact absurd hzero hlimit.ne'
        · exact hnil
      subst hnil
      exact ⟨state.2, rfl, hstate.done hlimit⟩
    · cases hpass
  obtain ⟨_, hloop, pages, rfl, hpages⟩ := loop_total
    (fun state : Option ρ × List (List ρ) => rows.length - state.2.flatten.length) hnext hdone
    ⟨_, readSoFar_start⟩ (Nat.lt_succ_self _)
  exact ⟨pages, hpages, fun fuel hfuel => loop_mono hloop hfuel⟩

end Mvision.Library
