import Mvision.Library.Fencing
import Mvision.Library.Ledger
import Mvision.Library.Table

/-!
# Ledgers whose open attempts are leased

An open attempt carries the token of its lease, a closed one is free of it.
`Advance` is all that a step may do to such a ledger: move rows forward, and
after closing the latest attempt of an owner add the next one under the token
drawn for it.  Both the order of the ledger and the fencing of its tokens
follow.
-/

namespace Mvision.Library

/-! ## The expiry of a lease -/

section Expiry

variable {T : Type*} [LinearOrder T] {expires : Option T} {now : T}

/-- A lease is held while its expiry is ahead. -/
theorem lease_held_iff :
    expires.any (fun t => decide (now < t)) = true ↔ ∃ t, expires = some t ∧ now < t := by
  simp [Option.any_eq_true]

/-- The expiry has come, or there is no lease. -/
theorem lease_lapsed_iff :
    expires.any (fun t => decide (now < t)) = false ↔ ∀ t, expires = some t → t ≤ now := by
  rw [← Bool.not_eq_true, lease_held_iff]
  simp

end Expiry

/-! ## Leased attempts -/

/-- An attempt with a primary key and the token of its lease. -/
structure LeasedAttempt (ρ κ ι τ : Type*) extends Attempt ρ ι where
  key : ρ → κ
  token : ρ → Option τ
  free : ρ → Prop
  token_of_free : ∀ r, free r → token r = none

namespace LeasedAttempt

variable {ρ κ ι τ : Type*} (L : LeasedAttempt ρ κ ι τ)

/-- A row stays as it is, or an open one moves on: it keeps its token or is
closed and gives it up. -/
def Step (r r' : ρ) : Prop :=
  r' = r ∨ (L.closed r = false ∧ L.key r' = L.key r ∧ L.owner r' = L.owner r ∧
    L.number r' = L.number r ∧
      ((L.closed r' = false ∧ L.token r' = L.token r) ∨
        (L.closed r' = true ∧ L.free r')))

variable {L}

section Step

variable {r r' : ρ} {t : τ}

theorem Step.key_eq (h : L.Step r r') : L.key r' = L.key r := by
  rcases h with rfl | ⟨-, hk, -⟩
  · rfl
  · exact hk

theorem Step.owner_eq (h : L.Step r r') : L.owner r' = L.owner r := by
  rcases h with rfl | ⟨-, -, ho, -⟩
  · rfl
  · exact ho

theorem Step.number_eq (h : L.Step r r') : L.number r' = L.number r := by
  rcases h with rfl | ⟨-, -, -, hn, -⟩
  · rfl
  · exact hn

theorem Step.open_of_open (h : L.Step r r') (hc : L.closed r' = false) :
    L.closed r = false := by
  rcases h with rfl | ⟨ho, -⟩
  · exact hc
  · exact ho

theorem Step.token_eq (h : L.Step r r') (ht : L.token r' = some t) : L.token r = some t := by
  rcases h with rfl | ⟨-, -, -, -, ⟨-, hsame⟩ | ⟨-, hnone⟩⟩
  · exact ht
  · exact hsame ▸ ht
  · simp [L.token_of_free _ hnone] at ht

/-- An open attempt is closed in its place. -/
theorem Step.close (ho : L.closed r = false) (hkey : L.key r' = L.key r)
    (howner : L.owner r' = L.owner r) (hnumber : L.number r' = L.number r)
    (hclosed : L.closed r' = true) (hfree : L.free r') : L.Step r r' :=
  Or.inr ⟨ho, hkey, howner, hnumber, Or.inr ⟨hclosed, hfree⟩⟩

/-- What every closed attempt has given up, only an open one holds. -/
theorem open_of_held {ω : Type*} {column : ρ → Option ω} {holder : ω}
    (hclosed : L.closed r = true → column r = none) (hheld : column r = some holder) :
    L.closed r = false := by
  by_contra hc
  rw [Bool.not_eq_false] at hc
  rw [hclosed hc] at hheld
  cases hheld

end Step

variable (L) [DecidableEq ι]

inductive Advance (rows : List ρ) : Option τ → List ρ → Prop
  | rewrite {drawn : Option τ} {f : ρ → ρ} (step : ∀ r ∈ rows, L.Step r (f r)) :
      Advance rows drawn (rows.map f)
  | claim {t : τ} {f : ρ → ρ} {new : ρ} (step : ∀ r ∈ rows, L.Step r (f r))
      (closes : ∀ r, L.latest (L.owner new) rows = some r → L.closed (f r) = true)
      (number : L.number new = L.nextNumber (L.owner new) rows)
      (opened : L.closed new = false) (token : L.token new = some t) :
      Advance rows (some t) (rows.map f ++ [new])

/-- In order; closed attempts are free, open ones hold an issued token. -/
structure LeaseLedger (rows : List ρ) (issued : τ → Prop) : Prop where
  ledger : L.Ledger rows
  closed_free : ∀ r ∈ rows, L.closed r = true → L.free r
  open_held : ∀ r ∈ rows, L.closed r = false → ∃ t, L.token r = some t ∧ issued t

/-- Some row of key `k` carries the token `t`. -/
def opens (rows : List ρ) (k : κ) (t : τ) : Prop :=
  ∃ r ∈ rows, L.key r = k ∧ L.token r = some t

variable {L} {rows rows' : List ρ} {issued issued' : τ → Prop} {drawn : Option τ} {t : τ}

theorem Advance.refl : L.Advance rows drawn rows := by
  have h : L.Advance rows drawn (rows.map id) := .rewrite fun _ _ => Or.inl rfl
  rwa [List.map_id] at h

/-- `UPDATE ... WHERE p` when `p` admits open attempts only. -/
theorem Advance.guarded {p : ρ → Bool} {f : ρ → ρ}
    (hopen : ∀ r ∈ rows, p r = true → L.closed r = false)
    (hf : ∀ r, L.closed r = false → L.Step r (f r)) :
    L.Advance rows drawn (rows.map fun r => if p r then f r else r) := by
  refine .rewrite fun r hr => ?_
  by_cases hp : p r = true
  · rw [if_pos hp]
    exact hf r (hopen r hr hp)
  · rw [if_neg hp]
    exact Or.inl rfl

theorem LeaseLedger.token_issued (h : L.LeaseLedger rows issued) {r : ρ} (hr : r ∈ rows)
    (ht : L.token r = some t) : issued t := by
  cases hc : L.closed r with
  | true => simp [L.token_of_free r (h.closed_free r hr hc)] at ht
  | false =>
      obtain ⟨t', ht', hi⟩ := h.open_held r hr hc
      rw [ht] at ht'
      exact Option.some.inj ht' ▸ hi

/-- Rows that only move forward. -/
theorem LeaseLedger.map (h : L.LeaseLedger rows issued) {f : ρ → ρ}
    (hf : ∀ r ∈ rows, L.Step r (f r)) : L.LeaseLedger (rows.map f) issued where
  ledger := h.ledger.map (fun r hr => (hf r hr).owner_eq) (fun r hr => (hf r hr).number_eq)
    fun r hr => (hf r hr).open_of_open
  closed_free r' hr' hc := by
    obtain ⟨r, hr, rfl⟩ := List.mem_map.mp hr'
    rcases hf r hr with he | ⟨-, -, -, -, ⟨ho, -⟩ | ⟨-, hnone⟩⟩
    · rw [he] at hc ⊢
      exact h.closed_free r hr hc
    · simp [ho] at hc
    · exact hnone
  open_held r' hr' hc := by
    obtain ⟨r, hr, rfl⟩ := List.mem_map.mp hr'
    obtain ⟨t, ht, hi⟩ := h.open_held r hr ((hf r hr).open_of_open hc)
    rcases hf r hr with he | ⟨-, -, -, -, ⟨-, hsame⟩ | ⟨hc', -⟩⟩
    · exact ⟨t, he.symm ▸ ht, hi⟩
    · exact ⟨t, hsame.trans ht, hi⟩
    · simp [hc'] at hc

theorem LeaseLedger.latest_map (h : L.LeaseLedger rows issued) {f : ρ → ρ}
    (hf : ∀ r ∈ rows, L.Step r (f r)) (i : ι) :
    L.latest i (rows.map f) = (L.latest i rows).map f :=
  h.ledger.latest_map (fun r hr => (hf r hr).owner_eq) (fun r hr => (hf r hr).number_eq)
    (fun r hr => (hf r hr).open_of_open) i

/-- The step lemma: an advance keeps the ledger in order. -/
theorem LeaseLedger.advance (h : L.LeaseLedger rows issued)
    (ha : L.Advance rows drawn rows') (hmono : ∀ t, issued t → issued' t)
    (hdrawn : ∀ t, drawn = some t → issued' t) : L.LeaseLedger rows' issued' := by
  have weaken : ∀ {rows}, L.LeaseLedger rows issued → L.LeaseLedger rows issued' := by
    intro rows h
    refine ⟨h.ledger, h.closed_free, fun r hr hc => ?_⟩
    obtain ⟨t, ht, hi⟩ := h.open_held r hr hc
    exact ⟨t, ht, hmono t hi⟩
  cases ha with
  | rewrite step => exact weaken (h.map step)
  | @claim t f new step closes number opened token =>
      have hmap := weaken (h.map step)
      have hclosed : ∀ r ∈ rows.map f, L.owner r = L.owner new → L.closed r = true := by
        intro r' hr' ho
        obtain ⟨r, hr, rfl⟩ := List.mem_map.mp hr'
        by_contra hc
        rw [Bool.not_eq_true] at hc
        have hown : L.owner r = L.owner new := (step r hr).owner_eq.symm.trans ho
        have hlat := h.ledger.latest_of_open hr ((step r hr).open_of_open hc)
        rw [hown] at hlat
        simp [closes r hlat] at hc
      refine ⟨hmap.ledger.append hclosed ?_, ?_, ?_⟩
      · rw [number, h.ledger.nextNumber_eq,
          Attempt.Ledger.ofOwner_map fun r hr => (step r hr).owner_eq, List.length_map]
      · intro r hr hc
        rcases List.mem_append.mp hr with hr | hr
        · exact hmap.closed_free r hr hc
        · rw [List.mem_singleton.mp hr, opened] at hc
          cases hc
      · intro r hr hc
        rcases List.mem_append.mp hr with hr | hr
        · exact hmap.open_held r hr hc
        · rw [List.mem_singleton.mp hr]
          exact ⟨t, token, hdrawn t rfl⟩

/-! ## Taking over -/

section TakeOver

variable [DecidableEq ρ] {close : ρ → ρ} {i : ι}

variable (L) in
/-- The latest attempt of an owner is closed, unless it is closed already. -/
def closing (close : ρ → ρ) (i : ι) (rows : List ρ) (r : ρ) : ρ :=
  if L.latest i rows = some r ∧ L.closed r = false then close r else r

theorem closing_step (hstep : ∀ r, L.closed r = false → L.Step r (close r)) (r : ρ) :
    L.Step r (L.closing close i rows r) := by
  unfold closing
  split
  · next h => exact hstep r h.2
  · exact Or.inl rfl

theorem closing_closes (hclosed : ∀ r, L.closed (close r) = true) {r : ρ}
    (h : L.latest i rows = some r) : L.closed (L.closing close i rows r) = true := by
  unfold closing
  split
  · exact hclosed r
  · next hno =>
      by_contra hc
      exact hno ⟨h, Bool.eq_false_of_not_eq_true hc⟩

/-- A claim takes over the latest attempt of an owner and adds the next one. -/
theorem Advance.takeOver (hstep : ∀ r, L.closed r = false → L.Step r (close r))
    (hclosed : ∀ r, L.closed (close r) = true) {new : ρ} (howner : L.owner new = i)
    (hnumber : L.number new = L.nextNumber i rows) (hopened : L.closed new = false)
    (htoken : L.token new = some t) :
    L.Advance rows (some t) (rows.map (L.closing close i rows) ++ [new]) := by
  subst howner
  exact .claim (fun r _ => closing_step hstep r) (fun _ h => closing_closes hclosed h) hnumber
    hopened htoken

variable [DecidableEq κ] {runs : Table L.key} {hkey : ∀ r, L.key (close r) = L.key r}

/-- The latest attempt is closed in the table and no other one. -/
theorem takeOver_rows :
    (runs.updateUnless L.closed close hkey (L.latest i runs.rows)).rows =
      runs.rows.map (L.closing close i runs.rows) :=
  Table.updateUnless_rows fun _ h => (Attempt.latest_mem h).1

/-- What a claim leaves in the table. -/
theorem claimed_rows {new : ρ} (hfresh : L.key new ∉ runs.rows.map L.key) :
    ((runs.updateUnless L.closed close hkey (L.latest i runs.rows)).insert new).rows =
      runs.rows.map (L.closing close i runs.rows) ++ [new] := by
  have hkeys : (runs.rows.map (L.closing close i runs.rows)).map L.key =
      runs.rows.map L.key := by
    rw [List.map_map]
    apply List.map_congr_left
    intro r _
    rw [Function.comp_apply, closing]
    split
    · exact hkey r
    · rfl
  rw [Table.insert_rows, takeOver_rows]
  rw [takeOver_rows, hkeys]
  exact hfresh

end TakeOver

/-! ## Tokens -/

omit [DecidableEq ι] in
theorem opens_map {f : ρ → ρ} (hf : ∀ r ∈ rows, L.Step r (f r)) {k : κ}
    (h : L.opens (rows.map f) k t) : L.opens rows k t := by
  obtain ⟨r', hr', hk, ht⟩ := h
  obtain ⟨r, hr, rfl⟩ := List.mem_map.mp hr'
  exact ⟨r, hr, (hf r hr).key_eq.symm.trans hk, (hf r hr).token_eq ht⟩

omit [DecidableEq ι] in
/-- A closed attempt carries no token. -/
theorem not_opens_of_closed {runs : Table L.key} {r : ρ} (hr : r ∈ runs.rows)
    (hfree : L.free r) : ¬ L.opens runs.rows (L.key r) t := by
  rintro ⟨r', hr', hk, ht⟩
  obtain rfl : r' = r := Table.eq_of_mem hr' hr hk
  rw [L.token_of_free r' hfree] at ht
  cases ht

/-- Only the drawn token is new on a row. -/
theorem opens_advance (ha : L.Advance rows drawn rows') {k : κ} (h : L.opens rows' k t) :
    L.opens rows k t ∨ drawn = some t := by
  cases ha with
  | rewrite step => exact Or.inl (opens_map step h)
  | claim step _ _ _ token =>
      obtain ⟨r, hr, hk, ht⟩ := h
      rcases List.mem_append.mp hr with hr | hr
      · exact Or.inl (opens_map step ⟨r, hr, hk, ht⟩)
      · rw [List.mem_singleton.mp hr, token] at ht
        exact Or.inr ht

/-- A machine that, while its ledger is in order, advances it under unused
tokens is fenced. -/
theorem fenced_of_advance {σ α : Type*} {M : Machine σ α} {rowsOf : σ → List ρ}
    {used : σ → τ → Prop} {draw : α → Option τ}
    (hadv : ∀ s a, M.enabled s a → L.LeaseLedger (rowsOf s) (used s) →
      L.Advance (rowsOf s) (draw a) (rowsOf (M.next s a)))
    (hfresh : ∀ s a t, M.enabled s a → draw a = some t → ¬ used s t)
    (hdrawn : ∀ s a t, M.enabled s a → draw a = some t → used (M.next s a) t)
    (hused : ∀ s a t, M.enabled s a → used s t → used (M.next s a) t) :
    Fenced M (fun s => L.LeaseLedger (rowsOf s) (used s))
      (fun s k t => L.opens (rowsOf s) k t) used where
  preserved s a he hs := hs.advance (hadv s a he hs) (fun t => hused s a t he)
    fun t => hdrawn s a t he
  used_next := hused
  fresh s a _ t he hs ho := (opens_advance (hadv s a he hs) ho).imp_right (hfresh s a t he)

/-- Right after a claim, the drawn token is on the new row only. -/
theorem opens_claimed {f : ρ → ρ} {new : ρ} (h : L.LeaseLedger rows issued)
    (hf : ∀ r ∈ rows, L.Step r (f r)) (ht : ¬ issued t) {k : κ}
    (ho : L.opens (rows.map f ++ [new]) k t) : k = L.key new := by
  obtain ⟨r, hr, hk, htok⟩ := ho
  rcases List.mem_append.mp hr with hr | hr
  · obtain ⟨r₀, hr₀, -, ht₀⟩ := opens_map hf ⟨r, hr, hk, htok⟩
    exact absurd (h.token_issued hr₀ ht₀) ht
  · rw [← hk, List.mem_singleton.mp hr]

end LeasedAttempt

end Mvision.Library
