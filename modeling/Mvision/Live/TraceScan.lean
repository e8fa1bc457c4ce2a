import Mvision.Live.TraceContext

/-!
# The scan of a trace state

The loop of `validate_trace_context` in `live_protocol.cpp` with its index, the start of the
member and the count, one pass beyond the end included.  It decides what the scan that collects
the members decides, and so the two validators give one answer.
-/

namespace Mvision.Live

open Mvision.Library

namespace Native

/-- `index`, `member_start` and `members`: the body of the loop, or `fail`. -/
def scanIndex (text : List Nat) (scan : Nat × Nat) (index : Nat) : Option (Nat × Nat) :=
  let (memberStart, members) := scan
  if ∃ code ∈ text[index]?, code < 0x20 ∨ 0x7E < code then none
  else if index = text.length ∨ text[index]? = some ','.toNat then
    if index = memberStart then none
    else
      let member := (text.drop memberStart).take (index - memberStart)
      if member.head? = some ' '.toNat ∨ member.getLast? = some ' '.toNat ∨
          '='.toNat ∉ member then none
      else some (index + 1, if index < text.length then members + 1 else members)
  else some (memberStart, members)

/-- `for (index = 0; index <= size(); ++index)` -/
def scanTracestate (text : List Nat) : Option (Nat × Nat) :=
  (List.range' 0 (text.length + 1)).foldlM (scanIndex text) (0, 1)

/-- `validate_trace_context`, as the source scans it. -/
def validateTraceContextByIndex (traceparent : Text) (tracestate : Option Text) :
    Except String Unit :=
  if ¬ traceparentValid (byteCodes traceparent) then .error "INVALID_TRACE_CONTEXT"
  else
    match tracestate with
    | none => .ok ()
    | some tracestate =>
        if tracestate.length > 512 then .error "INVALID_TRACE_CONTEXT"
        else
          match scanTracestate (byteCodes tracestate) with
          | none => .error "INVALID_TRACE_CONTEXT"
          | some (_, members) =>
              if members > 32 then .error "INVALID_TRACE_CONTEXT" else .ok ()

/-- The end of a member, for the pass at its end. -/
theorem scanIndex_boundary {before member rest : List Nat} {members : Nat}
    (h : rest = [] ∨ rest.head? = some ','.toNat) :
    scanIndex (before ++ member ++ rest) (before.length, members)
        (before.length + member.length) =
      if memberValid member then
        some (before.length + member.length + 1, if rest = [] then members else members + 1)
      else none := by
  have hat : (before ++ member ++ rest)[before.length + member.length]? = rest.head? := by
    rw [← List.length_append, List.getElem?_append_right le_rfl, Nat.sub_self,
      List.head?_eq_getElem?]
  have hlength : (before ++ member ++ rest).length =
      before.length + member.length + rest.length := by
    rw [List.length_append, List.length_append]
  have hmember : ((before ++ member ++ rest).drop before.length).take
      (before.length + member.length - before.length) = member := by
    rw [List.append_assoc, List.drop_left, Nat.add_sub_cancel_left, List.take_left]
  -- the character is a comma or there is none, so it is in range
  have hrange : ¬ ∃ code ∈ rest.head?, code < 0x20 ∨ 0x7E < code := by
    rintro ⟨code, hcode, hbad⟩
    rcases h with rfl | h
    · cases hcode
    · rw [h] at hcode
      obtain rfl := Option.some.inj hcode
      revert hbad
      decide
  have hend : before.length + member.length = before.length + member.length + rest.length ∨
      rest.head? = some ','.toNat := by
    rcases h with rfl | h
    · exact .inl rfl
    · exact .inr h
  have hmore : before.length + member.length < before.length + member.length + rest.length ↔
      rest ≠ [] := by
    rw [← List.length_pos_iff]
    omega
  have hempty : before.length + member.length = before.length ↔ member = [] := by
    rw [← List.length_eq_zero_iff]
    omega
  unfold scanIndex
  dsimp only
  rw [hat, hlength, hmember, if_neg hrange, if_pos hend]
  simp only [hempty, hmore]
  have hmemberValid : memberValid member = true ↔ member ≠ [] ∧ member.head? ≠ some ' '.toNat ∧
      member.getLast? ≠ some ' '.toNat ∧ '='.toNat ∈ member :=
    decide_eq_true_iff
  by_cases hvalid : memberValid member = true
  · obtain ⟨hne, hfirst, hlast, hequals⟩ := hmemberValid.mp hvalid
    have hclean : ¬ (member.head? = some ' '.toNat ∨ member.getLast? = some ' '.toNat ∨
        '='.toNat ∉ member) := by
      rintro (h | h | h)
      · exact hfirst h
      · exact hlast h
      · exact h hequals
    rw [if_pos hvalid, if_neg hne, if_neg hclean]
    simp only [ne_eq, ite_not]
  · rw [if_neg hvalid]
    split
    · rfl
    · rename_i hne
      rw [if_pos]
      by_contra hnot
      simp only [not_or, not_not] at hnot
      exact hvalid (hmemberValid.mpr ⟨hne, hnot⟩)

/-- The loop from the middle of a member on does what the scan of the rest does. -/
theorem foldlM_scanIndex {text rest : List Nat} (before member : List Nat) (members : Nat)
    (htext : text = before ++ member ++ rest) :
    ((List.range' (before.length + member.length) (rest.length + 1)).foldlM (scanIndex text)
        (before.length, members)).map Prod.snd =
      tracestateMembers rest member members := by
  -- `before` ends at `member_start`, and `member` is what has been read since
  induction rest generalizing before member members with
  | nil =>
      subst htext
      rw [List.length_nil, List.range'_succ, List.range'_zero, List.foldlM_cons,
        scanIndex_boundary (.inl rfl), tracestateMembers]
      split
      · rw [if_pos rfl]
        rfl
      · rfl
  | cons code rest ih =>
      have hat : text[before.length + member.length]? = some code := by
        rw [htext, ← List.length_append, List.getElem?_append_right le_rfl, Nat.sub_self]
        rfl
      rw [List.length_cons, List.range'_succ, List.foldlM_cons, tracestateMembers]
      by_cases hrange : code < 0x20 ∨ 0x7E < code
      · have hnone : scanIndex text (before.length, members) (before.length + member.length) =
            none := by
          unfold scanIndex
          dsimp only
          rw [hat, if_pos ⟨code, rfl, hrange⟩]
        rw [if_pos hrange, hnone]
        rfl
      rw [if_neg hrange]
      by_cases hcomma : code = ','.toNat
      · rw [if_pos hcomma, htext, scanIndex_boundary (.inr (by rw [hcomma]; rfl)), ← htext]
        split
        · -- the next member starts behind the comma
          rw [if_neg (List.cons_ne_nil _ _)]
          have hnext := ih (before ++ member ++ [code]) [] (members + 1) (by rw [htext]; simp)
          simpa [Nat.add_assoc] using hnext
        · rfl
      · -- inside a member nothing changes but the index
        have hsome : scanIndex text (before.length, members) (before.length + member.length) =
            some (before.length, members) := by
          have hinside : ¬ (before.length + member.length = text.length ∨
              text[before.length + member.length]? = some ','.toNat) := by
            rw [hat, htext, List.length_append, List.length_append, List.length_cons,
              Option.some.injEq]
            omega
          unfold scanIndex
          dsimp only
          rw [if_neg hinside, hat, if_neg]
          rintro ⟨other, hother, hbad⟩
          obtain rfl := Option.some.inj hother
          exact hrange hbad
        have hnext := ih before (member ++ [code]) members (by rw [htext]; simp)
        rw [if_neg hcomma, hsome]
        simpa [Nat.add_assoc] using hnext

theorem scanTracestate_eq (text : List Nat) :
    (scanTracestate text).map Prod.snd = tracestateMembers text [] 1 :=
  foldlM_scanIndex [] [] 1 rfl

theorem validateTraceContextByIndex_eq (traceparent : Text) (tracestate : Option Text) :
    validateTraceContextByIndex traceparent tracestate =
      validateTraceContext traceparent tracestate := by
  unfold validateTraceContextByIndex validateTraceContext
  split
  · rfl
  cases tracestate with
  | none => rfl
  | some tracestate =>
      have hscan := scanTracestate_eq (byteCodes tracestate)
      dsimp only
      unfold tracestateValid
      rw [← hscan]
      split
      · rename_i hlong
        rw [decide_eq_false (not_le.mpr hlong), Bool.false_and]
        rfl
      · rename_i hshort
        rw [decide_eq_true (not_lt.mp hshort), Bool.true_and]
        cases scanTracestate (byteCodes tracestate) with
        | none => rfl
        | some scan =>
            obtain ⟨memberStart, members⟩ := scan
            dsimp only [Option.map_some]
            by_cases hmany : members > 32
            · rw [if_pos hmany, if_neg (by simpa using hmany)]
            · rw [if_neg hmany, if_pos (by simpa using hmany)]

end Native

/-- A validator has one error only. -/
theorem Protocol.validateTraceContext_cases (traceparent : String) (tracestate : Option String) :
    Protocol.validateTraceContext traceparent tracestate = .ok () ∨
      Protocol.validateTraceContext traceparent tracestate = .error "INVALID_TRACE_CONTEXT" := by
  unfold Protocol.validateTraceContext
  split
  · exact .inr rfl
  cases tracestate with
  | none => exact .inl rfl
  | some tracestate =>
      dsimp only
      split
      · exact .inl rfl
      · exact .inr rfl

theorem Native.validateTraceContext_cases (traceparent : Native.Text)
    (tracestate : Option Native.Text) :
    Native.validateTraceContext traceparent tracestate = .ok () ∨
      Native.validateTraceContext traceparent tracestate = .error "INVALID_TRACE_CONTEXT" := by
  unfold Native.validateTraceContext
  split
  · exact .inr rfl
  cases tracestate with
  | none => exact .inl rfl
  | some tracestate =>
      dsimp only
      split
      · exact .inl rfl
      · exact .inr rfl

/-- `validate_trace_context` of either side raises on the texts on which the other does. -/
theorem trace_validators_agree (traceparent : String) (tracestate : Option String) :
    Protocol.validateTraceContext traceparent tracestate = .error "INVALID_TRACE_CONTEXT" ↔
      Native.validateTraceContextByIndex (utf8 traceparent) (tracestate.map utf8) =
        .error "INVALID_TRACE_CONTEXT" := by
  have haccept := validateTraceContext_utf8 traceparent tracestate
  rw [Native.validateTraceContextByIndex_eq]
  rcases Protocol.validateTraceContext_cases traceparent tracestate with hp | hp
  · rw [hp, haccept.mpr hp]
  · rcases Native.validateTraceContext_cases (utf8 traceparent) (tracestate.map utf8) with hn | hn
    · rw [haccept.mp hn] at hp
      cases hp
    · exact iff_of_true hp hn

end Mvision.Live
