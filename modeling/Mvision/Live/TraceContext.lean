import Mvision.Live.NativeDecoder
import Mvision.Live.ProtocolDecoding

/-!
# The two validators of a trace context

`validate_trace_context` of `protocol.py` splits at the commas and strips the members; that of
`live_protocol.cpp` scans the bytes once.  Both accept ASCII only.
-/

namespace Mvision.Live

open Mvision.Library

/-! ## ASCII patterns -/

theorem firstByte_of_ascii {byte : UInt8} (h : byte.toNat < 128) : byte.IsUTF8FirstByte := by
  have hall : ∀ n : Fin 128, (UInt8.ofNat n).IsUTF8FirstByte := by decide
  have hbyte := hall ⟨byte.toNat, h⟩
  rwa [UInt8.ofNat_toNat] at hbyte

/-- A character that is not ASCII has a byte that is not. -/
theorem ascii_of_bytes {c : Char} (h : ∀ byte ∈ String.utf8EncodeChar c, byte.toNat < 128) :
    c.toNat < 128 := by
  by_contra hc
  have hsize : c.utf8Size ≠ 1 := by
    rw [ne_eq, Char.utf8Size_eq_one_iff, UInt32.le_iff_toNat_le]
    intro hle
    exact hc (Nat.lt_succ_of_le hle)
  have hpos := c.utf8Size_pos
  have hlength : 1 < (String.utf8EncodeChar c).length := by
    rw [String.length_utf8EncodeChar]
    omega
  have hfirst := firstByte_of_ascii (h _ (List.getElem_mem hlength))
  rw [UInt8.isUTF8FirstByte_getElem_utf8EncodeChar] at hfirst
  cases hfirst

theorem codes_ascii {text : String} (h : ∀ code ∈ byteCodes (utf8 text), code < 128) :
    ∀ code ∈ codes text, code < 128 := by
  intro code hcode
  obtain ⟨c, hc, rfl⟩ := List.mem_map.mp hcode
  apply ascii_of_bytes
  intro byte hbyte
  exact h _ (List.mem_map_of_mem (List.mem_flatMap.mpr ⟨c, hc, hbyte⟩))

/-- A pattern of ASCII characters matches a text exactly if it matches its bytes. -/
theorem pattern_utf8 (pattern : List Nat → Prop)
    (h : ∀ text, pattern text → ∀ code ∈ text, code < 128) (text : String) :
    pattern (byteCodes (utf8 text)) ↔ pattern (codes text) := by
  constructor
  · intro hbytes
    rwa [byteCodes_utf8 (codes_ascii (h _ hbytes))] at hbytes
  · intro hcodes
    rwa [byteCodes_utf8 (h _ hcodes)]

theorem lowerHexadecimal_ascii {code : Nat} (h : lowerHexadecimal code = true) : code < 128 := by
  have hrange := lowerHexadecimal_range h
  omega

theorem hexadecimal_ascii {code : Nat} (h : hexadecimal code = true) : code < 128 := by
  rw [hexadecimal, Bool.or_eq_true] at h
  rcases h with h | h
  · exact lowerHexadecimal_ascii h
  · have hrange : 65 ≤ code ∧ code ≤ 70 := by simpa using h
    omega

theorem uuidText_utf8 (text : String) :
    uuidText hexadecimal (byteCodes (utf8 text)) = true ↔
      uuidText hexadecimal (codes text) = true := by
  refine pattern_utf8 (fun text => uuidText hexadecimal text = true) ?_ text
  intro text h code hcode
  rcases uuidText_mem h hcode with rfl | hdigit
  · decide
  · exact hexadecimal_ascii hdigit

theorem traceparentValid_utf8 (text : String) :
    traceparentValid (byteCodes (utf8 text)) = true ↔ traceparentValid (codes text) = true := by
  refine pattern_utf8 (fun text => traceparentValid text = true) ?_ text
  intro text h code hcode
  unfold traceparentValid traceparentGroups at h
  dsimp only at h
  split at h
  · rename_i groups
    split at groups
    · rename_i hparts
      obtain ⟨htext, -, hdigits⟩ := hparts
      rw [List.all_append, List.all_append, Bool.and_eq_true, Bool.and_eq_true] at hdigits
      obtain ⟨⟨htrace, hspan⟩, hflags⟩ := hdigits
      have hpunctuation : ∀ code ∈ codes "00-" ++ codes "-", code < 128 := by decide
      rw [htext] at hcode
      simp only [List.mem_append] at hcode hpunctuation
      rcases hcode with ((((hcode | hcode) | hcode) | hcode) | hcode) | hcode
      · exact hpunctuation _ (.inl hcode)
      · exact lowerHexadecimal_ascii (List.all_eq_true.mp htrace _ hcode)
      · exact hpunctuation _ (.inr hcode)
      · exact lowerHexadecimal_ascii (List.all_eq_true.mp hspan _ hcode)
      · exact hpunctuation _ (.inr hcode)
      · exact lowerHexadecimal_ascii (List.all_eq_true.mp hflags _ hcode)
    · cases groups
  · cases h

theorem identifierText_ascii {letter : Nat → Bool}
    (hletter : ∀ code, letter code = true → code < 128) {text : List Nat}
    (h : identifierText letter text = true) : ∀ code ∈ text, code < 128 := by
  cases text with
  | nil => cases h
  | cons code rest =>
      rw [identifierText, Bool.and_eq_true, Bool.and_eq_true, List.all_eq_true] at h
      obtain ⟨⟨hfirst, -⟩, hrest⟩ := h
      refine List.forall_mem_cons.mpr ⟨hletter code hfirst, fun other hother => ?_⟩
      have hat := hrest other hother
      rw [Bool.or_eq_true, Bool.or_eq_true] at hat
      rcases hat with (hat | hdigit) | hunderscore
      · exact hletter other hat
      · have hrange : 48 ≤ other ∧ other ≤ 57 := by simpa using hdigit
        omega
      · have hcode : other = 95 := by simpa using hunderscore
        omega

theorem stableEnum_utf8 (text : String) :
    stableEnum (byteCodes (utf8 text)) = true ↔ stableEnum (codes text) = true := by
  refine pattern_utf8 (fun text => stableEnum text = true) (fun text h => ?_) text
  refine identifierText_ascii (fun code hcode => ?_) h
  have hrange : 97 ≤ code ∧ code ≤ 122 := by simpa using hcode
  omega

theorem stableError_utf8 (text : String) :
    stableError (byteCodes (utf8 text)) = true ↔ stableError (codes text) = true := by
  refine pattern_utf8 (fun text => stableError text = true) (fun text h => ?_) text
  refine identifierText_ascii (fun code hcode => ?_) h
  have hrange : 65 ≤ code ∧ code ≤ 90 := by simpa using hcode
  omega

/-! ## The members of a trace state -/

section Members

variable {α : Type*} {p : α → Bool} {Q : α → Prop}

/-- What is split is what the parts hold, and the separators. -/
theorem forall_mem_splitOnPPrepend {text acc : List α} :
    (∀ part ∈ List.splitOnPPrepend p text acc, ∀ a ∈ part, Q a) ↔
      (∀ a ∈ acc, Q a) ∧ ∀ a ∈ text, p a = false → Q a := by
  induction text generalizing acc with
  | nil => simp
  | cons a rest ih =>
      cases hp : p a with
      | false =>
          rw [List.splitOnPPrepend_cons_neg hp, ih, List.forall_mem_cons, List.forall_mem_cons]
          simp only [hp, true_implies]
          constructor
          · rintro ⟨⟨ha, hacc⟩, hrest⟩
            exact ⟨hacc, ha, hrest⟩
          · rintro ⟨hacc, ha, hrest⟩
            exact ⟨⟨ha, hacc⟩, hrest⟩
      | true =>
          rw [List.splitOnPPrepend_cons_pos hp, List.splitOnP_eq_splitOnPPrepend,
            List.forall_mem_cons, ih, List.forall_mem_cons]
          simp [hp]

end Members

/-- A printable ASCII character. -/
def Printable (code : Nat) : Prop := 0x20 ≤ code ∧ code ≤ 0x7E

def isComma (code : Nat) : Bool := code == ','.toNat

theorem isComma_iff {code : Nat} : isComma code = true ↔ code = ','.toNat := beq_iff_eq

/-- The scan accepts what splits into valid members, and counts them. -/
theorem tracestateMembers_eq_some_iff {text member : List Nat} {members count : Nat} :
    Native.tracestateMembers text member members = some count ↔
      (∀ code ∈ text, Printable code) ∧
        (∀ part ∈ List.splitOnPPrepend isComma text member.reverse,
          Native.memberValid part = true) ∧
        count + 1 = members + (List.splitOnPPrepend isComma text member.reverse).length := by
  induction text generalizing member members with
  | nil =>
      rw [Native.tracestateMembers, List.splitOnPPrepend_nil, List.reverse_reverse,
        List.forall_mem_singleton, List.length_singleton, Nat.add_right_cancel_iff]
      split
      · rename_i hvalid
        rw [Option.some.injEq, eq_comm]
        simp [hvalid]
      · rename_i hinvalid
        simp [hinvalid]
  | cons code rest ih =>
      rw [Native.tracestateMembers, List.forall_mem_cons]
      by_cases hrange : code < 0x20 ∨ 0x7E < code
      · rw [if_pos hrange]
        refine iff_of_false nofun ?_
        rintro ⟨⟨hprintable, -⟩, -⟩
        obtain ⟨hlow, hhigh⟩ := hprintable
        omega
      · rw [if_neg hrange]
        have hprintable : Printable code := ⟨by omega, by omega⟩
        by_cases hcode : code = ','.toNat
        · rw [if_pos hcode, List.splitOnPPrepend_cons_pos (isComma_iff.mpr hcode),
            List.reverse_reverse, List.forall_mem_cons, List.length_cons,
            List.splitOnP_eq_splitOnPPrepend]
          split
          · rename_i hvalid
            rw [ih, List.reverse_nil]
            constructor
            · rintro ⟨hrest, hparts, hcount⟩
              exact ⟨⟨hprintable, hrest⟩, ⟨hvalid, hparts⟩, by omega⟩
            · rintro ⟨⟨-, hrest⟩, ⟨-, hparts⟩, hcount⟩
              exact ⟨hrest, hparts, by omega⟩
          · rename_i hinvalid
            exact iff_of_false nofun fun h => hinvalid h.2.1.1
        · have hnot : isComma code = false := by
            rw [← Bool.not_eq_true, isComma_iff]
            exact hcode
          rw [if_neg hcode, ih, List.splitOnPPrepend_cons_neg hnot, List.reverse_append,
            List.reverse_singleton, List.singleton_append]
          simp [hprintable]

/-! ### A member -/

theorem space_iff {code : Nat} (h : Printable code) : Protocol.space code = true ↔ code = 32 := by
  obtain ⟨hlow, hhigh⟩ := h
  unfold Protocol.space
  simp only [Bool.or_eq_true, Bool.and_eq_true, decide_eq_true_eq]
  omega

/-- A text without blanks at its ends is what `strip` leaves of it. -/
theorem strip_eq_self_iff {text : List Nat} (h : text ≠ []) :
    text = Protocol.strip text ↔
      Protocol.space (text.head h) = false ∧ Protocol.space (text.getLast h) = false := by
  obtain ⟨code, rest, rfl⟩ := List.exists_cons_of_ne_nil h
  unfold Protocol.strip
  cases hspace : Protocol.space code with
  | true =>
      rw [List.dropWhile_cons_of_pos hspace, List.head_cons, hspace]
      refine iff_of_false (fun heq => ?_) (fun hfalse => Bool.noConfusion hfalse.1)
      have hlength := congrArg List.length heq
      have hsuffix := (List.rdropWhile_prefix Protocol.space
        (rest.dropWhile Protocol.space)).length_le
      have hdrop := (List.dropWhile_suffix Protocol.space (l := rest)).length_le
      rw [List.length_cons] at hlength
      omega
  | false =>
      rw [List.dropWhile_cons_of_neg (Bool.not_eq_true _ ▸ hspace), List.head_cons, hspace,
        eq_comm, List.rdropWhile_eq_self_iff]
      simp

theorem memberInvalid_iff {member : List Nat} (h : ∀ code ∈ member, Printable code) :
    Protocol.memberInvalid member = false ↔ Native.memberValid member = true := by
  have hrange : (member.any fun code => decide (code < 0x20 ∨ 0x7E < code)) = false := by
    rw [List.any_eq_false]
    intro code hcode
    obtain ⟨hlow, hhigh⟩ := h code hcode
    rw [decide_eq_true_eq]
    omega
  unfold Protocol.memberInvalid Native.memberValid
  rw [hrange, Bool.or_false, decide_eq_false_iff_not, decide_eq_true_eq]
  by_cases hnil : member = []
  · simp [hnil]
  · have hhead : member.head? = some (member.head hnil) := List.head?_eq_some_head hnil
    have hlast : member.getLast? = some (member.getLast hnil) := List.getLast?_eq_some_getLast hnil
    have hspace (code : Nat) (hcode : code ∈ member) :
        Protocol.space code = false ↔ code ≠ ' '.toNat := by
      rw [← Bool.not_eq_true, space_iff (h code hcode)]
      rfl
    have hstrip := strip_eq_self_iff hnil
    rw [hspace _ (List.head_mem hnil), hspace _ (List.getLast_mem hnil)] at hstrip
    rw [hhead, hlast, (Option.some_injective Nat).ne_iff, (Option.some_injective Nat).ne_iff, not_or,
      not_or, not_not, not_not, hstrip]
    constructor
    · rintro ⟨hne, heq, hfirst, hend⟩
      exact ⟨hne, hfirst, hend, heq⟩
    · rintro ⟨hne, hfirst, hend, heq⟩
      exact ⟨hne, heq, hfirst, hend⟩

/-! ## The validators agree -/

theorem tracestateValid_utf8 (tracestate : String) :
    Native.tracestateValid (utf8 tracestate) = true ↔
      Protocol.tracestateValid tracestate = true := by
  let pattern (text : List Nat) : Prop :=
    text.length ≤ 512 ∧ ∃ count, Native.tracestateMembers text [] 1 = some count ∧ count ≤ 32
  have hnative : Native.tracestateValid (utf8 tracestate) = true ↔
      pattern (byteCodes (utf8 tracestate)) := by
    rw [Native.tracestateValid, Bool.and_eq_true, decide_eq_true_eq]
    have hlength : (byteCodes (utf8 tracestate)).length = (utf8 tracestate).length :=
      List.length_map _
    refine and_congr (by rw [hlength]) ?_
    cases Native.tracestateMembers (byteCodes (utf8 tracestate)) [] 1 <;> simp
  have hprintable (text : List Nat) (h : pattern text) : ∀ code ∈ text, Printable code := by
    obtain ⟨-, count, hcount, -⟩ := h
    exact (tracestateMembers_eq_some_iff.mp hcount).1
  have hascii (text : List Nat) (h : pattern text) (code : Nat) (hcode : code ∈ text) :
      code < 128 := by
    have := (hprintable text h code hcode).2
    omega
  rw [hnative, pattern_utf8 pattern hascii]
  generalize htext : codes tracestate = text
  have hsplit : text.splitOn ','.toNat = List.splitOnPPrepend isComma text [] := rfl
  unfold Protocol.tracestateValid
  rw [htext, hsplit]
  simp only [Bool.and_eq_true, Bool.not_eq_true', decide_eq_false_iff_not, not_or, not_lt]
  constructor
  · intro h
    obtain ⟨hlength, count, hcount, hcount_le⟩ := h
    obtain ⟨hrange, hparts, hmembers⟩ := tracestateMembers_eq_some_iff.mp hcount
    rw [List.reverse_nil] at hparts hmembers
    have hinside := (forall_mem_splitOnPPrepend (p := isComma) (Q := Printable)).mpr
      ⟨List.forall_mem_nil _, fun code hcode _ => hrange code hcode⟩
    refine ⟨⟨?_, hlength, by omega, List.splitOnPPrepend_ne_nil _ _ _⟩, ?_⟩
    · rw [List.all_eq_true]
      intro code hcode
      have := (hrange code hcode).2
      rw [decide_eq_true_eq]
      omega
    · rw [List.any_eq_false]
      intro part hpart
      rw [Bool.not_eq_true]
      exact (memberInvalid_iff (hinside part hpart)).mpr (hparts part hpart)
  · rintro ⟨⟨-, hlength, hmembers, hne⟩, hvalid⟩
    rw [List.any_eq_false] at hvalid
    have hinside : ∀ part ∈ List.splitOnPPrepend isComma text [], ∀ code ∈ part,
        Printable code := by
      intro part hpart code hcode
      have hpartValid := hvalid part hpart
      rw [Protocol.memberInvalid, Bool.or_eq_true, not_or, List.any_eq_true] at hpartValid
      by_contra hnot
      apply hpartValid.2
      refine ⟨code, hcode, decide_eq_true ?_⟩
      unfold Printable at hnot
      omega
    have hrange : ∀ code ∈ text, Printable code := by
      intro code hcode
      cases hcomma : isComma code with
      | true =>
          rw [isComma_iff.mp hcomma]
          exact ⟨by decide, by decide⟩
      | false => exact (forall_mem_splitOnPPrepend.mp hinside).2 code hcode hcomma
    have hpos : 0 < (List.splitOnPPrepend isComma text []).length := List.length_pos_iff.mpr hne
    refine ⟨hlength, (List.splitOnPPrepend isComma text []).length,
      tracestateMembers_eq_some_iff.mpr ⟨hrange, fun part hpart => ?_, ?_⟩, hmembers⟩
    · apply (memberInvalid_iff (hinside part hpart)).mp
      exact Bool.not_eq_true _ ▸ hvalid part hpart
    · rw [List.reverse_nil]
      omega

/-- The native validator accepts the bytes of what the Python one accepts, and no others. -/
theorem validateTraceContext_utf8 (traceparent : String) (tracestate : Option String) :
    Native.validateTraceContext (utf8 traceparent) (tracestate.map utf8) = .ok () ↔
      Protocol.validateTraceContext traceparent tracestate = .ok () := by
  have hparent : traceparentValid (byteCodes (utf8 traceparent)) =
      traceparentValid (codes traceparent) :=
    Bool.eq_iff_iff.mpr (traceparentValid_utf8 traceparent)
  have hstate (tracestate : String) : Native.tracestateValid (utf8 tracestate) =
      Protocol.tracestateValid tracestate :=
    Bool.eq_iff_iff.mpr (tracestateValid_utf8 tracestate)
  unfold Native.validateTraceContext Protocol.validateTraceContext
  rw [hparent]
  cases tracestate with
  | none => rfl
  | some tracestate =>
      dsimp only [Option.map_some]
      rw [hstate]

end Mvision.Live
