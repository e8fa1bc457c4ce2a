import Mvision.Library.MessagePackWriter

/-!
# Byte streams

A stream keeps its bytes in order and nothing else: not where one write has ended and the next
one begun.  A reader asks for so many bytes and takes what has arrived until it has them all.  A
frame has its length in front, so that the reader of a stream finds each one again.
-/

namespace Mvision.Library

/-! ## Reading so many bytes -/

/-- How a stream ends for a reader who has taken all its bytes. -/
inductive StreamEnd where
  | closed
  | broken
deriving DecidableEq, Repr

/-- The loop over `recv`: each call takes from one segment, and no byte from none. -/
def readExact (ending : StreamEnd) :
    Nat → List (List UInt8) → Except StreamEnd (List UInt8 × List (List UInt8))
  | 0, segments => .ok ([], segments)
  | _ + 1, [] => .error ending
  | n + 1, segment :: segments =>
      if segment = [] then .error .closed
      else if n + 1 < segment.length then
        .ok (segment.take (n + 1), segment.drop (n + 1) :: segments)
      else
        (readExact ending (n + 1 - segment.length) segments).map fun read =>
          (segment ++ read.1, read.2)

/-- No segment is empty. -/
def Arrives (segments : List (List UInt8)) : Prop := ∀ segment ∈ segments, segment ≠ []

instance (segments : List (List UInt8)) : Decidable (Arrives segments) :=
  inferInstanceAs (Decidable (∀ segment ∈ segments, segment ≠ []))

variable {ending : StreamEnd} {n limit : Nat} {segments : List (List UInt8)}

/-- However the bytes arrive, the first ones are read. -/
theorem readExact_eq_ok (h : Arrives segments) (hn : n ≤ segments.flatten.length) :
    ∃ rest, readExact ending n segments = .ok (segments.flatten.take n, rest) ∧
      rest.flatten = segments.flatten.drop n ∧ Arrives rest := by
  -- on the segments; a segment that is too short is taken whole
  induction segments generalizing n with
  | nil =>
      obtain rfl : n = 0 := Nat.le_zero.mp hn
      exact ⟨[], rfl, rfl, h⟩
  | cons segment segments ih =>
      cases n with
      | zero => exact ⟨segment :: segments, rfl, rfl, h⟩
      | succ n =>
          obtain ⟨hsegment, hsegments⟩ := List.forall_mem_cons.mp h
          rw [readExact, if_neg hsegment, List.flatten_cons]
          by_cases hlt : n + 1 < segment.length
          · refine ⟨segment.drop (n + 1) :: segments, ?_, ?_, ?_⟩
            · rw [if_pos hlt, List.take_append_of_le_length hlt.le]
            · rw [List.flatten_cons, List.drop_append_of_le_length hlt.le]
            · refine List.forall_mem_cons.mpr ⟨?_, hsegments⟩
              intro hnil
              have hle := List.drop_eq_nil_iff.mp hnil
              omega
          · rw [List.flatten_cons, List.length_append] at hn
            obtain ⟨rest, hread, hrest, harrives⟩ :=
              @ih (n + 1 - segment.length) hsegments (by omega)
            have htake : segment.take (n + 1) = segment := List.take_of_length_le (by omega)
            have hdrop : segment.drop (n + 1) = [] := List.drop_of_length_le (by omega)
            refine ⟨rest, ?_, ?_, harrives⟩
            · rw [if_neg hlt, hread, List.take_append, htake]
              rfl
            · rw [hrest, List.drop_append, hdrop, List.nil_append]

/-- Where the bytes do not suffice, the reader sees the end of the stream. -/
theorem readExact_eq_error (h : Arrives segments) (hn : segments.flatten.length < n) :
    readExact ending n segments = .error ending := by
  induction segments generalizing n with
  | nil =>
      obtain ⟨n, rfl⟩ := Nat.exists_eq_succ_of_ne_zero (Nat.pos_iff_ne_zero.mp hn)
      rfl
  | cons segment segments ih =>
      rw [List.flatten_cons, List.length_append] at hn
      obtain ⟨n, rfl⟩ := Nat.exists_eq_succ_of_ne_zero (Nat.ne_of_gt (Nat.zero_lt_of_lt hn))
      obtain ⟨hsegment, hsegments⟩ := List.forall_mem_cons.mp h
      rw [readExact, if_neg hsegment, if_neg (by omega), ih hsegments (by omega)]
      rfl

/-! ## Frames -/

/-- Four bytes of length, then so many bytes. -/
def IsFrame (limit : Nat) (frame : List UInt8) : Prop :=
  ∃ payload, payload.length ≤ limit ∧ payload.length < 256 ^ 4 ∧
    frame = toBigEndian 4 payload.length ++ payload

/-- What is at the front of a stream. -/
inductive Cut where
  | more
  | tooLarge
  | whole (frame rest : List UInt8)
deriving DecidableEq, Repr

/-- The front of the bytes that have arrived. -/
def cut (limit : Nat) (bytes : List UInt8) : Cut :=
  if bytes.length < 4 then .more
  else if limit < bigEndian (bytes.take 4) then .tooLarge
  else if bytes.length < 4 + bigEndian (bytes.take 4) then .more
  else
    .whole (bytes.take (4 + bigEndian (bytes.take 4))) (bytes.drop (4 + bigEndian (bytes.take 4)))

variable {frame bytes later rest : List UInt8}

theorem exists_behind {front : List UInt8} (h : bytes ++ later = front ++ rest)
    (hle : front.length ≤ bytes.length) : ∃ behind, bytes = front ++ behind ∧
      behind ++ later = rest := by
  rcases List.append_eq_append_iff.mp h with ⟨more, hfront, -⟩ | ⟨behind, hbytes, hrest⟩
  · rw [hfront, List.length_append] at hle
    have hmore : more = [] := List.length_eq_zero_iff.mp (by omega)
    refine ⟨[], ?_, ?_⟩
    · rw [hfront, hmore, List.append_nil, List.append_nil]
    · rw [hfront, hmore, List.append_nil] at h
      exact List.append_cancel_left h
  · exact ⟨behind, hbytes, hrest.symm⟩

/-- Of a stream that begins with a frame, the reader waits for more or takes that frame. -/
theorem cut_of_append_eq (hframe : IsFrame limit frame) (h : bytes ++ later = frame ++ rest) :
    cut limit bytes = .more ∨
      ∃ front, bytes = frame ++ front ∧ front ++ later = rest ∧
        cut limit bytes = .whole frame front := by
  obtain ⟨payload, hlimit, hlt, rfl⟩ := hframe
  have hheader : (toBigEndian 4 payload.length).length = 4 := length_toBigEndian 4 _
  have hsize : (toBigEndian 4 payload.length ++ payload).length = 4 + payload.length := by
    rw [List.length_append, hheader]
  by_cases hshort : bytes.length < 4
  · exact .inl (if_pos hshort)
  have hread : bigEndian (bytes.take 4) = payload.length := by
    rw [List.append_assoc] at h
    obtain ⟨behind, rfl, -⟩ := exists_behind h (by omega)
    rw [List.take_left' hheader, bigEndian_toBigEndian hlt]
  unfold cut
  rw [if_neg hshort, hread, if_neg (by omega)]
  by_cases hpart : bytes.length < 4 + payload.length
  · exact .inl (if_pos hpart)
  obtain ⟨front, rfl, hrest⟩ := exists_behind h (by omega)
  refine .inr ⟨front, rfl, hrest, ?_⟩
  rw [if_neg hpart, List.take_left' hsize, List.drop_left' hsize]

@[simp] theorem cut_nil : cut limit [] = .more := rfl

/-- A number is written as the bytes that it was read from. -/
theorem toBigEndian_bigEndian (bytes : List UInt8) :
    toBigEndian bytes.length (bigEndian bytes) = bytes := by
  induction bytes using List.reverseRecOn with
  | nil => rfl
  | append_singleton bytes byte ih =>
      have hbyte : byte.toNat < 256 := byte.toNat_lt
      have hread : bigEndian (bytes ++ [byte]) = bigEndian bytes * 256 + byte.toNat := by
        rw [bigEndian, List.foldl_append]
        rfl
      have hhigh : bigEndian (bytes ++ [byte]) / 256 = bigEndian bytes := by omega
      have hlow : (bigEndian (bytes ++ [byte])).toUInt8 = byte := by
        rw [← UInt8.toNat_inj, UInt8.toNat_ofNat']
        omega
      rw [List.length_append, List.length_singleton, toBigEndian, hhigh, hlow, ih]

theorem isFrame_of_cut (hlimit : limit < 256 ^ 4) (h : cut limit bytes = .whole frame rest) :
    IsFrame limit frame ∧ bytes = frame ++ rest := by
  unfold cut at h
  split at h
  · cases h
  rename_i hheader
  split at h
  · cases h
  rename_i hsize
  split at h
  · cases h
  rename_i hpayload
  obtain ⟨rfl, rfl⟩ := Cut.whole.inj h
  have htaken : (bytes.take 4).length = 4 := by rw [List.length_take]; omega
  have hdropped : ((bytes.drop 4).take (bigEndian (bytes.take 4))).length =
      bigEndian (bytes.take 4) := by
    rw [List.length_take, List.length_drop]
    omega
  refine ⟨⟨(bytes.drop 4).take (bigEndian (bytes.take 4)), ?_, ?_, ?_⟩, ?_⟩
  · omega
  · omega
  · have hwritten := toBigEndian_bigEndian (bytes.take 4)
    rw [htaken] at hwritten
    rw [hdropped, hwritten, List.take_add]
  · rw [List.take_append_drop]

/-- A whole frame is cut off whatever is behind it. -/
theorem cut_append (hframe : IsFrame limit frame) (rest : List UInt8) :
    cut limit (frame ++ rest) = .whole frame rest := by
  obtain ⟨payload, hlimit, hlt, rfl⟩ := hframe
  have hheader : (toBigEndian 4 payload.length).length = 4 := length_toBigEndian 4 _
  have hsize : (toBigEndian 4 payload.length ++ payload).length = 4 + payload.length := by
    rw [List.length_append, hheader]
  have hread : bigEndian ((toBigEndian 4 payload.length ++ payload ++ rest).take 4) =
      payload.length := by
    rw [List.append_assoc, List.take_left' hheader, bigEndian_toBigEndian hlt]
  unfold cut
  rw [hread, List.length_append, hsize, if_neg (by omega), if_neg (by omega), if_neg (by omega),
    List.take_left' hsize, List.drop_left' hsize]

/-! ## Reading a frame -/

/-- How reading a frame fails. -/
inductive FrameFault where
  | tooLarge
  | ended (ending : StreamEnd)
deriving DecidableEq, Repr

/-- The length is read, then so many bytes, unless they are too many. -/
def readFrame (ending : StreamEnd) (limit : Nat) (segments : List (List UInt8)) :
    Except FrameFault (List UInt8 × List (List UInt8)) :=
  match readExact ending 4 segments with
  | .error ending => .error (.ended ending)
  | .ok (header, segments) =>
      if limit < bigEndian header then .error .tooLarge
      else
        match readExact ending (bigEndian header) segments with
        | .error ending => .error (.ended ending)
        | .ok (payload, segments) => .ok (header ++ payload, segments)

/-- However the bytes arrive, the frame at the front of them is read. -/
theorem readFrame_spec (ending : StreamEnd) (limit : Nat) (h : Arrives segments) :
    (cut limit segments.flatten = .more →
      readFrame ending limit segments = .error (.ended ending)) ∧
    (cut limit segments.flatten = .tooLarge →
      readFrame ending limit segments = .error .tooLarge) ∧
    ∀ frame rest, cut limit segments.flatten = .whole frame rest →
      ∃ behind, readFrame ending limit segments = .ok (frame, behind) ∧
        behind.flatten = rest ∧ Arrives behind := by
  unfold readFrame cut
  by_cases hheader : segments.flatten.length < 4
  · rw [if_pos hheader, readExact_eq_error h hheader]
    exact ⟨fun _ => rfl, (by intro hcut; cases hcut), (by intro _ _ hcut; cases hcut)⟩
  obtain ⟨behind, hread, hbehind, harrives⟩ :=
    @readExact_eq_ok ending _ _ h (not_lt.mp hheader)
  rw [if_neg hheader, hread]
  dsimp only
  by_cases hlimit : limit < bigEndian (segments.flatten.take 4)
  · rw [if_pos hlimit, if_pos hlimit]
    exact ⟨(by intro hcut; cases hcut), fun _ => rfl, (by intro _ _ hcut; cases hcut)⟩
  rw [if_neg hlimit, if_neg hlimit]
  have hlength : behind.flatten.length = segments.flatten.length - 4 := by
    rw [hbehind, List.length_drop]
  by_cases hpayload : segments.flatten.length < 4 + bigEndian (segments.flatten.take 4)
  · rw [if_pos hpayload, readExact_eq_error harrives (by omega)]
    exact ⟨fun _ => rfl, (by intro hcut; cases hcut), (by intro _ _ hcut; cases hcut)⟩
  have hsuffices : bigEndian (segments.flatten.take 4) ≤ behind.flatten.length := by omega
  obtain ⟨last, hlast, hrest, hlasts⟩ := @readExact_eq_ok ending _ _ harrives hsuffices
  rw [if_neg hpayload, hlast]
  refine ⟨(by intro hcut; cases hcut), (by intro hcut; cases hcut), fun frame rest hcut => ?_⟩
  obtain ⟨rfl, rfl⟩ := Cut.whole.inj hcut
  refine ⟨last, ?_, ?_, hlasts⟩
  · rw [List.take_add, hbehind]
  · rw [hrest, hbehind, List.drop_drop]

theorem readFrame_of_isFrame (ending : StreamEnd) (h : Arrives segments)
    (hframe : IsFrame limit frame) (hbytes : segments.flatten = frame ++ rest) :
    ∃ behind, readFrame ending limit segments = .ok (frame, behind) ∧ behind.flatten = rest ∧
      Arrives behind :=
  (readFrame_spec ending limit h).2.2 frame rest (by rw [hbytes, cut_append hframe])

/-- Only a whole frame is read. -/
theorem isFrame_of_readFrame (hlimit : limit < 256 ^ 4) (h : Arrives segments)
    {behind : List (List UInt8)} (hread : readFrame ending limit segments = .ok (frame, behind)) :
    IsFrame limit frame ∧ segments.flatten = frame ++ behind.flatten := by
  obtain ⟨hmore, hlarge, hwhole⟩ := readFrame_spec ending limit h
  cases hcut : cut limit segments.flatten with
  | more =>
      rw [hmore hcut] at hread
      cases hread
  | tooLarge =>
      rw [hlarge hcut] at hread
      cases hread
  | whole front rest =>
      obtain ⟨last, hlast, rfl, -⟩ := hwhole front rest hcut
      rw [hlast] at hread
      obtain ⟨rfl, rfl⟩ := Prod.mk.inj (Except.ok.inj hread)
      exact isFrame_of_cut hlimit hcut

end Mvision.Library
