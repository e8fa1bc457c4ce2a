import Mvision.Library.Checks
import Mvision.Library.PythonText
import Mvision.Library.Urls

/-!
# Redaction of camera URIs

`uri_cipher.py`: which URIs are accepted, and what the pattern
`\brtsps?://[^\s]+` leaves of a text.
-/

namespace Mvision.Live

open Mvision.Library

def maxUriLength : Nat := 4096

/-- `_validate_live_uri` -/
def validateLiveUri (tables : Url.Tables) (uri : List Char) : Except String (List Char) :=
  if uri = [] ∨ uri.length > maxUriLength then .error "CAMERA_URI_INVALID"
  else if uri.any fun c => c.toNat < 32 || c.toNat == 127 then .error "CAMERA_URI_INVALID"
  else if Url.valid tables ["rtsp".toList, "rtsps".toList] uri then .ok uri
  else .error "CAMERA_URI_INVALID"

/-- A letter in either case. -/
def letter (lower c : Char) : Bool := c.toLower == lower

/-- The letter s without regard to case: the long s is one. -/
def letterS (c : Char) : Bool := letter 's' c || c == Char.ofNat 0x17F

def colon (c : Char) : Bool := c == ':'

def slash (c : Char) : Bool := c == '/'

def visible (c : Char) : Bool := !isSpace c

/-- `rtsp://` -/
def plainOpening : List (Char → Bool) :=
  [letter 'r', letter 't', letterS, letter 'p', colon, slash, slash]

/-- `rtsps://` -/
def secureOpening : List (Char → Bool) :=
  [letter 'r', letter 't', letterS, letter 'p', letterS, colon, slash, slash]

/-- `rtsps?://[^\s]+` matches at the start of the text. -/
def matchesUri (text : List Char) : Bool :=
  startsWith (secureOpening ++ [visible]) text || startsWith (plainOpening ++ [visible]) text

/-- `_LIVE_URI_PATTERN.sub`: a match goes on as far as there is no white space. -/
def redactFrom (words : WordCharacters) : Bool → Option Char → List Char → List Char
  | _, _, [] => []
  | true, _, c :: rest =>
      if isSpace c then c :: redactFrom words false (some c) rest
      else redactFrom words true (some c) rest
  | false, previous, c :: rest =>
      -- `\b`: one of the two characters is a word character, and the other is not
      if (previous.any words.word != words.word c) && matchesUri (c :: rest) then
        (c :: rest).takeWhile (· ≠ ':') ++ "://[REDACTED]".toList ++
          redactFrom words true (some c) rest
      else c :: redactFrom words false (some c) rest

/-- `redact_live_text` -/
def redactLiveText (words : WordCharacters) (value : List Char) : List Char :=
  redactFrom words false none value

/-! ## Characters -/

section Characters

variable {c : Char}

theorem toLower_of_isSpace (h : isSpace c = true) : c.toLower = c := by
  unfold Char.toLower
  split
  · rename_i hupper
    exfalso
    obtain ⟨hA, hZ⟩ := hupper
    have hlow : 65 ≤ c.toNat := hA
    have hhigh : c.toNat ≤ 90 := hZ
    simp only [isSpace, Bool.or_eq_true, Bool.and_eq_true, decide_eq_true_eq, beq_iff_eq] at h
    omega
  · rfl

theorem eq_of_toLower_eq_r (h : c.toLower = 'r') : c = 'r' ∨ c = 'R' := by
  unfold Char.toLower at h
  split at h
  · rename_i hupper
    refine .inr (Char.ext (UInt32.toNat_inj.mp ?_))
    have hhigh : c.val.toNat ≤ 90 := hupper.2
    have hsum := congrArg (fun d : Char => d.val.toNat) h
    change (c.val + 32).toNat = 114 at hsum
    rw [UInt32.toNat_add] at hsum
    change (c.val.toNat + 32) % 4294967296 = 114 at hsum
    change c.val.toNat = 82
    omega
  · exact .inl h

/-- The classes of the pattern after its first letter do not have an r. -/
theorem rejects_r (h : letter 'r' c = true) :
    (∀ f ∈ secureOpening.tail, f c = false) ∧ ∀ f ∈ plainOpening.tail, f c = false := by
  rcases eq_of_toLower_eq_r (eq_of_beq h) with rfl | rfl
  · decide
  · decide

theorem visible_of_r (h : letter 'r' c = true) : visible c = true := by
  rcases eq_of_toLower_eq_r (eq_of_beq h) with rfl | rfl
  · decide
  · decide

theorem word_of_r (words : WordCharacters) (h : letter 'r' c = true) : words.word c = true := by
  rcases eq_of_toLower_eq_r (eq_of_beq h) with rfl | rfl
  · rw [words.word_of_ascii _ (by decide)]
    decide
  · rw [words.word_of_ascii _ (by decide)]
    decide

theorem letter_of_matchesUri {rest : List Char} (h : matchesUri (c :: rest) = true) :
    letter 'r' c = true := by
  simp only [matchesUri, secureOpening, plainOpening, List.cons_append, startsWith,
    Bool.or_eq_true, Bool.and_eq_true] at h
  exact h.elim And.left And.left

end Characters

/-! ## Where a match begins -/

/-- A text begins with `rtsp://` or `rtsps://`. -/
def opensUri (text : List Char) : Bool :=
  startsWith secureOpening text || startsWith plainOpening text

section Matching

variable {words : WordCharacters} {c d : Char} {before : List Char}

theorem opensUri_of_matchesUri (hc : letter 'r' c = true) {x : List Char}
    (h : matchesUri (d :: (before ++ c :: x)) = true) : opensUri (d :: before) = true := by
  unfold matchesUri at h
  unfold opensUri
  rw [Bool.or_eq_true] at h ⊢
  rcases h with h | h
  · obtain ⟨hd, h⟩ := Bool.and_eq_true_iff.mp h
    exact .inl (Bool.and_eq_true_iff.mpr ⟨hd, startsWith_of_append (rejects_r hc).1 h⟩)
  · obtain ⟨hd, h⟩ := Bool.and_eq_true_iff.mp h
    exact .inr (Bool.and_eq_true_iff.mpr ⟨hd, startsWith_of_append (rejects_r hc).2 h⟩)

/-- The scheme of a match is in front of its colon. -/
theorem takeWhile_of_opensUri {text : List Char} (h : opensUri text = true) (x : List Char) :
    (text ++ x).takeWhile (· ≠ ':') = text.takeWhile (· ≠ ':') := by
  have hcolon : ∃ d ∈ text, colon d = true := by
    unfold opensUri at h
    rw [Bool.or_eq_true] at h
    rcases h with h | h
    · exact exists_mem_of_startsWith h (by simp [secureOpening])
    · exact exists_mem_of_startsWith h (by simp [plainOpening])
  obtain ⟨d, hmem, hd⟩ := hcolon
  obtain rfl := eq_of_beq hd
  clear h
  induction text with
  | nil => cases hmem
  | cons e text ih =>
      by_cases he : e = ':'
      · simp [he]
      · rw [List.cons_append, List.takeWhile_cons_of_pos (by simpa using he),
          List.takeWhile_cons_of_pos (by simpa using he),
          ih ((List.mem_cons.mp hmem).resolve_left (Ne.symm he))]

theorem matchesUri_of_opensUri (hbefore : ∀ d ∈ before, visible d = true)
    (hc : visible c = true) (x : List Char) (h : opensUri before = true) :
    matchesUri (before ++ c :: x) = true := by
  unfold opensUri at h
  unfold matchesUri
  rw [Bool.or_eq_true] at h ⊢
  exact h.imp (startsWith_append hbefore hc x) (startsWith_append hbefore hc x)

/-- A match that begins before an r does not depend on what follows it. -/
theorem matchesUri_congr (hc : letter 'r' c = true) (before x y : List Char) :
    matchesUri (d :: (before ++ c :: x)) = matchesUri (d :: (before ++ c :: y)) := by
  have hsecure := startsWith_congr (f := visible) (rejects_r hc).1 before x y
  have hplain := startsWith_congr (f := visible) (rejects_r hc).2 before x y
  unfold matchesUri
  exact congrArg₂ _ (congrArg (letter 'r' d && ·) hsecure) (congrArg (letter 'r' d && ·) hplain)

end Matching

/-! ## The scan -/

/-- The last character of a text, after an earlier one. -/
def lastChar (previous : Option Char) (text : List Char) : Option Char :=
  text.getLast?.or previous

theorem lastChar_cons (previous : Option Char) (c : Char) (text : List Char) :
    lastChar previous (c :: text) = lastChar (some c) text := by
  unfold lastChar
  rw [List.getLast?_cons]
  cases text.getLast? <;> rfl

/-- A match is going on after a text: there has been none since white space, or one has begun in
the last characters without any. -/
def Matching (words : WordCharacters) (inMatch : Bool) (previous : Option Char)
    (text : List Char) : Prop :=
  (inMatch = true ∧ ∀ c ∈ text, visible c = true) ∨
    ∃ before opening, text = before ++ opening ∧ (∀ c ∈ opening, visible c = true) ∧
      (lastChar previous before).any words.word = false ∧ opensUri opening = true

section Scan

variable {words : WordCharacters} {c : Char} {previous : Option Char}

theorem redactFrom_match {rest : List Char} (hprevious : previous.any words.word = false)
    (h : matchesUri (c :: rest) = true) :
    redactFrom words false previous (c :: rest) =
      (c :: rest).takeWhile (· ≠ ':') ++ "://[REDACTED]".toList ++
        redactFrom words true (some c) rest := by
  have hword := word_of_r words (letter_of_matchesUri h)
  rw [redactFrom, hprevious, hword, h]
  rfl

theorem redactFrom_skip {rest : List Char}
    (h : previous.any words.word = true ∨ matchesUri (c :: rest) = false) :
    redactFrom words false previous (c :: rest) = c :: redactFrom words false (some c) rest := by
  rw [redactFrom, if_neg]
  rw [Bool.and_eq_true, not_and, Bool.not_eq_true]
  intro hboundary
  by_contra hmatches
  rw [Bool.not_eq_false] at hmatches
  rcases h with hword | hnot
  · rw [hword, word_of_r words (letter_of_matchesUri hmatches)] at hboundary
    cases hboundary
  · rw [hmatches] at hnot
    cases hnot

theorem match_or_skip (words : WordCharacters) (previous : Option Char) (c : Char)
    (rest : List Char) :
    (previous.any words.word = false ∧ matchesUri (c :: rest) = true) ∨
      (previous.any words.word = true ∨ matchesUri (c :: rest) = false) := by
  cases previous.any words.word with
  | true => exact .inr (.inl rfl)
  | false =>
      cases matchesUri (c :: rest) with
      | true => exact .inl ⟨rfl, rfl⟩
      | false => exact .inr (.inr rfl)

/-- No match begins at a character, or goes on over it. -/
theorem matching_cons_skip {inMatch : Bool} {text : List Char}
    (h : visible c = false ∨ (inMatch = false ∧ ¬ (previous.any words.word = false ∧
      opensUri (c :: text) = true ∧ ∀ d ∈ c :: text, visible d = true))) :
    Matching words false (some c) text ↔ Matching words inMatch previous (c :: text) := by
  unfold Matching
  constructor
  · rintro (⟨hfalse, -⟩ | ⟨before, opening, rfl, hvisible, hword, hopens⟩)
    · cases hfalse
    · refine .inr ⟨c :: before, opening, rfl, hvisible, ?_, hopens⟩
      rw [lastChar_cons]
      exact hword
  · rintro (⟨htrue, hvisible⟩ | ⟨before, opening, htext, hvisible, hword, hopens⟩)
    · rcases h with hspace | ⟨hfalse, -⟩
      · rw [hvisible c List.mem_cons_self] at hspace
        cases hspace
      · rw [htrue] at hfalse
        cases hfalse
    · cases before with
      | nil =>
          rw [List.nil_append] at htext
          subst htext
          rcases h with hspace | ⟨-, hnone⟩
          · rw [hvisible c List.mem_cons_self] at hspace
            cases hspace
          · exact (hnone ⟨hword, hopens, hvisible⟩).elim
      | cons d before =>
          obtain ⟨rfl, rfl⟩ := List.cons.inj htext
          rw [lastChar_cons] at hword
          exact .inr ⟨before, opening, rfl, hvisible, hword, hopens⟩

/-- In a match, and on a character that it goes on over. -/
theorem matching_cons_match {inMatch : Bool} {text : List Char} (hc : visible c = true)
    (h : inMatch = true ∨ (previous.any words.word = false ∧ opensUri (c :: text) = true)) :
    Matching words true (some c) text ↔ Matching words inMatch previous (c :: text) := by
  unfold Matching
  constructor
  · rintro (⟨-, hvisible⟩ | ⟨before, opening, rfl, hvisible, hword, hopens⟩)
    · have hall : ∀ d ∈ c :: text, visible d = true := List.forall_mem_cons.mpr ⟨hc, hvisible⟩
      rcases h with rfl | ⟨hword, hopens⟩
      · exact .inl ⟨rfl, hall⟩
      · exact .inr ⟨[], c :: text, rfl, hall, hword, hopens⟩
    · refine .inr ⟨c :: before, opening, rfl, hvisible, ?_, hopens⟩
      rw [lastChar_cons]
      exact hword
  · rintro (⟨-, hvisible⟩ | ⟨before, opening, htext, hvisible, hword, hopens⟩)
    · exact .inl ⟨rfl, (List.forall_mem_cons.mp hvisible).2⟩
    · cases before with
      | nil =>
          rw [List.nil_append] at htext
          subst htext
          exact .inl ⟨rfl, (List.forall_mem_cons.mp hvisible).2⟩
      | cons d before =>
          obtain ⟨rfl, rfl⟩ := List.cons.inj htext
          rw [lastChar_cons] at hword
          exact .inr ⟨before, opening, rfl, hvisible, hword, hopens⟩

/-- A text in front of an r is redacted alike whatever follows the r. -/
theorem exists_scanned (words : WordCharacters) (hc : letter 'r' c = true) (text : List Char)
    (inMatch : Bool) (previous : Option Char) :
    ∃ out inMatch', (∀ rest, redactFrom words inMatch previous (text ++ c :: rest) =
        out ++ redactFrom words inMatch' (lastChar previous text) (c :: rest)) ∧
      (inMatch' = true ↔ Matching words inMatch previous text) := by
  induction text generalizing previous inMatch with
  | nil =>
      refine ⟨[], inMatch, fun rest => rfl, ?_⟩
      unfold Matching
      constructor
      · exact fun h => .inl ⟨h, List.forall_mem_nil _⟩
      · rintro (⟨h, -⟩ | ⟨before, opening, htext, -, -, hopens⟩)
        · exact h
        · obtain ⟨-, rfl⟩ := List.append_eq_nil_iff.mp htext.symm
          cases hopens
  | cons d text ih =>
      rw [lastChar_cons]
      cases inMatch with
      | true =>
          by_cases hspace : isSpace d = true
          · obtain ⟨out, inMatch', hout, hmatching⟩ := ih false (some d)
            have hinvisible : visible d = false := by simpa [visible] using hspace
            refine ⟨d :: out, inMatch', fun rest => ?_,
              hmatching.trans (matching_cons_skip (.inl hinvisible))⟩
            rw [List.cons_append, redactFrom, if_pos hspace, hout]
            rfl
          · obtain ⟨out, inMatch', hout, hmatching⟩ := ih true (some d)
            have hvisible : visible d = true := by simpa [visible] using hspace
            refine ⟨out, inMatch', fun rest => ?_,
              hmatching.trans (matching_cons_match hvisible (.inl rfl))⟩
            rw [List.cons_append, redactFrom, if_neg hspace, hout]
      | false =>
          by_cases hstart : previous.any words.word = false ∧
              matchesUri (d :: (text ++ c :: [])) = true
          · -- a match begins here, and does not depend on what follows the r
            obtain ⟨out, inMatch', hout, hmatching⟩ := ih true (some d)
            have hd := letter_of_matchesUri hstart.2
            refine ⟨(d :: text).takeWhile (· ≠ ':') ++ "://[REDACTED]".toList ++ out, inMatch',
              fun rest => ?_, hmatching.trans (matching_cons_match (visible_of_r hd)
                (.inr ⟨hstart.1, opensUri_of_matchesUri hc hstart.2⟩))⟩
            rw [List.cons_append, redactFrom_match hstart.1
              ((matchesUri_congr hc text rest []).trans hstart.2), hout, ← List.cons_append,
              takeWhile_of_opensUri (opensUri_of_matchesUri hc hstart.2)]
            simp only [List.append_assoc]
          · obtain ⟨out, inMatch', hout, hmatching⟩ := ih false (some d)
            refine ⟨d :: out, inMatch', fun rest => ?_,
              hmatching.trans (matching_cons_skip (.inr ⟨rfl, ?_⟩))⟩
            · rw [List.cons_append, redactFrom_skip, hout]
              · rfl
              · rw [matchesUri_congr hc text rest []]
                by_contra hboth
                rw [not_or, Bool.not_eq_true, Bool.not_eq_false] at hboth
                exact hstart hboth
            · rintro ⟨hword, hopens, hvisible⟩
              exact hstart ⟨hword, matchesUri_of_opensUri hvisible (visible_of_r hc) [] hopens⟩

end Scan

/-! ## A scheme in a text -/

/-- `rtsps?` matches the whole text. -/
def Spelled (scheme : List Char) : Prop :=
  (∃ a b c d, scheme = [a, b, c, d] ∧ letter 'r' a = true ∧ letter 't' b = true ∧
      letterS c = true ∧ letter 'p' d = true) ∨
    ∃ a b c d e, scheme = [a, b, c, d, e] ∧ letter 'r' a = true ∧ letter 't' b = true ∧
      letterS c = true ∧ letter 'p' d = true ∧ letterS e = true

/-- What a match is replaced by. -/
def redaction (scheme : List Char) : List Char := scheme ++ "://[REDACTED]".toList

section Scheme

variable {words : WordCharacters} {scheme : List Char} {previous : Option Char}

theorem spelled_of_lower (h : lowerAscii scheme = "rtsp".toList ∨ lowerAscii scheme = "rtsps".toList) :
    Spelled scheme := by
  have hs {c : Char} (hc : c.toLower = 's') : letterS c = true := by simp [letterS, letter, hc]
  rcases h with h | h
  · obtain ⟨a, x, rfl, ha, h⟩ := List.map_eq_cons_iff.mp h
    obtain ⟨b, x, rfl, hb, h⟩ := List.map_eq_cons_iff.mp h
    obtain ⟨c, x, rfl, hc, h⟩ := List.map_eq_cons_iff.mp h
    obtain ⟨d, x, rfl, hd, h⟩ := List.map_eq_cons_iff.mp h
    obtain rfl := List.map_eq_nil_iff.mp h
    exact .inl ⟨a, b, c, d, rfl, beq_of_eq ha, beq_of_eq hb, hs hc, beq_of_eq hd⟩
  · obtain ⟨a, x, rfl, ha, h⟩ := List.map_eq_cons_iff.mp h
    obtain ⟨b, x, rfl, hb, h⟩ := List.map_eq_cons_iff.mp h
    obtain ⟨c, x, rfl, hc, h⟩ := List.map_eq_cons_iff.mp h
    obtain ⟨d, x, rfl, hd, h⟩ := List.map_eq_cons_iff.mp h
    obtain ⟨e, x, rfl, he, h⟩ := List.map_eq_cons_iff.mp h
    obtain rfl := List.map_eq_nil_iff.mp h
    exact .inr ⟨a, b, c, d, e, rfl, beq_of_eq ha, beq_of_eq hb, hs hc, beq_of_eq hd, hs he⟩

/-- The letters of the pattern: neither a colon nor white space. -/
theorem letter_spec {c l : Char} (h : letter l c = true) (hcolon : l ≠ ':')
    (hl : visible l = true) : colon c = false ∧ visible c = true := by
  have hlower : c.toLower = l := eq_of_beq h
  refine ⟨beq_false_of_ne fun hc => ?_, ?_⟩
  · rw [hc] at hlower
    exact hcolon hlower.symm
  · unfold visible at hl ⊢
    rw [Bool.not_eq_true'] at hl ⊢
    by_contra hspace
    rw [Bool.not_eq_false] at hspace
    rw [← hlower, toLower_of_isSpace hspace, hspace] at hl
    cases hl

theorem letterS_spec {c : Char} (h : letterS c = true) :
    (colon c = false ∧ visible c = true) ∧ letter 'r' c = false := by
  rcases Bool.or_eq_true_iff.mp h with h | h
  · refine ⟨letter_spec h (by decide) (by decide), ?_⟩
    unfold letter at h ⊢
    rw [eq_of_beq h]
    decide
  · rw [eq_of_beq h]
    decide

theorem letter_ne_r {c l : Char} (h : letter l c = true) (hl : l ≠ 'r') : letter 'r' c = false := by
  unfold letter at h ⊢
  rw [eq_of_beq h]
  exact beq_false_of_ne hl

theorem Spelled.exists_cons (h : Spelled scheme) :
    ∃ c tail, scheme = c :: tail ∧ letter 'r' c = true ∧ ∀ d ∈ tail, letter 'r' d = false := by
  rcases h with ⟨a, b, c, d, rfl, ha, hb, hc, hd⟩ | ⟨a, b, c, d, e, rfl, ha, hb, hc, hd, he⟩
  · refine ⟨a, _, rfl, ha, ?_⟩
    simp [letter_ne_r hb, letter_ne_r hd, letterS_spec hc]
  · refine ⟨a, _, rfl, ha, ?_⟩
    simp [letter_ne_r hb, letter_ne_r hd, letterS_spec hc, letterS_spec he]

theorem Spelled.spec (h : Spelled scheme) :
    ∀ c ∈ scheme, colon c = false ∧ Live.visible c = true := by
  rcases h with ⟨a, b, c, d, rfl, ha, hb, hc, hd⟩ | ⟨a, b, c, d, e, rfl, ha, hb, hc, hd, he⟩
  · simp only [List.forall_mem_cons]
    exact ⟨letter_spec ha (by decide) (by decide), letter_spec hb (by decide) (by decide),
      (letterS_spec hc).1, letter_spec hd (by decide) (by decide), List.forall_mem_nil _⟩
  · simp only [List.forall_mem_cons]
    exact ⟨letter_spec ha (by decide) (by decide), letter_spec hb (by decide) (by decide),
      (letterS_spec hc).1, letter_spec hd (by decide) (by decide), (letterS_spec he).1,
      List.forall_mem_nil _⟩

theorem Spelled.matchesUri_eq (h : Spelled scheme) (rest : List Char) :
    matchesUri (scheme ++ ':' :: '/' :: '/' :: rest) = rest.head?.any Live.visible := by
  have hs : letterS ':' = false := by decide
  rcases h with ⟨a, b, c, d, rfl, ha, hb, hc, hd⟩ | ⟨a, b, c, d, e, rfl, ha, hb, hc, hd, he⟩
  · cases rest with
    | nil => simp [matchesUri, secureOpening, plainOpening, startsWith, hs]
    | cons f rest =>
        simp [matchesUri, secureOpening, plainOpening, startsWith, hs, colon, slash, ha, hb, hc, hd]
  · have hcolon : colon e = false := (letterS_spec he).1.1
    cases rest with
    | nil => simp [matchesUri, secureOpening, plainOpening, startsWith, hcolon]
    | cons f rest =>
        simp [matchesUri, secureOpening, plainOpening, startsWith, hcolon, ha, hb, hc, hd, he]
        simp [colon, slash]

/-- What a match begins with. -/
theorem exists_spelled {text : List Char} (h : matchesUri text = true) :
    ∃ scheme rest, text = scheme ++ ':' :: '/' :: '/' :: rest ∧ Spelled scheme := by
  rcases Bool.or_eq_true_iff.mp h with h | h
  · obtain ⟨a, _, rfl, ha, h⟩ := exists_of_startsWith h
    obtain ⟨b, _, rfl, hb, h⟩ := exists_of_startsWith h
    obtain ⟨c, _, rfl, hc, h⟩ := exists_of_startsWith h
    obtain ⟨d, _, rfl, hd, h⟩ := exists_of_startsWith h
    obtain ⟨e, _, rfl, he, h⟩ := exists_of_startsWith h
    obtain ⟨f, _, rfl, hf, h⟩ := exists_of_startsWith h
    obtain ⟨g, _, rfl, hg, h⟩ := exists_of_startsWith h
    obtain ⟨i, rest, rfl, hi, -⟩ := exists_of_startsWith h
    rw [eq_of_beq hf, eq_of_beq hg, eq_of_beq hi]
    exact ⟨[a, b, c, d, e], rest, rfl, .inr ⟨a, b, c, d, e, rfl, ha, hb, hc, hd, he⟩⟩
  · obtain ⟨a, _, rfl, ha, h⟩ := exists_of_startsWith h
    obtain ⟨b, _, rfl, hb, h⟩ := exists_of_startsWith h
    obtain ⟨c, _, rfl, hc, h⟩ := exists_of_startsWith h
    obtain ⟨d, _, rfl, hd, h⟩ := exists_of_startsWith h
    obtain ⟨f, _, rfl, hf, h⟩ := exists_of_startsWith h
    obtain ⟨g, _, rfl, hg, h⟩ := exists_of_startsWith h
    obtain ⟨i, rest, rfl, hi, -⟩ := exists_of_startsWith h
    rw [eq_of_beq hf, eq_of_beq hg, eq_of_beq hi]
    exact ⟨[a, b, c, d], rest, rfl, .inl ⟨a, b, c, d, rfl, ha, hb, hc, hd⟩⟩

/-- A match forgets the character that it has gone on over. -/
theorem redactFrom_true_congr (previous other : Option Char) (text : List Char) :
    redactFrom words true previous text = redactFrom words true other text := by
  cases text with
  | nil => rfl
  | cons c text => rfl

theorem redactFrom_visible (previous : Option Char) {text : List Char}
    (h : ∀ c ∈ text, visible c = true) (rest : List Char) :
    redactFrom words true previous (text ++ rest) = redactFrom words true none rest := by
  induction text generalizing previous with
  | nil => exact redactFrom_true_congr previous none rest
  | cons c text ih =>
      rw [List.forall_mem_cons] at h
      have hspace : isSpace c = false := by simpa [visible] using h.1
      rw [List.cons_append, redactFrom, if_neg (by rw [hspace]; exact Bool.false_ne_true),
        ih (some c) h.2]

theorem Spelled.visible_location (h : Spelled scheme) :
    ∀ c ∈ scheme ++ "://".toList, Live.visible c = true := by
  rw [List.forall_mem_append]
  exact ⟨fun c hc => (h.spec c hc).2, List.all_eq_true.mp rfl⟩

/-- The scheme is in a match. -/
theorem Spelled.redactFrom_true (h : Spelled scheme) (rest : List Char) :
    redactFrom words true previous (scheme ++ ':' :: '/' :: '/' :: rest) =
      redactFrom words true none rest := by
  rw [← redactFrom_visible previous h.visible_location rest, List.append_assoc]
  rfl

/-- A match begins at the scheme. -/
theorem Spelled.redactFrom_match (h : Spelled scheme) (hprevious : previous.any words.word = false)
    {rest : List Char} (hrest : rest.head?.any Live.visible = true) :
    redactFrom words false previous (scheme ++ ':' :: '/' :: '/' :: rest) =
      redaction scheme ++ redactFrom words true none rest := by
  have hmatches := (h.matchesUri_eq rest).trans hrest
  have hscheme : (scheme ++ ':' :: '/' :: '/' :: rest).takeWhile (· ≠ ':') = scheme := by
    rw [List.takeWhile_append_of_pos fun c hc => decide_eq_true (ne_of_beq_false (h.spec c hc).1)]
    simp
  have hvisible := h.visible_location
  obtain ⟨c, tail, rfl, -, -⟩ := h.exists_cons
  rw [List.cons_append] at hmatches hscheme hvisible ⊢
  rw [Live.redactFrom_match hprevious hmatches, hscheme,
    ← redactFrom_visible (some c) (List.forall_mem_cons.mp hvisible).2 rest,
    List.append_assoc tail]
  rfl

theorem redactFrom_plain (words : WordCharacters) (previous : Option Char) {text : List Char}
    (h : ∀ c ∈ text, letter 'r' c = false) (rest : List Char) :
    redactFrom words false previous (text ++ rest) =
      text ++ redactFrom words false (lastChar previous text) rest := by
  induction text generalizing previous with
  | nil => rfl
  | cons c text ih =>
      rw [List.forall_mem_cons] at h
      have hnot : matchesUri (c :: (text ++ rest)) = false := by
        by_contra hmatches
        rw [Bool.not_eq_false] at hmatches
        rw [letter_of_matchesUri hmatches] at h
        cases h.1
      rw [List.cons_append, redactFrom_skip (.inr hnot), ih (some c) h.2, lastChar_cons]
      rfl

/-- No match begins at the scheme. -/
theorem Spelled.redactFrom_skip (h : Spelled scheme) {rest : List Char}
    (hnone : previous.any words.word = true ∨ rest.head?.any Live.visible = false) :
    redactFrom words false previous (scheme ++ ':' :: '/' :: '/' :: rest) =
      scheme ++ "://".toList ++ redactFrom words false (some '/') rest := by
  have hmatches := h.matchesUri_eq rest
  obtain ⟨c, tail, rfl, -, htail⟩ := h.exists_cons
  rw [List.cons_append] at hmatches
  have hlocation : ∀ d ∈ "://".toList, letter 'r' d = false := by
    have hall : "://".toList.all (fun d => !letter 'r' d) = true := rfl
    exact fun d hd => (Bool.not_eq_true' _).mp (List.all_eq_true.mp hall d hd)
  have hplain : ∀ d ∈ tail ++ "://".toList, letter 'r' d = false :=
    List.forall_mem_append.mpr ⟨htail, hlocation⟩
  have hlast : lastChar (some c) (tail ++ "://".toList) = some '/' := by
    unfold lastChar
    rw [List.getLast?_append]
    rfl
  have htext := redactFrom_plain words (some c) hplain rest
  rw [hlast, List.append_assoc] at htext
  rw [List.cons_append, Live.redactFrom_skip (hnone.imp_right fun hrest => hmatches.trans hrest)]
  exact congrArg (c :: ·) htext

theorem Spelled.takeWhile_eq (h : Spelled scheme) (rest : List Char) :
    (scheme ++ ':' :: rest).takeWhile (· ≠ ':') = scheme := by
  rw [List.takeWhile_append_of_pos fun c hc => decide_eq_true (ne_of_beq_false (h.spec c hc).1)]
  simp

end Scheme

/-! ## Redacting twice -/

section Idempotence

variable {words : WordCharacters} {classes : List (Char → Bool)}

/-- A redacted text starts with the same classes, as far as none of them has an r. -/
theorem startsWith_redactFrom (words : WordCharacters)
    (hreject : ∀ f ∈ classes, ∀ c, letter 'r' c = true → f c = false) (previous : Option Char)
    (text : List Char) :
    startsWith (classes ++ [visible]) (redactFrom words false previous text) =
      startsWith (classes ++ [visible]) text := by
  induction text generalizing classes previous with
  | nil => rfl
  | cons c rest ih =>
      rcases match_or_skip words previous c rest with hmatch | hskip
      · -- both texts have the r, and are not read any further
        have hr := letter_of_matchesUri hmatch.2
        have hcolon : c ≠ ':' := ne_of_beq_false (letter_spec hr (by decide) (by decide)).1
        rw [redactFrom_match hmatch.1 hmatch.2,
          List.takeWhile_cons_of_pos (p := fun d => decide (d ≠ ':')) (decide_eq_true hcolon)]
        exact startsWith_congr (fun f hf => hreject f hf c hr) [] _ _
      · rw [redactFrom_skip hskip]
        cases classes with
        | nil => rfl
        | cons f classes =>
            rw [List.forall_mem_cons] at hreject
            exact congrArg (f c && ·) (ih hreject.2 (some c))

theorem matchesUri_redactFrom (words : WordCharacters) (c : Char) (rest : List Char) :
    matchesUri (c :: redactFrom words false (some c) rest) = matchesUri (c :: rest) := by
  have hsecure := startsWith_redactFrom words (fun f hf d hd => (rejects_r hd).1 f hf) (some c) rest
  have hplain := startsWith_redactFrom words (fun f hf d hd => (rejects_r hd).2 f hf) (some c) rest
  unfold matchesUri
  exact congrArg₂ _ (congrArg (letter 'r' c && ·) hsecure) (congrArg (letter 'r' c && ·) hplain)

/-- A redacted scheme is matched again. -/
theorem Spelled.redactFrom_redaction {scheme : List Char} (h : Spelled scheme)
    {previous : Option Char} (hprevious : previous.any words.word = false) {rest : List Char}
    (hrest : redactFrom words true none rest = rest) :
    redactFrom words false previous (redaction scheme ++ rest) = redaction scheme ++ rest := by
  have htext : redaction scheme ++ rest =
      scheme ++ ':' :: '/' :: '/' :: ("[REDACTED]".toList ++ rest) := by
    unfold redaction
    rw [List.append_assoc]
    rfl
  have hbrackets : ∀ c ∈ "[REDACTED]".toList, Live.visible c = true := List.all_eq_true.mp rfl
  rw [htext, h.redactFrom_match hprevious rfl, redactFrom_visible none hbrackets, hrest, ← htext]

/-- A redacted text is redacted to itself, and so is one in a match. -/
theorem redactFrom_redactFrom (previous : Option Char) (text : List Char) :
    redactFrom words false previous (redactFrom words false previous text) =
        redactFrom words false previous text ∧
      redactFrom words true none (redactFrom words true previous text) =
        redactFrom words true previous text := by
  induction text generalizing previous with
  | nil => exact ⟨rfl, rfl⟩
  | cons c rest ih =>
      constructor
      · rcases match_or_skip words previous c rest with hmatch | hskip
        · obtain ⟨scheme, location, htext, hscheme⟩ := exists_spelled hmatch.2
          have hout : redactFrom words false previous (c :: rest) =
              redaction scheme ++ redactFrom words true (some c) rest := by
            rw [redactFrom_match hmatch.1 hmatch.2, htext, hscheme.takeWhile_eq]
            rfl
          rw [hout]
          exact hscheme.redactFrom_redaction hmatch.1 (ih (some c)).2
        · have hagain := hskip
          rw [← matchesUri_redactFrom words c rest] at hagain
          rw [redactFrom_skip hskip, redactFrom_skip hagain, (ih (some c)).1]
      · by_cases hspace : isSpace c = true
        · rw [redactFrom, if_pos hspace, redactFrom, if_pos hspace, (ih (some c)).1]
        · rw [redactFrom, if_neg hspace]
          exact (ih (some c)).2

theorem redactLiveText_idempotent (words : WordCharacters) (text : List Char) :
    redactLiveText words (redactLiveText words text) = redactLiveText words text :=
  (redactFrom_redactFrom none text).1

end Idempotence

/-! ## Accepted URIs -/

/-- The parts of an accepted URI: what `urlsplit` strips, the scheme as it is written, and what
follows the two slashes. -/
structure LiveUri (uri lead scheme rest : List Char) : Prop where
  eq : uri = lead ++ (scheme ++ ':' :: '/' :: '/' :: rest)
  lead : ∀ c ∈ lead, Url.leading c = true
  letters : scheme.head?.any Url.asciiLetter = true ∧ scheme.all Url.schemeChar = true
  scheme : lowerAscii scheme = "rtsp".toList ∨ lowerAscii scheme = "rtsps".toList
  rest : rest ≠ []
  length_le : uri.length ≤ maxUriLength
  printable : ∀ c ∈ uri, ¬ (c.toNat < 32 ∨ c.toNat = 127)

section Uris

variable {tables : Url.Tables} {uri lead scheme rest : List Char}

theorem dropWhile_colon {text after : List Char}
    (h : (text.dropWhile (· ≠ ':')).tail? = some after) :
    text = text.takeWhile (· ≠ ':') ++ ':' :: after := by
  cases hdrop : text.dropWhile (· ≠ ':') with
  | nil =>
      rw [hdrop] at h
      cases h
  | cons c found =>
      rw [hdrop] at h
      obtain rfl : found = after := Option.some.inj h
      have hhead := List.head?_dropWhile_not (fun c : Char => decide (c ≠ ':')) text
      rw [hdrop] at hhead
      have hcolon : c = ':' := by simpa using hhead
      subst hcolon
      rw [← hdrop, List.takeWhile_append_dropWhile]

theorem not_unsafe {c : Char} (h : ¬ (c.toNat < 32 ∨ c.toNat = 127)) :
    (!Url.unsafeToRemove c) = true := by
  rw [Bool.not_eq_true']
  by_contra hunsafe
  rw [Bool.not_eq_false] at hunsafe
  unfold Url.unsafeToRemove at hunsafe
  simp only [Bool.or_eq_true, beq_iff_eq] at hunsafe
  rcases hunsafe with (rfl | rfl) | rfl
  · exact h (.inl (by decide))
  · exact h (.inl (by decide))
  · exact h (.inl (by decide))

/-- What `urlsplit` finds in front of and behind the colon of an accepted URL. -/
theorem exists_split {url : List Char} {schemes : List (List Char)} (hschemes : [] ∉ schemes)
    (h : Url.valid tables schemes url = true) :
    ∃ scheme rest, Url.cleaned url = scheme ++ ':' :: '/' :: '/' :: rest ∧
      (scheme.head?.any Url.asciiLetter = true ∧ scheme.all Url.schemeChar = true) ∧
      lowerAscii scheme ∈ schemes ∧ rest ≠ [] := by
  unfold Url.valid at h
  split at h
  · cases h
  rename_i parts hsplit
  simp only [Bool.and_eq_true, List.contains_iff_mem, Bool.not_eq_true'] at h
  obtain ⟨⟨-, hscheme⟩, hhost⟩ := h
  unfold Url.split at hsplit
  dsimp only at hsplit
  split at hsplit
  swap
  · cases hsplit
  obtain rfl := Option.some.inj hsplit
  dsimp only at hscheme hhost
  -- an empty location has no host
  have hnetloc : Url.splitNetloc (Url.splitScheme (Url.cleaned url)).2 ≠ [] := by
    intro hnil
    rw [hnil] at hhost
    cases hhost
  unfold Url.splitScheme at hscheme hnetloc
  split at hscheme
  · rename_i front after hpartition
    obtain ⟨hfront, hafter⟩ := Prod.mk.inj hpartition
    rw [hpartition] at hnetloc
    dsimp only at hnetloc
    split at hscheme
    · rename_i hletters
      rw [if_pos hletters] at hnetloc
      rw [Bool.and_eq_true] at hletters
      have htext := dropWhile_colon hafter
      rw [hfront] at htext
      unfold Url.splitNetloc at hnetloc
      split at hnetloc
      · rename_i rest hafter'
        obtain rfl : after = '/' :: '/' :: rest := hafter'
        refine ⟨front, rest, htext, hletters, hscheme, ?_⟩
        rintro rfl
        exact hnetloc rfl
      · exact absurd rfl hnetloc
    · exact absurd hscheme hschemes
  · exact absurd hscheme hschemes

theorem exists_liveUri (h : validateLiveUri tables uri = .ok uri) :
    ∃ lead scheme rest, LiveUri uri lead scheme rest := by
  unfold validateLiveUri at h
  split at h
  · cases h
  rename_i hlength
  split at h
  · cases h
  rename_i hcontrol
  split at h
  swap
  · cases h
  rename_i hvalid
  rw [not_or, not_lt] at hlength
  have hprintable : ∀ c ∈ uri, ¬ (c.toNat < 32 ∨ c.toNat = 127) := by
    intro c hc hbad
    refine hcontrol (List.any_eq_true.mpr ⟨c, hc, ?_⟩)
    simpa using hbad
  -- there is nothing to remove from the URI
  have hcleaned : Url.cleaned uri = uri.dropWhile Url.leading := by
    unfold Url.cleaned
    rw [List.filter_eq_self]
    intro c hc
    exact not_unsafe (hprintable c ((List.dropWhile_suffix _).subset hc))
  obtain ⟨scheme, rest, htext, hletters, hscheme, hrest⟩ := exists_split (by decide) hvalid
  rw [hcleaned] at htext
  refine ⟨uri.takeWhile Url.leading, scheme, rest, ?_⟩
  exact {
    eq := by rw [← htext, List.takeWhile_append_dropWhile]
    lead := fun c hc => List.mem_takeWhile_imp hc
    letters := hletters
    scheme := by simpa using hscheme
    rest := hrest
    length_le := hlength.2
    printable := hprintable }

/-- A host of one digit after the same scheme. -/
def plainUri (lead scheme : List Char) (digit : Char) : List Char :=
  lead ++ (scheme ++ ':' :: '/' :: '/' :: [digit])

theorem LiveUri.head_not_leading (h : LiveUri uri lead scheme rest) (after : List Char) :
    (scheme ++ after).dropWhile Url.leading = scheme ++ after := by
  have hletter := h.letters.1
  cases scheme with
  | nil => cases hletter
  | cons c scheme =>
      rw [List.cons_append, List.dropWhile_cons_of_neg]
      intro hlead
      simp only [Url.leading, Url.asciiLetter, List.head?_cons, Option.any_some, Bool.or_eq_true,
        Bool.and_eq_true, decide_eq_true_eq] at hlead hletter
      rcases hletter with ⟨hlow, -⟩ | ⟨hlow, -⟩
      · have hlow : 97 ≤ c.toNat := hlow
        omega
      · have hlow : 65 ≤ c.toNat := hlow
        omega

/-- A location of one digit is a host. -/
theorem valid_digit (tables : Url.Tables) {schemes : List (List Char)} {url scheme : List Char}
    {digit : Char} (hdigit : digit = '1' ∨ digit = '2')
    (hsplit : Url.splitScheme (Url.cleaned url) = (scheme, ['/', '/', digit]))
    (hscheme : scheme ∈ schemes) : Url.valid tables schemes url = true := by
  have hnormal : tables.normalNetloc [digit] = true := by
    refine tables.normal_of_ascii _ (List.forall_mem_singleton.mpr ?_)
    rcases hdigit with rfl | rfl
    · decide
    · decide
  have hparts : Url.split tables url = some ⟨scheme, [digit]⟩ := by
    unfold Url.split
    rw [hsplit]
    rcases hdigit with rfl | rfl
    · simp [Url.splitNetloc, Url.delimiter, Url.bracketsValid, hnormal]
    · simp [Url.splitNetloc, Url.delimiter, Url.bracketsValid, hnormal]
  unfold Url.valid
  rw [hparts]
  rcases hdigit with rfl | rfl
  · simp [Url.hostInfo, afterLast, partition, Url.portValid, hscheme]
  · simp [Url.hostInfo, afterLast, partition, Url.portValid, hscheme]

theorem LiveUri.splitScheme_plain (h : LiveUri uri lead scheme rest) {digit : Char}
    (hprintable : ∀ c ∈ plainUri lead scheme digit, ¬ (c.toNat < 32 ∨ c.toNat = 127)) :
    Url.splitScheme (Url.cleaned (plainUri lead scheme digit)) =
      (lowerAscii scheme, ['/', '/', digit]) := by
  have hdrop : (plainUri lead scheme digit).dropWhile Url.leading =
      scheme ++ ':' :: '/' :: '/' :: [digit] := by
    unfold plainUri
    rw [List.dropWhile_append_of_pos h.lead, h.head_not_leading]
  have hcleaned : Url.cleaned (plainUri lead scheme digit) =
      scheme ++ ':' :: '/' :: '/' :: [digit] := by
    unfold Url.cleaned
    rw [← hdrop, List.filter_eq_self]
    intro c hc
    exact not_unsafe (hprintable c ((List.dropWhile_suffix _).subset hc))
  have hfront := (spelled_of_lower h.scheme).takeWhile_eq ('/' :: '/' :: [digit])
  have hpartition : partition ':' (scheme ++ ':' :: '/' :: '/' :: [digit]) =
      (scheme, some ['/', '/', digit]) := by
    have hafter := List.takeWhile_append_dropWhile (p := fun c => decide (c ≠ ':'))
      (l := scheme ++ ':' :: '/' :: '/' :: [digit])
    rw [hfront] at hafter
    unfold partition
    rw [hfront, List.append_cancel_left hafter]
    rfl
  unfold Url.splitScheme
  rw [hcleaned, hpartition]
  dsimp only
  rw [h.letters.1, h.letters.2]
  rfl

theorem LiveUri.plain (h : LiveUri uri lead scheme rest) (tables : Url.Tables) {digit : Char}
    (hdigit : digit = '1' ∨ digit = '2') :
    validateLiveUri tables (plainUri lead scheme digit) = .ok (plainUri lead scheme digit) ∧
      LiveUri (plainUri lead scheme digit) lead scheme [digit] := by
  have hlength : (plainUri lead scheme digit).length ≤ maxUriLength := by
    refine le_trans ?_ h.length_le
    have hrest : 1 ≤ rest.length := List.length_pos_iff.mpr h.rest
    rw [h.eq]
    unfold plainUri
    simp only [List.length_append, List.length_cons, List.length_nil]
    omega
  have hprintable : ∀ c ∈ plainUri lead scheme digit, ¬ (c.toNat < 32 ∨ c.toNat = 127) := by
    have huri := h.printable
    rw [h.eq] at huri
    simp only [plainUri, List.forall_mem_append, List.forall_mem_cons] at huri ⊢
    refine ⟨huri.1, huri.2.1, by decide, by decide, by decide, ?_, List.forall_mem_nil _⟩
    rcases hdigit with rfl | rfl
    · decide
    · decide
  have hvalid : Url.valid tables ["rtsp".toList, "rtsps".toList] (plainUri lead scheme digit) =
      true :=
    valid_digit tables hdigit (h.splitScheme_plain hprintable) (by simpa using h.scheme)
  refine ⟨?_, {
    eq := rfl
    lead := h.lead
    letters := h.letters
    scheme := h.scheme
    rest := List.cons_ne_nil _ _
    length_le := hlength
    printable := hprintable }⟩
  unfold validateLiveUri
  rw [if_neg, if_neg, if_pos hvalid]
  · rw [List.any_eq_true]
    rintro ⟨c, hc, hbad⟩
    exact hprintable c hc (by simpa using hbad)
  · rw [not_or, not_lt]
    exact ⟨List.append_ne_nil_of_right_ne_nil _ (List.append_ne_nil_of_right_ne_nil _
      (List.cons_ne_nil _ _)), hlength⟩

end Uris

/-! ## What a redacted text tells about its URI -/

/-- A text does not end in a word character, or its last characters are in a match. -/
def Covered (words : WordCharacters) (before : List Char) : Prop :=
  before.getLast?.any words.word = false ∨
    ∃ front opening, before = front ++ opening ∧ (∀ c ∈ opening, isSpace c = false) ∧
      front.getLast?.any words.word = false ∧ opensUri opening = true

/-- There is no white space after the scheme. -/
def Unbroken (uri : List Char) : Prop := ∀ c ∈ uri.dropWhile (· ≠ ':'), isSpace c = false

/-- In front of white space, a redacted text with the URI is the one with any other URI that is
accepted, spells its scheme alike and has no white space.  The spelling is all that stands in
front of the colon: the blanks that `urlsplit` strips are part of it. -/
def Hidden (words : WordCharacters) (tables : Url.Tables) (before uri : List Char) : Prop :=
  ∀ other after, validateLiveUri tables other = .ok other →
    other.takeWhile (· ≠ ':') = uri.takeWhile (· ≠ ':') → Unbroken other →
    (∀ c ∈ after.head?, isSpace c = true) →
    redactLiveText words (before ++ uri ++ after) = redactLiveText words (before ++ other ++ after)

section Hiding

variable {words : WordCharacters} {tables : Url.Tables} {before uri lead scheme rest : List Char}

theorem covered_iff :
    Covered words before ↔
      (lastChar none before).any words.word = false ∨ Matching words false none before := by
  have hlast (text : List Char) : lastChar none text = text.getLast? := Option.or_none
  unfold Covered Matching
  simp only [hlast, Bool.false_eq_true, false_and, false_or, visible, Bool.not_eq_true']

/-- In front of a scheme, a redacted text depends only on whether a match is going on. -/
theorem Spelled.exists_scanned (words : WordCharacters) (h : Spelled scheme) (before : List Char) :
    ∃ out inMatch, (∀ rest, redactLiveText words (before ++ (scheme ++ ':' :: '/' :: '/' :: rest)) =
        out ++ redactFrom words inMatch (lastChar none before)
          (scheme ++ ':' :: '/' :: '/' :: rest)) ∧
      (inMatch = true ↔ Matching words false none before) := by
  obtain ⟨c, tail, rfl, hc, -⟩ := h.exists_cons
  obtain ⟨out, inMatch, hout, hmatching⟩ := Live.exists_scanned words hc before false none
  exact ⟨out, inMatch, fun rest => hout (tail ++ ':' :: '/' :: '/' :: rest), hmatching⟩

/-- A covered URI ends in a match. -/
theorem Spelled.exists_covered (h : Spelled scheme) (hcovered : Covered words before) :
    ∃ out, ∀ rest, rest.head?.any Live.visible = true →
      redactLiveText words (before ++ (scheme ++ ':' :: '/' :: '/' :: rest)) =
        out ++ redactFrom words true none rest := by
  obtain ⟨out, inMatch, hout, hmatching⟩ := h.exists_scanned words before
  cases inMatch with
  | true =>
      refine ⟨out, fun rest _ => ?_⟩
      rw [hout, h.redactFrom_true]
  | false =>
      have hword : (lastChar none before).any words.word = false :=
        (covered_iff.mp hcovered).resolve_right fun hm => Bool.false_ne_true (hmatching.mpr hm)
      refine ⟨out ++ redaction scheme, fun rest hrest => ?_⟩
      rw [hout, h.redactFrom_match hword hrest, List.append_assoc]

theorem redactFrom_digit {digit : Char} (hdigit : digit = '1' ∨ digit = '2')
    (previous : Option Char) :
    redactFrom words false previous [digit] = [digit] ∧
      redactFrom words true previous [digit] = [] := by
  have hplain : matchesUri [digit] = false := by
    rcases hdigit with rfl | rfl
    · decide
    · decide
  refine ⟨redactFrom_skip (.inr hplain), ?_⟩
  rcases hdigit with rfl | rfl
  · rfl
  · rfl

/-- Behind a word character, a URI is left as it is. -/
theorem Spelled.covered_of_eq (h : Spelled scheme)
    (heq : redactLiveText words (before ++ (scheme ++ ':' :: '/' :: '/' :: ['1'])) =
      redactLiveText words (before ++ (scheme ++ ':' :: '/' :: '/' :: ['2']))) :
    Covered words before := by
  obtain ⟨out, inMatch, hout, hmatching⟩ := h.exists_scanned words before
  rw [covered_iff]
  by_contra hnot
  rw [not_or, Bool.not_eq_false] at hnot
  obtain rfl : inMatch = false := by
    rw [← Bool.not_eq_true, hmatching]
    exact hnot.2
  rw [hout, hout, h.redactFrom_skip (.inl hnot.1), h.redactFrom_skip (.inl hnot.1),
    (redactFrom_digit (.inl rfl) _).1, (redactFrom_digit (.inr rfl) _).1] at heq
  have hdigits := List.append_cancel_left (List.append_cancel_left heq)
  exact absurd hdigits (by decide)

/-- Behind white space, a URI is left as it is. -/
theorem Spelled.visible_of_eq (h : Spelled scheme) (hcovered : Covered words before)
    (heq : redactLiveText words (before ++ (scheme ++ ':' :: '/' :: '/' :: rest)) =
      redactLiveText words (before ++ (scheme ++ ':' :: '/' :: '/' :: ['1']))) :
    ∀ c ∈ rest, Live.visible c = true := by
  by_contra hbroken
  have hsplit := List.takeWhile_append_dropWhile (p := Live.visible) (l := rest)
  cases hdrop : rest.dropWhile Live.visible with
  | nil =>
      rw [hdrop, List.append_nil] at hsplit
      exact hbroken fun c hc => List.mem_takeWhile_imp (hsplit ▸ hc)
  | cons w tail =>
      have hspace : isSpace w = true := by
        have hhead := List.head?_dropWhile_not Live.visible rest
        rw [hdrop] at hhead
        simpa [Live.visible] using hhead
      have hout (previous : Option Char) :
          redactFrom words true previous (w :: tail) =
            w :: redactFrom words false (some w) tail := by
        rw [redactFrom, if_pos hspace]
      rw [hdrop] at hsplit
      cases hfront : rest.takeWhile Live.visible with
      | cons c front =>
          -- the match ends at the white space
          obtain ⟨out, hredact⟩ := h.exists_covered hcovered
          have hvisible : ∀ d ∈ c :: front, Live.visible d = true := fun d hd =>
            List.mem_takeWhile_imp (hfront ▸ hd)
          rw [hfront] at hsplit
          have hhead : (c :: front ++ w :: tail).head?.any Live.visible = true :=
            hvisible c List.mem_cons_self
          rw [← hsplit, hredact _ hhead, hredact ['1'] rfl,
            redactFrom_visible none hvisible, hout, (redactFrom_digit (.inl rfl) none).2] at heq
          exact List.cons_ne_nil _ _ (List.append_cancel_left heq)
      | nil =>
          -- there is no match at the scheme
          rw [hfront, List.nil_append] at hsplit
          subst hsplit
          obtain ⟨out, inMatch, hscanned, hmatching⟩ := h.exists_scanned words before
          rw [hscanned, hscanned] at heq
          have heq := List.append_cancel_left heq
          cases inMatch with
          | true =>
              rw [h.redactFrom_true, h.redactFrom_true, hout,
                (redactFrom_digit (.inl rfl) none).2] at heq
              exact List.cons_ne_nil _ _ heq
          | false =>
              have hword : (lastChar none before).any words.word = false :=
                (covered_iff.mp hcovered).resolve_right fun hm =>
                  Bool.false_ne_true (hmatching.mpr hm)
              have hinvisible : (w :: tail).head?.any Live.visible = false := by
                simp [Live.visible, hspace]
              have hnone : matchesUri (w :: tail) = false := by
                by_contra hmatches
                rw [Bool.not_eq_false] at hmatches
                have hw := visible_of_r (letter_of_matchesUri hmatches)
                rw [Live.visible, hspace] at hw
                cases hw
              rw [h.redactFrom_skip (.inr hinvisible), h.redactFrom_match hword rfl,
                (redactFrom_digit (.inl rfl) none).2, List.append_nil, Live.redactFrom_skip
                (.inr hnone), redaction, List.append_assoc] at heq
              have hbracket : '/' :: w :: redactFrom words false (some w) tail =
                  '/' :: '[' :: "REDACTED]".toList :=
                congrArg (List.drop 2) (List.append_cancel_left heq)
              obtain rfl : w = '[' := (List.cons.inj (List.cons.inj hbracket).2).1
              exact absurd hspace (by decide)

theorem LiveUri.lead_ne_colon (h : LiveUri uri lead scheme rest) : ∀ c ∈ lead, c ≠ ':' := by
  rintro c hc rfl
  exact absurd (h.lead _ hc) (by decide)

theorem LiveUri.spelling (h : LiveUri uri lead scheme rest) :
    uri.takeWhile (· ≠ ':') = lead ++ scheme := by
  rw [h.eq, List.takeWhile_append_of_pos fun c hc => decide_eq_true (h.lead_ne_colon c hc),
    (spelled_of_lower h.scheme).takeWhile_eq]

theorem LiveUri.leading (h : LiveUri uri lead scheme rest) :
    uri.takeWhile Url.leading = lead := by
  have hsplit := List.takeWhile_append_dropWhile (p := Url.leading) (l := uri)
  have hdrop : uri.dropWhile Url.leading = scheme ++ ':' :: '/' :: '/' :: rest := by
    rw [h.eq, List.dropWhile_append_of_pos h.lead, h.head_not_leading]
  rw [hdrop] at hsplit
  exact List.append_cancel_right (hsplit.trans h.eq)

theorem LiveUri.unbroken_iff (h : LiveUri uri lead scheme rest) :
    Unbroken uri ↔ ∀ c ∈ rest, visible c = true := by
  have hdrop : uri.dropWhile (· ≠ ':') = ':' :: '/' :: '/' :: rest := by
    have hsplit := List.takeWhile_append_dropWhile (p := fun c => decide (c ≠ ':')) (l := uri)
    rw [h.spelling] at hsplit
    exact List.append_cancel_left (hsplit.trans (h.eq.trans (List.append_assoc _ _ _).symm))
  have hslash : isSpace '/' = false := by decide
  have hcolon : isSpace ':' = false := by decide
  unfold Unbroken
  rw [hdrop]
  simp only [List.forall_mem_cons, hslash, hcolon, true_and, visible, Bool.not_eq_true']

/-- Two spellings have the same scheme behind the same stripped characters. -/
theorem LiveUri.parts_eq {other lead' scheme' rest' : List Char} (h : LiveUri uri lead scheme rest)
    (hother : LiveUri other lead' scheme' rest')
    (hspelling : other.takeWhile (· ≠ ':') = uri.takeWhile (· ≠ ':')) :
    lead' = lead ∧ scheme' = scheme := by
  rw [hother.spelling, h.spelling] at hspelling
  have hdrop := congrArg (List.dropWhile Url.leading) hspelling
  have hscheme := h.head_not_leading []
  have hscheme' := hother.head_not_leading []
  rw [List.append_nil] at hscheme hscheme'
  rw [List.dropWhile_append_of_pos hother.lead, List.dropWhile_append_of_pos h.lead, hscheme,
    hscheme'] at hdrop
  subst hdrop
  exact ⟨List.append_cancel_right hspelling, rfl⟩

/-- What follows the scheme of an unbroken URI is not in the redacted text. -/
theorem LiveUri.redact_eq (h : LiveUri uri lead scheme rest) (hunbroken : Unbroken uri)
    {out : List Char} (after : List Char)
    (hredact : ∀ rest, rest.head?.any visible = true →
      redactLiveText words ((before ++ lead) ++ (scheme ++ ':' :: '/' :: '/' :: rest)) =
        out ++ redactFrom words true none rest) :
    redactLiveText words (before ++ uri ++ after) = out ++ redactFrom words true none after := by
  have hvisible := h.unbroken_iff.mp hunbroken
  have hhead : (rest ++ after).head?.any visible = true := by
    have hne := h.rest
    cases rest with
    | nil => exact absurd rfl hne
    | cons c rest => exact hvisible c List.mem_cons_self
  have htext : before ++ uri ++ after =
      (before ++ lead) ++ (scheme ++ ':' :: '/' :: '/' :: (rest ++ after)) := by
    rw [h.eq]
    simp only [List.append_assoc, List.cons_append]
  rw [htext, hredact _ hhead, redactFrom_visible none hvisible]

end Hiding

/-- A text tells nothing about its URI but the scheme exactly if the URI has no white space after
it and the text in front of it lets a match begin, or is in one.  Redacting twice is redacting. -/
theorem redaction_hides_iff (words : WordCharacters) (tables : Url.Tables) (before uri : List Char)
    (huri : validateLiveUri tables uri = .ok uri) :
    (Hidden words tables before uri ↔
      Unbroken uri ∧ Covered words (before ++ uri.takeWhile Url.leading)) ∧
      ∀ text, redactLiveText words (redactLiveText words text) = redactLiveText words text := by
  obtain ⟨lead, scheme, rest, h⟩ := exists_liveUri huri
  have hspelled := spelled_of_lower h.scheme
  refine ⟨?_, redactLiveText_idempotent words⟩
  rw [h.leading]
  constructor
  · intro hhidden
    have hplain {digit : Char} (hdigit : digit = '1' ∨ digit = '2') :
        redactLiveText words ((before ++ lead) ++ (scheme ++ ':' :: '/' :: '/' :: rest)) =
          redactLiveText words ((before ++ lead) ++ (scheme ++ ':' :: '/' :: '/' :: [digit])) := by
      obtain ⟨haccepted, hparts⟩ := h.plain tables hdigit
      have hunbroken : Unbroken (plainUri lead scheme digit) := by
        rw [hparts.unbroken_iff]
        refine List.forall_mem_singleton.mpr ?_
        rcases hdigit with rfl | rfl
        · rfl
        · rfl
      have heq := hhidden (plainUri lead scheme digit) [] haccepted
        (hparts.spelling.trans h.spelling.symm) hunbroken (fun c hc => by cases hc)
      rw [List.append_nil, List.append_nil, h.eq] at heq
      rw [List.append_assoc, List.append_assoc]
      exact heq
    have hcovered := hspelled.covered_of_eq ((hplain (.inl rfl)).symm.trans (hplain (.inr rfl)))
    exact ⟨h.unbroken_iff.mpr (hspelled.visible_of_eq hcovered (hplain (.inl rfl))), hcovered⟩
  · rintro ⟨hunbroken, hcovered⟩ other after hother hspelling hotherUnbroken _
    obtain ⟨lead', scheme', rest', h'⟩ := exists_liveUri hother
    obtain ⟨rfl, rfl⟩ := h.parts_eq h' hspelling
    obtain ⟨out, hredact⟩ := hspelled.exists_covered hcovered
    rw [h.redact_eq hunbroken after hredact, h'.redact_eq hotherUnbroken after hredact]

/-- The word characters of ASCII. -/
def asciiWords : WordCharacters := ⟨fun c => c.isAlphanum || c == '_', fun _ _ => rfl⟩

def brokenUri : List Char := "rtsp://camera/live?user=a b".toList

def cameraUri : List Char := "rtsp://camera/live".toList

theorem cameraUri_accepted : validateLiveUri Url.asciiTables cameraUri = .ok cameraUri := by
  apply ok_of_toOption
  decide

/-- Both URIs are accepted; a space in the one shows what follows it, and a letter in front of the
other shows all of it. -/
theorem redaction_leaks :
    (validateLiveUri Url.asciiTables brokenUri).toOption = some brokenUri ∧
      (validateLiveUri Url.asciiTables cameraUri).toOption = some cameraUri ∧
      redactLiveText asciiWords brokenUri = "rtsp://[REDACTED] b".toList ∧
      redactLiveText asciiWords cameraUri = "rtsp://[REDACTED]".toList ∧
      redactLiveText asciiWords ('x' :: cameraUri) = "xrtsp://camera/live".toList := by
  decide

theorem cameraUri_hidden :
    (Hidden asciiWords Url.asciiTables "connect ".toList cameraUri ↔
      Unbroken cameraUri ∧
        Covered asciiWords ("connect ".toList ++ cameraUri.takeWhile Url.leading)) ∧
      ∀ text, redactLiveText asciiWords (redactLiveText asciiWords text) =
        redactLiveText asciiWords text :=
  redaction_hides_iff asciiWords Url.asciiTables "connect ".toList cameraUri cameraUri_accepted

end Mvision.Live
