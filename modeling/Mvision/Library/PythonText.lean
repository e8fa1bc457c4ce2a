import Mathlib.Data.List.DropRight

/-!
# Python texts

White space and word characters as `str` and `re` have them, and texts that start with characters
of given classes.
-/

namespace Mvision.Library

/-- `str.isspace` of a character, and `\s`. -/
def isSpace (c : Char) : Bool :=
  let code := c.toNat
  (9 ≤ code && code ≤ 13) || (28 ≤ code && code ≤ 32) || code == 0x85 || code == 0xA0 ||
    code == 0x1680 || (0x2000 ≤ code && code ≤ 0x200A) || code == 0x2028 || code == 0x2029 ||
      code == 0x202F || code == 0x205F || code == 0x3000

/-- `str.strip` -/
def stripped (text : String) : String :=
  String.ofList ((text.toList.dropWhile isSpace).rdropWhile isSpace)

/-- What `\w` matches: a table of the language. -/
structure WordCharacters where
  word : Char → Bool
  word_of_ascii : ∀ c, c.toNat < 128 → word c = (c.isAlphanum || c == '_')

/-- The first characters of a text are of the classes. -/
def startsWith : List (Char → Bool) → List Char → Bool
  | [], _ => true
  | _ :: _, [] => false
  | f :: classes, c :: text => f c && startsWith classes text

variable {classes : List (Char → Bool)} {f : Char → Bool} {c : Char} {before : List Char}

theorem exists_of_startsWith {text : List Char} (h : startsWith (f :: classes) text = true) :
    ∃ d rest, text = d :: rest ∧ f d = true ∧ startsWith classes rest = true := by
  cases text with
  | nil => cases h
  | cons d rest =>
      obtain ⟨hd, hrest⟩ := Bool.and_eq_true_iff.mp h
      exact ⟨d, rest, rfl, hd, hrest⟩

theorem exists_mem_of_startsWith {text : List Char} (h : startsWith classes text = true)
    (hf : f ∈ classes) : ∃ d ∈ text, f d = true := by
  induction classes generalizing text with
  | nil => cases hf
  | cons g classes ih =>
      obtain ⟨d, text, rfl, hd, htext⟩ := exists_of_startsWith h
      rcases List.mem_cons.mp hf with rfl | hf
      · exact ⟨d, List.mem_cons_self, hd⟩
      · obtain ⟨e, he, hfe⟩ := ih htext hf
        exact ⟨e, List.mem_cons_of_mem d he, hfe⟩

/-- A text is read as far as a character that only the last class may have. -/
theorem startsWith_of_append (hreject : ∀ g ∈ classes, g c = false) {x : List Char}
    (h : startsWith (classes ++ [f]) (before ++ c :: x) = true) :
    startsWith classes before = true := by
  induction before generalizing classes with
  | nil =>
      cases classes with
      | nil => rfl
      | cons g classes =>
          rw [List.forall_mem_cons] at hreject
          simp only [List.cons_append, List.nil_append, startsWith, hreject.1, Bool.false_and,
            Bool.false_eq_true] at h
  | cons d before ih =>
      cases classes with
      | nil => rfl
      | cons g classes =>
          rw [List.forall_mem_cons] at hreject
          simp only [List.cons_append, startsWith, Bool.and_eq_true] at h ⊢
          exact ⟨h.1, ih hreject.2 h.2⟩

theorem startsWith_append (hbefore : ∀ d ∈ before, f d = true) (hc : f c = true) (x : List Char)
    (h : startsWith classes before = true) :
    startsWith (classes ++ [f]) (before ++ c :: x) = true := by
  induction classes generalizing before with
  | nil =>
      cases before with
      | nil => simp [startsWith, hc]
      | cons d before => simp [startsWith, hbefore d List.mem_cons_self]
  | cons g classes ih =>
      cases before with
      | nil => cases h
      | cons d before =>
          rw [List.forall_mem_cons] at hbefore
          simp only [List.cons_append, startsWith, Bool.and_eq_true] at h ⊢
          exact ⟨h.1, ih hbefore.2 h.2⟩

/-- What follows such a character does not matter. -/
theorem startsWith_congr (hreject : ∀ g ∈ classes, g c = false) (before x y : List Char) :
    startsWith (classes ++ [f]) (before ++ c :: x) =
      startsWith (classes ++ [f]) (before ++ c :: y) := by
  induction before generalizing classes with
  | nil =>
      cases classes with
      | nil => simp [startsWith]
      | cons g classes => simp [startsWith, hreject g List.mem_cons_self]
  | cons d before ih =>
      cases classes with
      | nil => simp [startsWith]
      | cons g classes =>
          rw [List.forall_mem_cons] at hreject
          simp only [List.cons_append, startsWith, ih hreject.2]

end Mvision.Library
