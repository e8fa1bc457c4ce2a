import Mvision.Library.PythonValues

/-!
# Which values make a built-in function fail

The classes of exceptions that a program does not catch come from few values: infinite floats
and integers that are too large for a float, counts of bytes that there is no memory for, and
values without the attribute.
-/

namespace Mvision.Library.Python

open Mvision.Library

/-! ## The values -/

namespace Value

/-- `int(value)` raises an `OverflowError`. -/
def isInfinite : Value → Bool
  | .float (.infinite _) => true
  | _ => false

/-- `float(value)` raises an `OverflowError`. -/
def tooLarge : Value → Bool
  | .int n =>
      match binary64.round n with
      | .infinite _ => true
      | _ => false
  | _ => false

/-- `bytes(n)` raises an `OverflowError` or a `MemoryError`. -/
def noMemory (python : Interpreter) (n : Int) : Bool :=
  decide (n < -2 ^ 63 ∨ 2 ^ 63 ≤ n) || (decide (0 ≤ n) && !python.allocates n.toNat)

/-- `bytes(value)` raises one of them. -/
def unallocatable (python : Interpreter) : Value → Bool
  | .bool flag => noMemory python (if flag then 1 else 0)
  | .int n => noMemory python n
  | _ => false

/-- `UUID(value)` raises an `AttributeError`: the value has no `replace`. -/
def withoutReplace : Value → Bool
  | .none | .str _ | .bytes _ => false
  | _ => true

/-- The value of a key, of a dictionary that has it. -/
def field (value : Value) (name : String) : Option Value :=
  match value with
  | .dict entries => lookup entries name
  | _ => .none

end Value

/-! ## The checks -/

/-- The exception is of no class that the program catches. -/
def leaves (caught : List ErrorKind) (e : Error) : Bool := decide (e.kind ∉ caught)

/-- The classes that are caught, among those of the built-in functions. -/
structure Catches (caught : List ErrorKind) : Prop where
  value : ErrorKind.value ∈ caught
  type : ErrorKind.type ∈ caught
  overflow : ErrorKind.overflow ∉ caught
  memory : ErrorKind.memory ∉ caught
  noAttribute : ErrorKind.attribute ∉ caught

def intField (python : Interpreter) (value : Value) : Field :=
  ⟨(toInt python value).isOk, value.isInfinite⟩

def floatField (python : Interpreter) (value : Value) : Field :=
  ⟨(toFloat python value).isOk, value.tooLarge⟩

def bytesField (python : Interpreter) (value : Value) : Field :=
  ⟨(toBytes python value).isOk, value.unallocatable python⟩

def uuidField (python : Interpreter) (value : Value) : Field :=
  ⟨(uuid python value).isOk, value.withoutReplace⟩

/-- `value.get(…)` -/
def dictField (value : Value) : Field := ⟨value.isDict, !value.isDict⟩

/-- `value[name]` outside any `try`: a missing key escapes. -/
def presenceField (value : Option Value) : Field := ⟨value.isSome, !value.isSome⟩

/-- A check of the value of a key; a missing one is rejected. -/
def entryField (value : Option Value) (check : Value → Field) : Field :=
  match value with
  | some value => check value
  | none => .test false

/-- Checks of the items of the value of a key. -/
def listFields (value : Option Value) (checks : Value → List Field) : List Field :=
  match value with
  | some value =>
      match items value with
      | .ok items => .test true :: items.flatMap checks
      | .error _ => [.test false]
  | none => [.test false]

/-! ## They describe the functions -/

theorem isOk_iff {ε α : Type} {x : Except ε α} : (∃ a, x = .ok a) ↔ x.isOk = true := by
  cases x with
  | error e =>
      refine iff_of_false ?_ Bool.false_ne_true
      rintro ⟨a, ha⟩
      cases ha
  | ok a => exact iff_of_true ⟨a, rfl⟩ rfl

section Describes

variable {python : Interpreter} {caught : List ErrorKind} {α : Type}

theorem escapes_throwing {kind : ErrorKind} :
    Escapes (leaves caught) (throwing kind : Except Error α) ↔ kind ∉ caught := by
  rw [throwing, escapes_error, leaves, decide_eq_true_eq]

/-- An exception that is caught. -/
theorem Catches.rejects {kind : ErrorKind} (h : kind ∈ caught) :
    Escapes (leaves caught) (throwing kind : Except Error α) ↔ false = true := by
  rw [escapes_throwing]
  exact iff_of_false (not_not_intro h) Bool.false_ne_true

/-- An exception that is not caught. -/
theorem Catches.escapes {kind : ErrorKind} (h : kind ∉ caught) :
    Escapes (leaves caught) (throwing kind : Except Error α) ↔ true = true := by
  rw [escapes_throwing]
  exact iff_of_true h rfl

theorem accepted {a : α} : Escapes (leaves caught) (.ok a : Except Error α) ↔ false = true :=
  iff_of_false not_escapes_ok Bool.false_ne_true

theorem Catches.parsed (h : Catches caught) (result : Option α) :
    Escapes (leaves caught) (parsed result) ↔ false = true := by
  cases result with
  | none => exact Catches.rejects h.value
  | some a => exact accepted

/-- A computation that raises nothing but what is caught. -/
theorem describes_isOk {x : Except Error α} (h : ∀ e, x = .error e → e.kind ∈ caught) :
    Describes (leaves caught) [.test x.isOk] x := by
  apply Describes.single isOk_iff
  refine iff_of_false ?_ Bool.false_ne_true
  rintro ⟨e, he, hleaves⟩
  exact of_decide_eq_true hleaves (h e he)

theorem describes_valueError (hvalue : ErrorKind.value ∈ caught) (text : String) :
    Describes (leaves caught) [.test false] (valueError text : Except Error α) := by
  apply Describes.single
  · refine iff_of_false ?_ Bool.false_ne_true
    rintro ⟨a, ha⟩
    cases ha
  · rw [valueError, escapes_error, leaves, decide_eq_true_eq]
    exact iff_of_false (not_not_intro hvalue) Bool.false_ne_true

theorem describes_require (hvalue : ErrorKind.value ∈ caught) (accepts : Bool) (text : String) :
    Describes (leaves caught) [.test accepts] (require accepts text) := by
  cases accepts with
  | true => exact .single (iff_of_true ⟨(), rfl⟩ rfl) accepted
  | false => exact describes_valueError hvalue text

theorem describes_toInt (h : Catches caught) (value : Value) :
    Describes (leaves caught) [intField python value] (toInt python value) := by
  apply Describes.single isOk_iff
  cases value with
  | bool flag => exact accepted
  | int n => exact accepted
  | float x =>
      cases x with
      | finite q => exact accepted
      | infinite negative => exact Catches.escapes h.overflow
      | nan => exact Catches.rejects h.value
  | str text => exact h.parsed _
  | bytes data => exact h.parsed _
  | none | list _ | dict _ | ext _ _ | timestamp _ _ => exact Catches.rejects h.type

theorem describes_toFloat (h : Catches caught) (value : Value) :
    Describes (leaves caught) [floatField python value] (toFloat python value) := by
  apply Describes.single isOk_iff
  cases value with
  | bool flag => exact accepted
  | int n =>
      show Escapes _ (floatOfInt n) ↔
        (match binary64.round n with | .infinite _ => true | _ => false) = true
      unfold floatOfInt
      cases binary64.round n with
      | finite q => exact accepted
      | infinite negative => exact Catches.escapes h.overflow
      | nan => exact accepted
  | float x => exact accepted
  | str text => exact h.parsed _
  | bytes data => exact h.parsed _
  | none | list _ | dict _ | ext _ _ | timestamp _ _ => exact Catches.rejects h.type

theorem Catches.zeroBytes (h : Catches caught) (n : Int) :
    Escapes (leaves caught) (zeroBytes python n) ↔ Value.noMemory python n = true := by
  unfold Python.zeroBytes Value.noMemory
  by_cases hrange : n < -2 ^ 63 ∨ 2 ^ 63 ≤ n
  · rw [if_pos hrange, decide_eq_true hrange, Bool.true_or]
    exact Catches.escapes h.overflow
  · rw [if_neg hrange, decide_eq_false hrange, Bool.false_or]
    by_cases hneg : n < 0
    · rw [if_pos hneg, decide_eq_false (not_le.mpr hneg), Bool.false_and]
      exact Catches.rejects h.value
    · rw [if_neg hneg, decide_eq_true (not_lt.mp hneg), Bool.true_and]
      cases python.allocates n.toNat with
      | true => exact accepted
      | false => exact Catches.escapes h.memory

theorem Catches.byteOf (h : Catches caught) (value : Value) :
    ¬ Escapes (leaves caught) (byteOf value) := by
  have hno : Escapes (leaves caught) (Python.byteOf value) ↔ false = true := by
    cases value with
    | bool flag => exact accepted
    | int n =>
        show Escapes _ (if 0 ≤ n ∧ n < 256 then .ok (UInt8.ofNat n.toNat) else throwing .value) ↔ _
        split
        · exact accepted
        · exact Catches.rejects h.value
    | none | float _ | str _ | bytes _ | list _ | dict _ | ext _ _ | timestamp _ _ =>
        exact Catches.rejects h.type
  rw [hno]
  exact Bool.false_ne_true

theorem not_escapes_mapM {ε β : Type} {escaping : ε → Bool} {f : β → Except ε α} {list : List β}
    (h : ∀ item ∈ list, ¬ Escapes escaping (f item)) : ¬ Escapes escaping (list.mapM f) := by
  induction list with
  | nil => exact not_escapes_ok
  | cons item rest ih =>
      rw [List.forall_mem_cons] at h
      rw [List.mapM_cons]
      cases hitem : f item with
      | error e =>
          have hfirst := h.1
          rw [hitem, escapes_error] at hfirst
          show ¬ Escapes escaping (.error e : Except ε (List α))
          rwa [escapes_error]
      | ok a =>
          have hrest := ih h.2
          show ¬ Escapes escaping (rest.mapM f >>= fun results => pure (a :: results))
          cases hresults : rest.mapM f with
          | error e =>
              rw [hresults, escapes_error] at hrest
              show ¬ Escapes escaping (.error e : Except ε (List α))
              rwa [escapes_error]
          | ok results => exact not_escapes_ok

theorem Catches.byItems (h : Catches caught) (value : Value) :
    Escapes (leaves caught) (items value >>= List.mapM Python.byteOf) ↔ false = true := by
  refine iff_of_false ?_ Bool.false_ne_true
  have hnone : ∀ list : List Value, ¬ Escapes (leaves caught) (list.mapM Python.byteOf) :=
    fun _ => not_escapes_mapM fun item _ => h.byteOf item
  have hno : ∀ {β : Type}, ¬ Escapes (leaves caught) (throwing .type : Except Error β) := by
    intro β
    rw [escapes_throwing, not_not]
    exact h.type
  cases value with
  | str text => exact hnone _
  | bytes data => exact hnone _
  | list list => exact hnone _
  | dict entries => exact hnone _
  | ext type data => exact hnone _
  | none | bool _ | int _ | float _ | timestamp _ _ => exact hno

theorem describes_toBytes (h : Catches caught) (value : Value) :
    Describes (leaves caught) [bytesField python value] (toBytes python value) := by
  apply Describes.single isOk_iff
  cases value with
  | bytes data => exact accepted
  | bool flag => exact h.zeroBytes _
  | int n => exact h.zeroBytes n
  | str text => exact Catches.rejects h.type
  | none => exact h.byItems .none
  | float x => exact h.byItems (.float x)
  | list list => exact h.byItems (.list list)
  | dict entries => exact h.byItems (.dict entries)
  | ext type data => exact h.byItems (.ext type data)
  | timestamp seconds nanoseconds => exact h.byItems (.timestamp seconds nanoseconds)

theorem describes_uuid (h : Catches caught) (value : Value) :
    Describes (leaves caught) [uuidField python value] (uuid python value) := by
  apply Describes.single isOk_iff
  cases value with
  | none => exact Catches.rejects h.type
  | str text =>
      show Escapes _ (if python.uuidAccepts text then .ok () else throwing .value) ↔ false = true
      split
      · exact accepted
      · exact Catches.rejects h.value
  | bytes data => exact Catches.rejects h.type
  | bool _ | int _ | float _ | list _ | dict _ | ext _ _ | timestamp _ _ =>
      exact Catches.escapes h.noAttribute

theorem describes_get (hattribute : ErrorKind.attribute ∉ caught) (value : Value) (name : String) :
    Describes (leaves caught) [dictField value] (get value name) := by
  have hno : ¬ ∃ a, (throwing .attribute : Except Error Value) = .ok a := by
    rintro ⟨a, ha⟩
    cases ha
  cases value with
  | dict entries => exact .single (iff_of_true ⟨_, rfl⟩ rfl) accepted
  | none | bool _ | int _ | float _ | str _ | bytes _ | list _ | ext _ _ | timestamp _ _ =>
      exact .single (iff_of_false hno Bool.false_ne_true) (Catches.escapes hattribute)

/-- What is done with the value of a key, or the exception where there is none. -/
theorem subscript_bind {β : Type} (hkey : ErrorKind.key ∈ caught) (htype : ErrorKind.type ∈ caught)
    (value : Value) (name : String) (f : Value → Except Error β) :
    (∃ found, value.field name = some found ∧ (subscript value name >>= f) = f found) ∨
      value.field name = none ∧
        ∃ kind ∈ caught, (subscript value name >>= f) = throwing kind := by
  cases value with
  | dict entries =>
      cases hfound : lookup entries name with
      | some found =>
          refine .inl ⟨found, hfound, ?_⟩
          show (entry entries name >>= f) = _
          rw [entry, hfound]
          rfl
      | none =>
          refine .inr ⟨hfound, .key, hkey, ?_⟩
          show (entry entries name >>= f) = _
          rw [entry, hfound]
          rfl
  | none | bool _ | int _ | float _ | str _ | bytes _ | list _ | ext _ _ | timestamp _ _ =>
      exact .inr ⟨rfl, .type, htype, rfl⟩

theorem describes_throwing {kind : ErrorKind} (h : kind ∈ caught) :
    Describes (leaves caught) [.test false] (throwing kind : Except Error α) := by
  apply Describes.single
  · refine iff_of_false ?_ Bool.false_ne_true
    rintro ⟨a, ha⟩
    cases ha
  · exact Catches.rejects h

theorem describes_entry (h : Catches caught) (hkey : ErrorKind.key ∈ caught) {value : Value}
    {name : String} {check : Value → Field} {f : Value → Except Error α}
    (hf : ∀ found, Describes (leaves caught) [check found] (f found)) :
    Describes (leaves caught) [entryField (value.field name) check]
      (subscript value name >>= f) := by
  rcases subscript_bind hkey h.type value name f with ⟨found, hfound, heq⟩ | ⟨hnone, kind, hkind, heq⟩
  · rw [hfound, heq]
    exact hf found
  · rw [hnone, heq]
    exact describes_throwing hkind

theorem describes_list (h : Catches caught) (hkey : ErrorKind.key ∈ caught) {value : Value}
    {name : String} {checks : Value → List Field} {f : Value → Except Error α}
    (hf : ∀ item, Describes (leaves caught) (checks item) (f item)) :
    Describes (leaves caught) (listFields (value.field name) checks)
      (subscript value name >>= items >>= List.mapM f) := by
  rw [bind_assoc]
  rcases subscript_bind hkey h.type value name (fun found => items found >>= List.mapM f) with
    ⟨found, hfound, heq⟩ | ⟨hnone, kind, hkind, heq⟩
  · rw [hfound, heq]
    unfold listFields
    dsimp only
    have hbad : Describes (leaves caught) [Field.test false]
        (throwing .type : Except Error (List α)) := describes_throwing h.type
    have hgood : ∀ list : List Value,
        Describes (leaves caught) (.test true :: list.flatMap checks) (list.mapM f) := by
      intro list
      have hitems : Describes (leaves caught) (list.flatMap checks) (list.mapM f) :=
        Describes.mapM fun item _ => hf item
      refine ⟨hitems.accepts.trans ?_, hitems.escapes.trans ?_⟩
      · unfold Field.AllAccept
        rw [List.forall_mem_cons]
        exact (and_iff_right rfl).symm
      · rw [Field.clean_cons]
        simp [Field.test]
    cases found with
    | str text => exact hgood _
    | bytes data => exact hgood _
    | list list => exact hgood _
    | dict entries => exact hgood _
    | ext type data => exact hgood _
    | none | bool _ | int _ | float _ | timestamp _ _ => exact hbad
  · rw [hnone, heq]
    exact describes_throwing hkind

theorem describes_presence (hkey : ErrorKind.key ∉ caught) (htype : ErrorKind.type ∉ caught)
    (value : Value) (name : String) :
    Describes (leaves caught) [presenceField (value.field name)] (subscript value name) := by
  have hno : ∀ kind, ¬ ∃ a, (throwing kind : Except Error Value) = .ok a := by
    rintro kind ⟨a, ha⟩
    cases ha
  cases value with
  | dict entries =>
      show Describes _ [presenceField (lookup entries name)] (entry entries name)
      unfold entry
      cases lookup entries name with
      | some found => exact .single (iff_of_true ⟨found, rfl⟩ rfl) accepted
      | none => exact .single (iff_of_false (hno _) Bool.false_ne_true) (Catches.escapes hkey)
  | none | bool _ | int _ | float _ | str _ | bytes _ | list _ | ext _ _ | timestamp _ _ =>
      exact .single (iff_of_false (hno _) Bool.false_ne_true) (Catches.escapes htype)

theorem eq_dict_of_subscript {value found : Value} {name : String}
    (h : subscript value name = .ok found) :
    ∃ entries, value = .dict entries ∧ lookup entries name = some found := by
  cases value with
  | dict entries =>
      refine ⟨entries, rfl, ?_⟩
      have h : entry entries name = .ok found := h
      unfold entry at h
      split at h
      · rename_i hfound
        rw [hfound, Except.ok.inj h]
      · cases h
  | none | bool _ | int _ | float _ | str _ | bytes _ | list _ | ext _ _ | timestamp _ _ => cases h

theorem eq_dict_of_get {value found : Value} {name : String} (h : get value name = .ok found) :
    ∃ entries, value = .dict entries ∧ (lookup entries name).getD .none = found := by
  cases value with
  | dict entries => exact ⟨entries, rfl, Except.ok.inj h⟩
  | none | bool _ | int _ | float _ | str _ | bytes _ | list _ | ext _ _ | timestamp _ _ => cases h

/-- What was read of a list. -/
theorem items_of_read {value : Value} {name : String} {f : Value → Except Error α}
    {results : List α} (h : (subscript value name >>= items >>= List.mapM f) = .ok results) :
    ∃ found list, value.field name = some found ∧ items found = .ok list ∧
      List.Forall₂ (fun item result => f item = .ok result) list results := by
  obtain ⟨list, hlist, hresults⟩ : ∃ list, (subscript value name >>= items) = .ok list ∧
      list.mapM f = .ok results := by
    cases hlist : subscript value name >>= items with
    | error e =>
        rw [hlist] at h
        cases h
    | ok list =>
        rw [hlist] at h
        exact ⟨list, rfl, h⟩
  rcases @subscript_bind [.key, .type] _ (by decide) (by decide) value name items with
    ⟨found, hfound, heq⟩ | ⟨-, kind, -, heq⟩
  · rw [heq] at hlist
    exact ⟨found, list, hfound, hlist, forall₂_of_mapM_ok hresults⟩
  · rw [heq] at hlist
    cases hlist

/-- `try: … except`: what is caught ends as an exception that is no fault. -/
theorem describes_catching {fields : List Field} {x : Except Error α} {kinds rest : List ErrorKind}
    {replacement : Error} (h : Describes (leaves (kinds ++ rest)) fields x)
    (hreplacement : replacement.kind ∈ rest) :
    Describes (leaves rest) fields (catching kinds replacement x) := by
  cases x with
  | ok a =>
      refine ⟨h.accepts, ?_⟩
      rw [← h.escapes]
      exact iff_of_false not_escapes_ok not_escapes_ok
  | error e =>
      unfold Python.catching
      dsimp only
      refine ⟨?_, ?_⟩
      · rw [← h.accepts]
        refine iff_of_false ?_ ?_
        · rintro ⟨a, ha⟩
          split at ha <;> cases ha
        · rintro ⟨a, ha⟩
          cases ha
      · rw [← h.escapes, escapes_error, leaves, decide_eq_true_eq, List.mem_append, not_or]
        split
        · rename_i hcaught
          rw [escapes_error, leaves, decide_eq_true_eq]
          exact iff_of_false (not_not_intro hreplacement) fun hnot => hnot.1 hcaught
        · rename_i hcaught
          rw [escapes_error, leaves, decide_eq_true_eq]
          exact (and_iff_right hcaught).symm

/-- Only exceptions of one class come out exactly if no other one escapes the checks. -/
theorem raises_iff {fields : List Field} {x : Except Error α} {kind : ErrorKind}
    (h : Describes (leaves [kind]) fields x) :
    (∀ e, x = .error e → e.kind = kind) ↔ Field.Clean fields := by
  rw [← not_not (a := Field.Clean fields), ← h.escapes]
  unfold Escapes leaves
  constructor
  · rintro hall ⟨e, he, hescapes⟩
    rw [decide_eq_true_eq, hall e he] at hescapes
    exact hescapes List.mem_cons_self
  · intro hnone e he
    by_contra hkind
    exact hnone ⟨e, he, decide_eq_true fun hmem => hkind (List.mem_singleton.mp hmem)⟩

/-- What is done after it raises nothing else. -/
theorem raises_bind_iff {β : Type} {x : Except Error α} {f : α → Except Error β} {kind : ErrorKind}
    (hf : ∀ a e, f a = .error e → e.kind = kind) :
    (∀ e, (x >>= f) = .error e → e.kind = kind) ↔ ∀ e, x = .error e → e.kind = kind := by
  cases x with
  | error e => exact ⟨fun h e' he' => h e' (congrArg _ (Except.error.inj he')),
      fun h e' he' => h e' (congrArg _ (Except.error.inj he'))⟩
  | ok a =>
      refine iff_of_true (hf a) ?_
      rintro e ⟨⟩

theorem valueError_raises (text : String) :
    ∀ e, (valueError text : Except Error α) = .error e → e.kind = .value := by
  intro e he
  obtain rfl := Except.error.inj he
  rfl

end Describes

end Mvision.Library.Python
