import Mathlib.Data.List.Induction
import Mvision.Library.MessagePack

/-!
# Reading MessagePack

The reader of one value from the front of a byte string.  Every value takes a byte, so
the length of the input bounds how deep its containers nest.
-/

namespace Mvision.Library

/-- A reader of the front of the input: what it reads, and what follows. -/
abbrev Reader (α : Type) := List UInt8 → Option (α × List UInt8)

/-- An unsigned number, its most significant byte first. -/
def bigEndian (bytes : List UInt8) : Nat := bytes.foldl (fun n byte => n * 256 + byte.toNat) 0

/-- A signed number in two's complement. -/
def twosComplement (bytes : List UInt8) : Int :=
  if 2 * bigEndian bytes < 256 ^ bytes.length then bigEndian bytes
  else (bigEndian bytes : Int) - 256 ^ bytes.length

theorem bigEndian_lt (bytes : List UInt8) : bigEndian bytes < 256 ^ bytes.length := by
  induction bytes using List.reverseRecOn with
  | nil => decide
  | append_singleton bytes byte ih =>
      have hbyte := byte.toNat_lt
      have hfold : bigEndian (bytes ++ [byte]) = bigEndian bytes * 256 + byte.toNat := by
        rw [bigEndian, List.foldl_append]
        rfl
      rw [hfold, List.length_append, List.length_singleton, Nat.pow_succ]
      omega

namespace Reader

def bytes (n : Nat) : Reader (List UInt8) := fun input =>
  if n ≤ input.length then some (input.take n, input.drop n) else none

def natural (width : Nat) : Reader Nat := fun input =>
  (bytes width input).map fun (front, rest) => (bigEndian front, rest)

def map {α β : Type} (f : α → β) (one : Reader α) : Reader β := fun input =>
  (one input).map fun (value, rest) => (f value, rest)

def bind {α β : Type} (one : Reader α) (next : α → Reader β) : Reader β := fun input =>
  match one input with
  | some (value, rest) => next value rest
  | none => none

/-- `n` values in a row. -/
def many {α : Type} (one : Reader α) : Nat → Reader (List α)
  | 0 => fun input => some ([], input)
  | n + 1 => one.bind fun value => (many one n).map (value :: ·)

def pair {α : Type} (one : Reader α) : Reader (α × α) :=
  one.bind fun first => one.map fun second => (first, second)

end Reader

/-! ## The first byte -/

/-- The length of a value, in its first byte or in the bytes that follow. -/
inductive LengthCode where
  | fixed (n : Nat)
  | bytes (width : Nat)
deriving Repr

/-- What the first byte of a value says. -/
inductive Head where
  | value (object : Object)
  | unsigned (width : Nat)
  | signed (width : Nat)
  | float (format : FloatFormat) (width exponentBits : Nat)
  | str (length : LengthCode)
  | bin (length : LengthCode)
  | ext (length : LengthCode)
  | array (length : LengthCode)
  | map (length : LengthCode)
deriving Repr

/-- No value starts with the byte `0xc1`. -/
def head (code : Nat) : Option Head :=
  if code < 0x80 then some (.value (.integer code))
  else if code < 0x90 then some (.map (.fixed (code - 0x80)))
  else if code < 0xa0 then some (.array (.fixed (code - 0x90)))
  else if code < 0xc0 then some (.str (.fixed (code - 0xa0)))
  else if 0xe0 ≤ code then some (.value (.integer (code - 0x100)))
  else
    match code with
    | 0xc0 => some (.value .nil)
    | 0xc2 => some (.value (.boolean false))
    | 0xc3 => some (.value (.boolean true))
    | 0xc4 => some (.bin (.bytes 1))
    | 0xc5 => some (.bin (.bytes 2))
    | 0xc6 => some (.bin (.bytes 4))
    | 0xc7 => some (.ext (.bytes 1))
    | 0xc8 => some (.ext (.bytes 2))
    | 0xc9 => some (.ext (.bytes 4))
    | 0xca => some (.float binary32 4 8)
    | 0xcb => some (.float binary64 8 11)
    | 0xcc => some (.unsigned 1)
    | 0xcd => some (.unsigned 2)
    | 0xce => some (.unsigned 4)
    | 0xcf => some (.unsigned 8)
    | 0xd0 => some (.signed 1)
    | 0xd1 => some (.signed 2)
    | 0xd2 => some (.signed 4)
    | 0xd3 => some (.signed 8)
    | 0xd4 => some (.ext (.fixed 1))
    | 0xd5 => some (.ext (.fixed 2))
    | 0xd6 => some (.ext (.fixed 4))
    | 0xd7 => some (.ext (.fixed 8))
    | 0xd8 => some (.ext (.fixed 16))
    | 0xd9 => some (.str (.bytes 1))
    | 0xda => some (.str (.bytes 2))
    | 0xdb => some (.str (.bytes 4))
    | 0xdc => some (.array (.bytes 2))
    | 0xdd => some (.array (.bytes 4))
    | 0xde => some (.map (.bytes 2))
    | 0xdf => some (.map (.bytes 4))
    | _ => none

def LengthCode.read : LengthCode → Reader Nat
  | .fixed n => fun input => some (n, input)
  | .bytes width => Reader.natural width

/-- The rest of a value, with a reader for the values inside. -/
def Head.read (nested : Reader Object) : Head → Reader Object
  | .value object => fun input => some (object, input)
  | .unsigned width => (Reader.natural width).map fun n => .integer (n : Nat)
  | .signed width => (Reader.bytes width).map fun bytes => .integer (twosComplement bytes)
  | .float format width exponentBits =>
      (Reader.natural width).map fun bits => .float (format.ofBits exponentBits bits)
  | .str length => (length.read.bind Reader.bytes).map .str
  | .bin length => (length.read.bind Reader.bytes).map .bin
  | .ext length =>
      length.read.bind fun n => (Reader.bytes 1).bind fun type =>
        (Reader.bytes n).map fun bytes => .ext (twosComplement type) bytes
  | .array length => (length.read.bind nested.many).map .array
  | .map length => (length.read.bind nested.pair.many).map .map

/-- A value whose containers nest less than `depth` deep. -/
def unpackAt : Nat → Reader Object
  | 0, _ => none
  | _ + 1, [] => none
  | depth + 1, code :: rest =>
      match head code.toNat with
      | some first => first.read (unpackAt depth) rest
      | none => none

/-- The first value of the input, and what follows it. -/
def unpack : Reader Object := fun input => unpackAt input.length input

/-! ## What a reader does -/

namespace Reader

variable {α β : Type}

/-- No more is left than there was. -/
def Shrinks (one : Reader α) : Prop :=
  ∀ input value rest, one input = some (value, rest) → rest.length ≤ input.length

/-- Every value that is read has a property. -/
def Reads (P : α → Prop) (one : Reader α) : Prop :=
  ∀ input value rest, one input = some (value, rest) → P value

/-- The readers read the same from an input of at most `n` bytes. -/
def AgreeTo (n : Nat) (one other : Reader α) : Prop :=
  ∀ input, input.length ≤ n → one input = other input

theorem bind_eq_some {one : Reader α} {next : α → Reader β} {input rest : List UInt8} {b : β}
    (h : one.bind next input = some (b, rest)) :
    ∃ a middle, one input = some (a, middle) ∧ next a middle = some (b, rest) := by
  unfold bind at h
  split at h
  · rename_i a middle hone
    exact ⟨a, middle, hone, h⟩
  · cases h

theorem map_eq_some {one : Reader α} {f : α → β} {input rest : List UInt8} {b : β}
    (h : one.map f input = some (b, rest)) : ∃ a, one input = some (a, rest) ∧ f a = b := by
  unfold map at h
  cases hone : one input with
  | none =>
      rw [hone] at h
      cases h
  | some result =>
      rw [hone] at h
      cases h
      exact ⟨result.1, rfl, rfl⟩

theorem bytes_eq_some {n : Nat} {input front rest : List UInt8}
    (h : bytes n input = some (front, rest)) :
    front.length = n ∧ rest.length + n = input.length := by
  unfold bytes at h
  split at h
  · rename_i hn
    cases h
    rw [List.length_take, List.length_drop]
    omega
  · cases h

theorem Shrinks.pure (a : α) : Shrinks (fun input => some (a, input)) := by
  intro input value rest h
  cases h
  exact le_rfl

theorem Shrinks.map {one : Reader α} (h : Shrinks one) (f : α → β) : Shrinks (one.map f) := by
  intro input value rest hmap
  obtain ⟨a, hone, -⟩ := map_eq_some hmap
  exact h _ _ _ hone

theorem Shrinks.bind {one : Reader α} {next : α → Reader β} (h : Shrinks one)
    (hnext : ∀ a, Shrinks (next a)) : Shrinks (one.bind next) := by
  intro input value rest hbind
  obtain ⟨a, middle, hone, hrest⟩ := bind_eq_some hbind
  exact (hnext a _ _ _ hrest).trans (h _ _ _ hone)

theorem shrinks_bytes (n : Nat) : Shrinks (bytes n) := by
  intro input front rest h
  have := (bytes_eq_some h).2
  omega

theorem shrinks_natural (width : Nat) : Shrinks (natural width) := (shrinks_bytes width).map _

theorem Shrinks.many {one : Reader α} (h : Shrinks one) (n : Nat) : Shrinks (one.many n) := by
  induction n with
  | zero => exact .pure []
  | succ n ih => exact h.bind fun value => ih.map _

theorem Shrinks.pair {one : Reader α} (h : Shrinks one) : Shrinks one.pair :=
  h.bind fun _ => h.map _

theorem Reads.map {P : α → Prop} {Q : β → Prop} {one : Reader α} (h : Reads P one) {f : α → β}
    (hf : ∀ a, P a → Q (f a)) : Reads Q (one.map f) := by
  intro input value rest hmap
  obtain ⟨a, hone, rfl⟩ := map_eq_some hmap
  exact hf a (h _ _ _ hone)

theorem Reads.bind {P : α → Prop} {Q : β → Prop} {one : Reader α} {next : α → Reader β}
    (h : Reads P one) (hnext : ∀ a, P a → Reads Q (next a)) : Reads Q (one.bind next) := by
  intro input value rest hbind
  obtain ⟨a, middle, hone, hrest⟩ := bind_eq_some hbind
  exact hnext a (h _ _ _ hone) _ _ _ hrest

theorem reads_bytes (n : Nat) : Reads (fun front => front.length = n) (bytes n) := by
  intro input front rest h
  exact (bytes_eq_some h).1

theorem reads_natural (width : Nat) : Reads (fun n => n < 256 ^ width) (natural width) := by
  refine (reads_bytes width).map fun front hfront => ?_
  rw [← hfront]
  exact bigEndian_lt front

theorem Reads.many {P : α → Prop} {one : Reader α} (h : Reads P one) (n : Nat) :
    Reads (fun values => values.length = n ∧ ∀ value ∈ values, P value) (one.many n) := by
  induction n with
  | zero =>
      intro input values rest hmany
      cases hmany
      exact ⟨rfl, fun _ hvalue => nomatch hvalue⟩
  | succ n ih =>
      refine h.bind fun value hvalue => ih.map ?_
      rintro values ⟨rfl, hvalues⟩
      exact ⟨rfl, List.forall_mem_cons.mpr ⟨hvalue, hvalues⟩⟩

theorem Reads.pair {P : α → Prop} {one : Reader α} (h : Reads P one) :
    Reads (fun entry => P entry.1 ∧ P entry.2) one.pair :=
  h.bind fun _ hfirst => h.map fun _ hsecond => ⟨hfirst, hsecond⟩

section Agree

variable {n : Nat} {one other : Reader α}

theorem AgreeTo.map (h : AgreeTo n one other) (f : α → β) :
    AgreeTo n (one.map f) (other.map f) := by
  intro input hinput
  rw [Reader.map, Reader.map, h input hinput]

theorem AgreeTo.bind {next next' : α → Reader β} (h : AgreeTo n one other) (hone : Shrinks one)
    (hnext : ∀ a, AgreeTo n (next a) (next' a)) : AgreeTo n (one.bind next) (other.bind next') := by
  intro input hinput
  rw [Reader.bind, Reader.bind, ← h input hinput]
  cases hread : one input with
  | none => rfl
  | some result => exact hnext _ _ ((hone _ _ _ hread).trans hinput)

theorem AgreeTo.refl (n : Nat) (one : Reader α) : AgreeTo n one one := fun _ _ => rfl

theorem AgreeTo.many (h : AgreeTo n one other) (hone : Shrinks one) (k : Nat) :
    AgreeTo n (one.many k) (other.many k) := by
  induction k with
  | zero => exact .refl n _
  | succ k ih => exact h.bind hone fun value => ih.map _

theorem AgreeTo.pair (h : AgreeTo n one other) (hone : Shrinks one) :
    AgreeTo n one.pair other.pair :=
  h.bind hone fun _ => h.map _

end Agree

end Reader

/-! ## What is unpacked -/

theorem LengthCode.shrinks_read (length : LengthCode) : length.read.Shrinks := by
  cases length with
  | fixed n => exact .pure n
  | bytes width => exact Reader.shrinks_natural width

section Nested

variable {nested nested' : Reader Object}

theorem Head.shrinks_read (h : nested.Shrinks) (first : Head) : (first.read nested).Shrinks := by
  cases first with
  | value object => exact .pure object
  | unsigned width =>
      rw [Head.read]
      exact (Reader.shrinks_natural width).map _
  | signed width =>
      rw [Head.read]
      exact (Reader.shrinks_bytes width).map _
  | float format width exponentBits =>
      rw [Head.read]
      exact (Reader.shrinks_natural width).map _
  | str length => exact (length.shrinks_read.bind Reader.shrinks_bytes).map _
  | bin length => exact (length.shrinks_read.bind Reader.shrinks_bytes).map _
  | ext length =>
      exact length.shrinks_read.bind fun n =>
        (Reader.shrinks_bytes 1).bind fun type => (Reader.shrinks_bytes n).map _
  | array length => exact (length.shrinks_read.bind h.many).map _
  | map length => exact (length.shrinks_read.bind h.pair.many).map _

theorem Head.agreeTo_read {n : Nat} (h : Reader.AgreeTo n nested nested') (hs : nested.Shrinks)
    (first : Head) : Reader.AgreeTo n (first.read nested) (first.read nested') := by
  cases first with
  | array length =>
      exact ((Reader.AgreeTo.refl n _).bind length.shrinks_read (h.many hs)).map _
  | map length =>
      exact ((Reader.AgreeTo.refl n _).bind length.shrinks_read
        ((h.pair hs).many hs.pair)).map _
  | _ => exact .refl n _

end Nested

theorem shrinks_unpackAt (depth : Nat) : (unpackAt depth).Shrinks := by
  induction depth with
  | zero =>
      intro input value rest h
      cases h
  | succ depth ih =>
      intro input value rest h
      cases input with
      | nil => cases h
      | cons code tail =>
          rw [unpackAt] at h
          split at h
          · rename_i first hfirst
            exact (Head.shrinks_read ih first _ _ _ h).trans (Nat.le_succ _)
          · cases h

/-- More depth than bytes changes nothing. -/
theorem unpackAt_agree {n depth depth' : Nat} (h : n ≤ depth) (h' : n ≤ depth') :
    Reader.AgreeTo n (unpackAt depth) (unpackAt depth') := by
  induction n generalizing depth depth' with
  | zero =>
      intro input hinput
      obtain rfl := List.length_eq_zero_iff.mp (Nat.le_zero.mp hinput)
      cases depth <;> cases depth' <;> rfl
  | succ n ih =>
      obtain ⟨depth, rfl⟩ := Nat.exists_eq_add_of_le' (Nat.le_trans (Nat.le_add_left 1 n) h)
      obtain ⟨depth', rfl⟩ := Nat.exists_eq_add_of_le' (Nat.le_trans (Nat.le_add_left 1 n) h')
      intro input hinput
      cases input with
      | nil => rfl
      | cons code rest =>
          rw [unpackAt, unpackAt]
          cases head code.toNat with
          | none => rfl
          | some first =>
              exact Head.agreeTo_read (ih (Nat.le_of_succ_le_succ h) (Nat.le_of_succ_le_succ h'))
                (shrinks_unpackAt depth) first rest (Nat.le_of_succ_le_succ hinput)

/-- A value is unpacked by its first byte; the values inside are unpacked in the same way. -/
theorem unpack_cons (code : UInt8) (rest : List UInt8) :
    unpack (code :: rest) = (head code.toNat).bind fun first => first.read unpack rest := by
  have hagree : Reader.AgreeTo rest.length (unpackAt rest.length) unpack := by
    intro input hinput
    exact unpackAt_agree hinput le_rfl input le_rfl
  rw [unpack, List.length_cons, unpackAt]
  cases head code.toNat with
  | none => rfl
  | some first => exact Head.agreeTo_read hagree (shrinks_unpackAt _) first rest le_rfl

/-! ### What is unpacked fits the format -/

theorem Object.itemsPackable_iff {items : List Object} :
    itemsPackable items = true ↔ ∀ item ∈ items, item.packable = true := by
  induction items with
  | nil => simp [itemsPackable]
  | cons item items ih => rw [itemsPackable, Bool.and_eq_true, ih, List.forall_mem_cons]

theorem Object.mapEntriesPackable_iff {entries : List (Object × Object)} :
    entriesPackable entries = true ↔
      ∀ entry ∈ entries, entry.1.packable = true ∧ entry.2.packable = true := by
  induction entries with
  | nil => simp [entriesPackable]
  | cons entry entries ih =>
      rw [entriesPackable, Bool.and_eq_true, Bool.and_eq_true, ih, List.forall_mem_cons]

def LengthCode.fits : LengthCode → Bool
  | .fixed n => n < 32
  | .bytes width => width ≤ 4

def Head.fits : Head → Bool
  | .value object => object.packable
  | .unsigned width | .signed width => width ≤ 8
  | .float _ _ _ => true
  | .str length | .bin length | .ext length | .array length | .map length => length.fits

theorem head_fits {code : Nat} (hcode : code < 256) {first : Head} (h : head code = some first) :
    first.fits = true := by
  have hall : ∀ code : Fin 256, (head code).all Head.fits = true := by decide +kernel
  have hfirst := hall ⟨code, hcode⟩
  rw [h] at hfirst
  exact hfirst

theorem LengthCode.reads_read {length : LengthCode} (h : length.fits = true) :
    length.read.Reads (· < 4294967296) := by
  cases length with
  | fixed n =>
      have hn : n < 32 := of_decide_eq_true h
      intro input value rest hread
      cases hread
      omega
  | bytes width =>
      have hwidth : width ≤ 4 := of_decide_eq_true h
      intro input value rest hread
      have hvalue := Reader.reads_natural width _ _ _ hread
      exact lt_of_lt_of_le hvalue (Nat.pow_le_pow_right (by decide) hwidth)

theorem twosComplement_fits {bytes : List UInt8} (h : bytes.length ≤ 8) :
    Object.IntegerFits (twosComplement bytes) := by
  have hlt := bigEndian_lt bytes
  have hpow : 256 ^ bytes.length ≤ 256 ^ 8 := Nat.pow_le_pow_right (by decide) h
  unfold Object.IntegerFits twosComplement
  split
  · omega
  · rename_i hnegative
    have hcast : ((256 ^ bytes.length : Nat) : Int) = 256 ^ bytes.length := Nat.cast_pow 256 _
    rw [← hcast]
    omega

theorem Head.reads_read {nested : Reader Object} (h : nested.Reads (·.packable = true))
    {first : Head} (hfirst : first.fits = true) :
    (first.read nested).Reads (·.packable = true) := by
  have hbytes (length : LengthCode) (hfits : length.fits = true) :
      (length.read.bind Reader.bytes).Reads (·.length < 4294967296) := by
    refine (LengthCode.reads_read hfits).bind fun n hn input front rest hread => ?_
    rw [Reader.reads_bytes n _ _ _ hread]
    exact hn
  cases first with
  | value object =>
      intro input value rest hread
      cases hread
      exact hfirst
  | unsigned width =>
      have hwidth : width ≤ 8 := of_decide_eq_true hfirst
      rw [Head.read]
      refine (Reader.reads_natural width).map fun n hn => ?_
      rw [Object.packable, decide_eq_true_eq]
      have hpow : 256 ^ width ≤ 256 ^ 8 := Nat.pow_le_pow_right (by decide) hwidth
      unfold Object.IntegerFits
      omega
  | signed width =>
      have hwidth : width ≤ 8 := of_decide_eq_true hfirst
      rw [Head.read]
      refine (Reader.reads_bytes width).map fun bytes hlength => ?_
      rw [Object.packable, decide_eq_true_eq]
      apply twosComplement_fits
      rw [hlength]
      exact hwidth
  | float format width exponentBits =>
      rw [Head.read]
      exact (Reader.reads_natural width).map fun _ _ => rfl
  | str length => exact (hbytes length hfirst).map fun _ hlength => decide_eq_true hlength
  | bin length => exact (hbytes length hfirst).map fun _ hlength => decide_eq_true hlength
  | ext length =>
      refine (LengthCode.reads_read hfirst).bind fun n hn =>
        (Reader.reads_bytes 1).bind fun type _ => (Reader.reads_bytes n).map ?_
      rintro bytes rfl
      exact decide_eq_true hn
  | array length =>
      have hitems : (length.read.bind nested.many).Reads (fun items =>
          items.length < 4294967296 ∧ ∀ item ∈ items, item.packable = true) := by
        refine (LengthCode.reads_read hfirst).bind fun n hn input items rest hread => ?_
        obtain ⟨rfl, hitems⟩ := h.many n _ _ _ hread
        exact ⟨hn, hitems⟩
      refine hitems.map fun items hpackable => ?_
      rw [Object.packable, Bool.and_eq_true, decide_eq_true_eq, Object.itemsPackable_iff]
      exact hpackable
  | map length =>
      have hentries : (length.read.bind nested.pair.many).Reads (fun entries =>
          entries.length < 4294967296 ∧
            ∀ entry ∈ entries, entry.1.packable = true ∧ entry.2.packable = true) := by
        refine (LengthCode.reads_read hfirst).bind fun n hn input entries rest hread => ?_
        obtain ⟨rfl, hentries⟩ := h.pair.many n _ _ _ hread
        exact ⟨hn, hentries⟩
      refine hentries.map fun entries hpackable => ?_
      rw [Object.packable, Bool.and_eq_true, decide_eq_true_eq, Object.mapEntriesPackable_iff]
      exact hpackable

theorem unpackAt_packable (depth : Nat) : (unpackAt depth).Reads (·.packable = true) := by
  induction depth with
  | zero =>
      intro input value rest h
      cases h
  | succ depth ih =>
      intro input value rest h
      cases input with
      | nil => cases h
      | cons code tail =>
          rw [unpackAt] at h
          split at h
          · rename_i first hfirst
            exact Head.reads_read ih (head_fits code.toNat_lt hfirst) _ _ _ h
          · cases h

/-- What is unpacked could be packed: its integers have at most 64 bits. -/
theorem unpack_packable {input rest : List UInt8} {value : Object}
    (h : unpack input = some (value, rest)) : value.packable = true :=
  unpackAt_packable _ _ _ _ h

end Mvision.Library
