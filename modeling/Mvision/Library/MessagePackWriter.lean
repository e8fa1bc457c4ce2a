import Mvision.Library.FloatBits
import Mvision.Library.MessagePackReader

/-!
# Writing MessagePack

The shortest encoding of a value, which every packer writes, and that the reader reads it
back.  A container is its header and the values inside, so a packer that writes a header
first has to write as many values as it says.
-/

namespace Mvision.Library

/-- The last `width` bytes of a number. -/
def toBigEndian (width n : Nat) : List UInt8 :=
  match width with
  | 0 => []
  | width + 1 => toBigEndian width (n / 256) ++ [n.toUInt8]

theorem length_toBigEndian (width n : Nat) : (toBigEndian width n).length = width := by
  induction width generalizing n with
  | zero => rfl
  | succ width ih => rw [toBigEndian, List.length_append, ih, List.length_singleton]

theorem bigEndian_toBigEndian {width n : Nat} (h : n < 256 ^ width) :
    bigEndian (toBigEndian width n) = n := by
  induction width generalizing n with
  | zero =>
      rw [Nat.pow_zero] at h
      rw [Nat.lt_one_iff.mp h]
      rfl
  | succ width ih =>
      rw [Nat.pow_succ] at h
      have hhigh : bigEndian (toBigEndian width (n / 256)) = n / 256 := ih (by omega)
      have hlow : n.toUInt8.toNat = n % 256 := UInt8.toNat_ofNat'
      rw [toBigEndian, bigEndian, List.foldl_append]
      show bigEndian (toBigEndian width (n / 256)) * 256 + n.toUInt8.toNat = n
      rw [hhigh, hlow]
      omega

/-! ## Headers and atoms -/

def packInteger (n : Int) : List UInt8 :=
  if 0 ≤ n then
    if n < 128 then [n.toNat.toUInt8]
    else if n < 256 then 0xcc :: toBigEndian 1 n.toNat
    else if n < 65536 then 0xcd :: toBigEndian 2 n.toNat
    else if n < 4294967296 then 0xce :: toBigEndian 4 n.toNat
    else 0xcf :: toBigEndian 8 n.toNat
  else if -32 ≤ n then [(n + 256).toNat.toUInt8]
  else if -128 ≤ n then 0xd0 :: toBigEndian 1 (n + 256).toNat
  else if -32768 ≤ n then 0xd1 :: toBigEndian 2 (n + 65536).toNat
  else if -2147483648 ≤ n then 0xd2 :: toBigEndian 4 (n + 4294967296).toNat
  else 0xd3 :: toBigEndian 8 (n + 18446744073709551616).toNat

/-- The header of a text with `n` bytes. -/
def packStr (n : Nat) : List UInt8 :=
  if n < 32 then [(0xa0 + n).toUInt8]
  else if n < 256 then 0xd9 :: toBigEndian 1 n
  else if n < 65536 then 0xda :: toBigEndian 2 n
  else 0xdb :: toBigEndian 4 n

def packBin (n : Nat) : List UInt8 :=
  if n < 256 then 0xc4 :: toBigEndian 1 n
  else if n < 65536 then 0xc5 :: toBigEndian 2 n
  else 0xc6 :: toBigEndian 4 n

def packArray (n : Nat) : List UInt8 :=
  if n < 16 then [(0x90 + n).toUInt8]
  else if n < 65536 then 0xdc :: toBigEndian 2 n
  else 0xdd :: toBigEndian 4 n

def packMap (n : Nat) : List UInt8 :=
  if n < 16 then [(0x80 + n).toUInt8]
  else if n < 65536 then 0xde :: toBigEndian 2 n
  else 0xdf :: toBigEndian 4 n

/-- A text, as its header and its bytes. -/
def packText (bytes : List UInt8) : List UInt8 := packStr bytes.length ++ bytes

def packFloat32 (x : FloatValue) : List UInt8 := 0xca :: toBigEndian 4 (binary32.toBits 8 x)

def packFloat64 (x : FloatValue) : List UInt8 := 0xcb :: toBigEndian 8 (binary64.toBits 11 x)

def packExt (type : Int) (n : Nat) : List UInt8 :=
  let head : List UInt8 :=
    if n = 1 then [0xd4] else if n = 2 then [0xd5] else if n = 4 then [0xd6]
    else if n = 8 then [0xd7] else if n = 16 then [0xd8]
    else if n < 256 then 0xc7 :: toBigEndian 1 n
    else if n < 65536 then 0xc8 :: toBigEndian 2 n
    else 0xc9 :: toBigEndian 4 n
  head ++ [(type % 256).toNat.toUInt8]

mutual
def Object.pack : Object → List UInt8
  | .nil => [0xc0]
  | .boolean flag => [if flag then 0xc3 else 0xc2]
  | .integer n => packInteger n
  | .float x => packFloat64 x
  | .str bytes => packText bytes
  | .bin bytes => packBin bytes.length ++ bytes
  | .array items => packArray items.length ++ packItems items
  | .map entries => packMap entries.length ++ packEntries entries
  | .ext type bytes => packExt type bytes.length ++ bytes
def Object.packItems : List Object → List UInt8
  | [] => []
  | item :: items => item.pack ++ packItems items
def Object.packEntries : List (Object × Object) → List UInt8
  | [] => []
  | (key, value) :: entries => key.pack ++ (value.pack ++ packEntries entries)
end

section Reading

variable {n : Nat} {rest : List UInt8}

theorem bytes_append {front : List UInt8} (h : front.length = n) :
    Reader.bytes n (front ++ rest) = some (front, rest) := by
  subst h
  unfold Reader.bytes
  rw [if_pos (by rw [List.length_append]; exact Nat.le_add_right _ _), List.take_left,
    List.drop_left]

theorem natural_toBigEndian {width : Nat} (h : n < 256 ^ width) :
    Reader.natural width (toBigEndian width n ++ rest) = some (n, rest) := by
  unfold Reader.natural
  rw [bytes_append (length_toBigEndian width n), Option.map_some]
  dsimp only
  rw [bigEndian_toBigEndian h]

theorem toNat_toUInt8 (h : n < 256) : n.toUInt8.toNat = n :=
  UInt8.toNat_ofNat'.trans (Nat.mod_eq_of_lt h)

theorem unpack_head {code : UInt8} {first : Head} (h : head code.toNat = some first)
    (input : List UInt8) : unpack (code :: input) = first.read unpack input := by
  rw [unpack_cons, h]
  rfl

section Length

variable {β : Type} (first : LengthCode → Head) {one : Nat → Reader β} {f : β → Object}

/-- A length in the first byte. -/
theorem unpack_fixed {code : Nat} (hlt : code < 256) (hcode : head code = some (first (.fixed n)))
    (hread : ∀ length, (first length).read unpack = (length.read.bind one).map f) :
    unpack ([code.toUInt8] ++ rest) = (one n).map f rest := by
  rw [← toNat_toUInt8 hlt] at hcode
  rw [List.singleton_append, unpack_head hcode, hread]
  rfl

/-- A length in the bytes that follow. -/
theorem unpack_width {code : UInt8} {width : Nat}
    (hcode : head code.toNat = some (first (.bytes width)))
    (hread : ∀ length, (first length).read unpack = (length.read.bind one).map f)
    (hn : n < 256 ^ width) : unpack (code :: toBigEndian width n ++ rest) = (one n).map f rest := by
  rw [List.cons_append, unpack_head hcode, hread]
  unfold Reader.map Reader.bind
  rw [show (LengthCode.bytes width).read = Reader.natural width from rfl, natural_toBigEndian hn]

end Length

theorem unpack_packStr (h : n < 4294967296) :
    unpack (packStr n ++ rest) = (Reader.bytes n).map .str rest := by
  unfold packStr
  split
  · refine unpack_fixed .str (by omega) ?_ fun _ => rfl
    unfold head
    rw [if_neg (by omega), if_neg (by omega), if_neg (by omega), if_pos (by omega),
      Nat.add_sub_cancel_left]
  split
  · exact unpack_width .str rfl (fun _ => rfl) (by omega)
  split
  · exact unpack_width .str rfl (fun _ => rfl) (by omega)
  · exact unpack_width .str rfl (fun _ => rfl) (by omega)

theorem unpack_packBin (h : n < 4294967296) :
    unpack (packBin n ++ rest) = (Reader.bytes n).map .bin rest := by
  unfold packBin
  split
  · exact unpack_width .bin rfl (fun _ => rfl) (by omega)
  split
  · exact unpack_width .bin rfl (fun _ => rfl) (by omega)
  · exact unpack_width .bin rfl (fun _ => rfl) (by omega)

theorem unpack_packArray (h : n < 4294967296) :
    unpack (packArray n ++ rest) = (unpack.many n).map .array rest := by
  unfold packArray
  split
  · refine unpack_fixed .array (by omega) ?_ fun _ => rfl
    unfold head
    rw [if_neg (by omega), if_neg (by omega), if_pos (by omega), Nat.add_sub_cancel_left]
  split
  · exact unpack_width .array rfl (fun _ => rfl) (by omega)
  · exact unpack_width .array rfl (fun _ => rfl) (by omega)

theorem unpack_packMap (h : n < 4294967296) :
    unpack (packMap n ++ rest) = (unpack.pair.many n).map .map rest := by
  unfold packMap
  split
  · refine unpack_fixed .map (by omega) ?_ fun _ => rfl
    unfold head
    rw [if_neg (by omega), if_pos (by omega), Nat.add_sub_cancel_left]
  split
  · exact unpack_width .map rfl (fun _ => rfl) (by omega)
  · exact unpack_width .map rfl (fun _ => rfl) (by omega)

/-! ## Integers -/

theorem unpack_unsigned {code : UInt8} {width : Nat} (hcode : head code.toNat = some (.unsigned width))
    (hn : n < 256 ^ width) :
    unpack (code :: toBigEndian width n ++ rest) = some (.integer n, rest) := by
  rw [List.cons_append, unpack_head hcode]
  unfold Head.read Reader.map
  dsimp only
  rw [natural_toBigEndian hn]
  rfl

theorem unpack_signed {code : UInt8} {width : Nat} {k : Int}
    (hcode : head code.toNat = some (.signed width)) (hn : n < 256 ^ width)
    (hlarge : 256 ^ width ≤ 2 * n) (hk : (n : Int) = k + 256 ^ width) :
    unpack (code :: toBigEndian width n ++ rest) = some (.integer k, rest) := by
  rw [List.cons_append, unpack_head hcode]
  unfold Head.read Reader.map
  dsimp only
  rw [bytes_append (length_toBigEndian width n), Option.map_some]
  dsimp only
  rw [twosComplement, bigEndian_toBigEndian hn, length_toBigEndian, if_neg (by omega), hk,
    Int.add_sub_cancel]

theorem unpack_packInteger {k : Int} (h : Object.IntegerFits k) :
    unpack (packInteger k ++ rest) = some (.integer k, rest) := by
  unfold Object.IntegerFits at h
  unfold packInteger
  split
  · rename_i hpositive
    obtain ⟨m, rfl⟩ := Int.eq_ofNat_of_zero_le hpositive
    rw [Int.toNat_natCast]
    split
    · have hm : m < 128 := by omega
      have hcode : head m.toUInt8.toNat = some (.value (.integer m)) := by
        rw [toNat_toUInt8 (by omega)]
        unfold head
        rw [if_pos hm]
      rw [List.singleton_append, unpack_head hcode]
      rfl
    split
    · exact unpack_unsigned rfl (by omega)
    split
    · exact unpack_unsigned rfl (by omega)
    split
    · exact unpack_unsigned rfl (by omega)
    · exact unpack_unsigned rfl (by omega)
  split
  · have hcode : head (k + 256).toNat.toUInt8.toNat = some (.value (.integer k)) := by
      rw [toNat_toUInt8 (by omega)]
      unfold head
      rw [if_neg (by omega), if_neg (by omega), if_neg (by omega), if_neg (by omega),
        if_pos (by omega), Int.toNat_of_nonneg (by omega)]
      congr 3
      omega
    rw [List.singleton_append, unpack_head hcode]
    rfl
  split
  · exact unpack_signed rfl (by omega) (by omega) (by omega)
  split
  · exact unpack_signed rfl (by omega) (by omega) (by omega)
  split
  · exact unpack_signed rfl (by omega) (by omega) (by omega)
  · exact unpack_signed rfl (by omega) (by omega) (by omega)

end Reading

/-! ## What is read back -/

/-- The bytes are an encoding of the value, whatever follows them. -/
def Encodes (bytes : List UInt8) (value : Object) : Prop :=
  ∀ rest, unpack (bytes ++ rest) = some (value, rest)

theorem encodes_nil : Encodes [0xc0] .nil := fun _ => rfl

theorem encodes_boolean (flag : Bool) : Encodes [if flag then 0xc3 else 0xc2] (.boolean flag) := by
  cases flag <;> exact fun _ => rfl

theorem encodes_integer {n : Int} (h : Object.IntegerFits n) :
    Encodes (packInteger n) (.integer n) :=
  fun _ => unpack_packInteger h

theorem encodes_text {bytes : List UInt8} (h : bytes.length < 4294967296) :
    Encodes (packText bytes) (.str bytes) := by
  intro rest
  rw [packText, List.append_assoc, unpack_packStr h, Reader.map, bytes_append rfl]
  rfl

theorem encodes_bin {bytes : List UInt8} (h : bytes.length < 4294967296) :
    Encodes (packBin bytes.length ++ bytes) (.bin bytes) := by
  intro rest
  rw [List.append_assoc, unpack_packBin h, Reader.map, bytes_append rfl]
  rfl

theorem encodes_float {code : UInt8} {format : FloatFormat} {width exponentBits : Nat}
    (hcode : head code.toNat = some (.float format width exponentBits))
    (hprecision : 2 ≤ format.precision)
    (hwidth : 2 ^ (format.precision + exponentBits) = 256 ^ width) {x : FloatValue}
    (hx : format.Has exponentBits x) :
    Encodes (code :: toBigEndian width (format.toBits exponentBits x)) (.float x) := by
  intro rest
  have hlt := FloatFormat.toBits_lt hprecision hx
  rw [hwidth] at hlt
  rw [List.cons_append, unpack_head hcode]
  unfold Head.read Reader.map
  dsimp only
  rw [natural_toBigEndian hlt, Option.map_some]
  dsimp only
  rw [FloatFormat.ofBits_toBits hprecision hx]

theorem encodes_float32 {x : FloatValue} (hx : binary32.Has 8 x) :
    Encodes (packFloat32 x) (.float x) :=
  encodes_float rfl (by decide) (by decide) hx

theorem encodes_float64 {x : FloatValue} (hx : binary64.Has 11 x) :
    Encodes (packFloat64 x) (.float x) :=
  encodes_float rfl (by decide) (by decide) hx

/-- An array, from the encodings of its items. -/
theorem encodes_array {chunks : List (List UInt8)} {items : List Object}
    (h : List.Forall₂ Encodes chunks items) (hlength : items.length < 4294967296) :
    Encodes (packArray items.length ++ chunks.flatten) (.array items) := by
  intro rest
  rw [List.append_assoc, unpack_packArray hlength]
  have hmany : unpack.many items.length (chunks.flatten ++ rest) = some (items, rest) := by
    clear hlength
    induction h with
    | nil => rfl
    | cons hfirst _ ih =>
        rw [List.length_cons, Reader.many, Reader.bind, List.flatten_cons, List.append_assoc,
          hfirst]
        dsimp only
        rw [Reader.map, ih]
        rfl
  rw [Reader.map, hmany]
  rfl

theorem encodes_pair {chunk : List UInt8 × List UInt8} {entry : Object × Object}
    (hkey : Encodes chunk.1 entry.1) (hvalue : Encodes chunk.2 entry.2) (rest : List UInt8) :
    unpack.pair (chunk.1 ++ chunk.2 ++ rest) = some (entry, rest) := by
  rw [Reader.pair, Reader.bind, List.append_assoc, hkey]
  dsimp only
  rw [Reader.map, hvalue]
  rfl

/-- A map, from the encodings of its keys and values. -/
theorem encodes_map {chunks : List (List UInt8 × List UInt8)} {entries : List (Object × Object)}
    (h : List.Forall₂ (fun chunk entry => Encodes chunk.1 entry.1 ∧ Encodes chunk.2 entry.2)
      chunks entries) (hlength : entries.length < 4294967296) :
    Encodes (packMap entries.length ++ (chunks.map fun chunk => chunk.1 ++ chunk.2).flatten)
      (.map entries) := by
  intro rest
  rw [List.append_assoc, unpack_packMap hlength]
  have hmany : unpack.pair.many entries.length
      ((chunks.map fun chunk => chunk.1 ++ chunk.2).flatten ++ rest) = some (entries, rest) := by
    clear hlength
    induction h with
    | nil => rfl
    | cons hfirst _ ih =>
        rw [List.length_cons, Reader.many, Reader.bind, List.map_cons, List.flatten_cons,
          List.append_assoc, encodes_pair hfirst.1 hfirst.2]
        dsimp only
        rw [Reader.map, ih]
        rfl
  rw [Reader.map, hmany]
  rfl

theorem twosComplement_singleton {type : Int} (hleast : -128 ≤ type) (hmost : type < 128) :
    twosComplement [(type % 256).toNat.toUInt8] = type := by
  have hbyte : (type % 256).toNat.toUInt8.toNat = (type % 256).toNat := toNat_toUInt8 (by omega)
  have hvalue : bigEndian [(type % 256).toNat.toUInt8] = (type % 256).toNat := by
    show 0 * 256 + (type % 256).toNat.toUInt8.toNat = _
    rw [hbyte, Nat.zero_mul, Nat.zero_add]
  rw [twosComplement, hvalue, List.length_singleton, pow_one, pow_one]
  split <;> omega

theorem encodes_ext {type : Int} {bytes : List UInt8} (hleast : -128 ≤ type) (hmost : type < 128)
    (hlength : bytes.length < 4294967296) :
    Encodes (packExt type bytes.length ++ bytes) (.ext type bytes) := by
  intro rest
  -- the type and the data follow the length in all encodings
  have hdata : ((Reader.bytes 1).bind fun type => (Reader.bytes bytes.length).map fun bytes =>
      Object.ext (twosComplement type) bytes) ([(type % 256).toNat.toUInt8] ++ (bytes ++ rest)) =
      some (.ext type bytes, rest) := by
    rw [Reader.bind, bytes_append (List.length_singleton)]
    dsimp only
    rw [Reader.map, bytes_append rfl, Option.map_some]
    dsimp only
    rw [twosComplement_singleton hleast hmost]
  have hfixed {n : Nat} (hn : bytes.length = n) {code : UInt8}
      (hcode : head code.toNat = some (.ext (.fixed n))) :
      unpack ([code] ++ ([(type % 256).toNat.toUInt8] ++ (bytes ++ rest))) =
        some (.ext type bytes, rest) := by
    subst hn
    rw [List.singleton_append, unpack_head hcode]
    exact hdata
  have hwidth {width : Nat} (hn : bytes.length < 256 ^ width) {code : UInt8}
      (hcode : head code.toNat = some (.ext (.bytes width))) :
      unpack (code :: toBigEndian width bytes.length ++
        ([(type % 256).toNat.toUInt8] ++ (bytes ++ rest))) = some (.ext type bytes, rest) := by
    rw [List.cons_append, unpack_head hcode, Head.read, Reader.bind, LengthCode.read,
      natural_toBigEndian hn]
    exact hdata
  unfold packExt
  rw [List.append_assoc, List.append_assoc]
  split
  · rename_i hn
    exact hfixed hn rfl
  split
  · rename_i hn
    exact hfixed hn rfl
  split
  · rename_i hn
    exact hfixed hn rfl
  split
  · rename_i hn
    exact hfixed hn rfl
  split
  · rename_i hn
    exact hfixed hn rfl
  split
  · exact hwidth (by omega) rfl
  split
  · exact hwidth (by omega) rfl
  · exact hwidth (by omega) rfl

namespace Object

mutual
/-- The floats are doubles, and the types of extensions bytes. -/
def Exact : Object → Prop
  | .float x => binary64.Has 11 x
  | .ext type _ => -128 ≤ type ∧ type < 128
  | .array items => ItemsExact items
  | .map entries => EntriesExact entries
  | _ => True
def ItemsExact : List Object → Prop
  | [] => True
  | item :: items => item.Exact ∧ ItemsExact items
def EntriesExact : List (Object × Object) → Prop
  | [] => True
  | (key, value) :: entries => key.Exact ∧ value.Exact ∧ EntriesExact entries
end

theorem packItems_eq (items : List Object) : packItems items = (items.map pack).flatten := by
  induction items with
  | nil => rfl
  | cons item items ih => rw [packItems, ih, List.map_cons, List.flatten_cons]

theorem packEntries_eq (entries : List (Object × Object)) : packEntries entries =
    ((entries.map fun entry => (entry.1.pack, entry.2.pack)).map fun chunk =>
      chunk.1 ++ chunk.2).flatten := by
  induction entries with
  | nil => rfl
  | cons entry entries ih =>
      obtain ⟨key, value⟩ := entry
      rw [packEntries, ih, List.map_cons, List.map_cons, List.flatten_cons, List.append_assoc]

mutual
/-- A value is read back from its shortest encoding. -/
theorem encodes_pack : ∀ {value : Object}, value.packable = true → value.Exact →
    Encodes value.pack value
  | .nil, _, _ => encodes_nil
  | .boolean flag, _, _ => encodes_boolean flag
  | .integer _, hpack, _ => encodes_integer (of_decide_eq_true hpack)
  | .float _, _, hexact => encodes_float64 hexact
  | .str _, hpack, _ => encodes_text (of_decide_eq_true hpack)
  | .bin _, hpack, _ => encodes_bin (of_decide_eq_true hpack)
  | .ext _ _, hpack, hexact => encodes_ext hexact.1 hexact.2 (of_decide_eq_true hpack)
  | .array items, hpack, hexact => by
      rw [packable, Bool.and_eq_true] at hpack
      rw [pack, packItems_eq]
      exact encodes_array (encodes_packItems hpack.2 hexact) (of_decide_eq_true hpack.1)
  | .map entries, hpack, hexact => by
      rw [packable, Bool.and_eq_true] at hpack
      rw [pack, packEntries_eq]
      exact encodes_map (encodes_packEntries hpack.2 hexact) (of_decide_eq_true hpack.1)
theorem encodes_packItems : ∀ {items : List Object}, itemsPackable items = true →
    ItemsExact items → List.Forall₂ Encodes (items.map pack) items
  | [], _, _ => .nil
  | _ :: _, hpack, hexact => by
      rw [itemsPackable, Bool.and_eq_true] at hpack
      exact .cons (encodes_pack hpack.1 hexact.1) (encodes_packItems hpack.2 hexact.2)
theorem encodes_packEntries : ∀ {entries : List (Object × Object)},
    entriesPackable entries = true → EntriesExact entries →
    List.Forall₂ (fun chunk entry => Encodes chunk.1 entry.1 ∧ Encodes chunk.2 entry.2)
      (entries.map fun entry => (entry.1.pack, entry.2.pack)) entries
  | [], _, _ => .nil
  | _ :: _, hpack, hexact => by
      rw [entriesPackable, Bool.and_eq_true, Bool.and_eq_true] at hpack
      exact .cons ⟨encodes_pack hpack.1.1 hexact.1, encodes_pack hpack.1.2 hexact.2.1⟩
        (encodes_packEntries hpack.2 hexact.2.2)
end

end Object

/-! ## The size of an encoding -/

theorem length_packInteger (n : Int) : (packInteger n).length = Object.integerSize n := by
  unfold packInteger Object.integerSize
  split_ifs <;> first | omega | simp only [List.length_cons, List.length_nil, length_toBigEndian]

theorem length_packStr (n : Nat) : (packStr n).length = Object.strHeader n := by
  unfold packStr Object.strHeader
  split_ifs <;> simp only [List.length_cons, List.length_nil, length_toBigEndian]

theorem length_packBin (n : Nat) : (packBin n).length = Object.binHeader n := by
  unfold packBin Object.binHeader
  split_ifs <;> simp only [List.length_cons, length_toBigEndian]

theorem length_packArray (n : Nat) : (packArray n).length = Object.containerHeader n := by
  unfold packArray Object.containerHeader
  split_ifs <;> simp only [List.length_cons, List.length_nil, length_toBigEndian]

theorem length_packMap (n : Nat) : (packMap n).length = Object.containerHeader n := by
  unfold packMap Object.containerHeader
  split_ifs <;> simp only [List.length_cons, List.length_nil, length_toBigEndian]

theorem length_packExt (type : Int) (n : Nat) : (packExt type n).length = Object.extHeader n := by
  unfold packExt Object.extHeader
  simp only [List.length_append, List.length_singleton, List.mem_cons, List.not_mem_nil, or_false]
  split_ifs <;> first | omega | simp only [List.length_cons, List.length_nil, length_toBigEndian]

namespace Object

mutual
/-- `packedSize` counts the bytes. -/
theorem length_pack : ∀ value : Object, value.pack.length = value.packedSize
  | .nil => rfl
  | .boolean _ => rfl
  | .integer n => length_packInteger n
  | .float _ => congrArg Nat.succ (length_toBigEndian 8 _)
  | .str bytes => by
      rw [pack, packText, List.length_append, length_packStr, packedSize]
  | .bin bytes => by
      rw [pack, List.length_append, length_packBin, packedSize]
  | .array items => by
      rw [pack, List.length_append, length_packArray, length_packItems items, packedSize]
  | .map entries => by
      rw [pack, List.length_append, length_packMap, length_packEntries entries, packedSize]
  | .ext type bytes => by
      rw [pack, List.length_append, length_packExt, packedSize]
theorem length_packItems : ∀ items : List Object, (packItems items).length = itemsSize items
  | [] => rfl
  | item :: items => by
      rw [packItems, List.length_append, length_pack item, length_packItems items, itemsSize]
theorem length_packEntries : ∀ entries : List (Object × Object),
    (packEntries entries).length = entriesSize entries
  | [] => rfl
  | (key, value) :: entries => by
      rw [packEntries, List.length_append, List.length_append, length_pack key, length_pack value,
        length_packEntries entries, entriesSize, Nat.add_assoc]
end

end Object

end Mvision.Library
