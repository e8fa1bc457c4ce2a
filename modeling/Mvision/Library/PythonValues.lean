import Mvision.Library.FirstFault
import Mvision.Library.FloatArith
import Mvision.Library.PythonNumbers

/-!
# Values of Python

The values that `msgpack` and `json` make, and what the built-in functions do with them: a result
or an exception of some class.  `Interpreter` holds the tables of the language and the memory
that there is.
-/

namespace Mvision.Library.Python

open Mvision.Library

/-! ## Values -/

inductive Key where
  | text (name : String)
  | bytes (name : List UInt8)
deriving DecidableEq, Repr

inductive Value where
  | none
  | bool (flag : Bool)
  | int (n : Int)
  | float (x : FloatValue)
  | str (text : String)
  | bytes (data : List UInt8)
  | list (items : List Value)
  | dict (entries : List (Key × Value))
  /-- A named tuple of a type and data. -/
  | ext (type : Int) (data : List UInt8)
  | timestamp (seconds : Int) (nanoseconds : Nat)
deriving Repr

def Key.value : Key → Value
  | .text name => .str name
  | .bytes name => .bytes name

/-! ## Exceptions -/

inductive ErrorKind where
  | value
  | key
  | type
  | attribute
  | overflow
  | memory
  | recursion
  | stopIteration
  /-- A class of the program. -/
  | program (name : String)
deriving DecidableEq, Repr

/-- An exception, with its text where the program raises it itself. -/
structure Error where
  kind : ErrorKind
  text : String := ""
deriving DecidableEq, Repr

/-- `raise ValueError(text)` -/
def valueError {α : Type} (text : String) : Except Error α := .error ⟨.value, text⟩

/-- A check that raises `ValueError(text)`. -/
def require (accepts : Bool) (text : String) : Except Error Unit :=
  if accepts then .ok () else valueError text

/-- An exception of the language. -/
def throwing {α : Type} (kind : ErrorKind) : Except Error α := .error { kind }

/-- `try: … except kinds: raise replacement` -/
def catching {α : Type} (kinds : List ErrorKind) (replacement : Error) (x : Except Error α) :
    Except Error α :=
  match x with
  | .error e => if e.kind ∈ kinds then .error replacement else .error e
  | .ok a => .ok a

/-! ## What the language brings -/

structure Interpreter extends DecimalDigits where
  /-- `str` of a value that is no text. -/
  repr : Value → String
  /-- `str.lower` -/
  lower : String → String
  /-- Whether there is memory for so many bytes. -/
  allocates : Nat → Bool

variable (python : Interpreter)

/-! ## Built-in functions -/

namespace Value

/-- `bool(value)` -/
def truthy : Value → Bool
  | .none => false
  | .bool flag => flag
  | .int n => n != 0
  | .float x => !x.equal (.finite 0)
  | .str text => text != ""
  | .bytes data => !data.isEmpty
  | .list items => !items.isEmpty
  | .dict entries => !entries.isEmpty
  | .ext _ _ => true
  | .timestamp _ _ => true

/-- `value or other` -/
def orElse (value other : Value) : Value := if value.truthy then value else other

/-- `value == n` -/
def equalsInt (n : Int) : Value → Bool
  | .bool flag => (if flag then 1 else 0) == n
  | .int m => m == n
  | .float x => x.equal (.finite n)
  | _ => false

/-- `value == text` -/
def equalsText (text : String) : Value → Bool
  | .str other => other == text
  | _ => false

/-- `isinstance(value, bool)` -/
def isBool : Value → Bool
  | .bool _ => true
  | _ => false

/-- `isinstance(value, (str, int, float))` -/
def isNumeric : Value → Bool
  | .bool _ | .int _ | .float _ | .str _ => true
  | _ => false

def isDict : Value → Bool
  | .dict _ => true
  | _ => false

end Value

/-- The value of a key. -/
def lookup (entries : List (Key × Value)) (name : String) : Option Value :=
  entries.lookup (.text name)

/-- `value.get(name)` -/
def get (value : Value) (name : String) : Except Error Value :=
  match value with
  | .dict entries => .ok ((lookup entries name).getD .none)
  | _ => throwing .attribute

/-- `entries[name]` -/
def entry (entries : List (Key × Value)) (name : String) : Except Error Value :=
  match lookup entries name with
  | some value => .ok value
  | none => throwing .key

/-- `value[name]` -/
def subscript (value : Value) (name : String) : Except Error Value :=
  match value with
  | .dict entries => entry entries name
  | _ => throwing .type

/-- `iter(value)` -/
def items : Value → Except Error (List Value)
  | .str text => .ok (text.toList.map fun c => .str (String.singleton c))
  | .bytes data => .ok (data.map fun byte => .int byte.toNat)
  | .list items => .ok items
  | .dict entries => .ok (entries.map fun entry => entry.1.value)
  | .ext type data => .ok [.int type, .bytes data]
  | _ => throwing .type

/-- What a text is read as, or a `ValueError`. -/
def parsed {α : Type} : Option α → Except Error α
  | some a => .ok a
  | none => throwing .value

def truncated (q : ℚ) : Int := if 0 ≤ q then ⌊q⌋ else ⌈q⌉

/-- `int(value)` -/
def toInt : Value → Except Error Int
  | .bool flag => .ok (if flag then 1 else 0)
  | .int n => .ok n
  | .float (.finite q) => .ok (truncated q)
  | .float (.infinite _) => throwing .overflow
  | .float .nan => throwing .value
  | .str text => parsed (integerOf (python.ascii text))
  | .bytes data => parsed (integerOf (asciiOfBytes data))
  | _ => throwing .type

/-- `float(n)` -/
def floatOfInt (n : Int) : Except Error FloatValue :=
  match binary64.round n with
  | .infinite _ => throwing .overflow
  | x => .ok x

/-- `float(value)` -/
def toFloat : Value → Except Error FloatValue
  | .bool flag => .ok (.finite (if flag then 1 else 0))
  | .int n => floatOfInt n
  | .float x => .ok x
  | .str text => parsed (floatOf (python.ascii text))
  | .bytes data => parsed (floatOf (asciiOfBytes data))
  | _ => throwing .type

/-- `round(x)` -/
def roundToInt : FloatValue → Except Error Int
  | .finite q => .ok (roundHalfEven q)
  | .infinite _ => throwing .overflow
  | .nan => throwing .value

/-- One byte of `bytes(…)`. -/
def byteOf : Value → Except Error UInt8
  | .bool flag => .ok (if flag then 1 else 0)
  | .int n => if 0 ≤ n ∧ n < 256 then .ok (UInt8.ofNat n.toNat) else throwing .value
  | _ => throwing .type

/-- `bytes(n)` -/
def zeroBytes (n : Int) : Except Error (List UInt8) :=
  if n < -2 ^ 63 ∨ 2 ^ 63 ≤ n then throwing .overflow
  else if n < 0 then throwing .value
  else if python.allocates n.toNat then .ok (List.replicate n.toNat 0)
  else throwing .memory

/-- `bytes(value)` -/
def toBytes : Value → Except Error (List UInt8)
  | .bytes data => .ok data
  | .bool flag => zeroBytes python (if flag then 1 else 0)
  | .int n => zeroBytes python n
  | .str _ => throwing .type
  | value => items value >>= List.mapM byteOf

/-- `str(value)` -/
def str : Value → String
  | .str text => text
  | value => python.repr value

/-- `UUID(value)`, whose `replace` is that of a text. -/
def uuid : Value → Except Error Unit
  | .none => throwing .type
  | .str text => if python.uuidAccepts text then .ok () else throwing .value
  | .bytes _ => throwing .type
  | _ => throwing .attribute

/-! ## `msgpack` -/

/-- What `unpackb` raises; each is a `ValueError`. -/
inductive UnpackError where
  | extraData
  | formatError
  | stackError
  | other
deriving DecidableEq, Repr

def UnpackError.error (_ : UnpackError) : Error := { kind := .value }

/-! ## `json` -/

/-- What `loads` raises: a `ValueError`, or a `RecursionError` where the text nests too deep. -/
inductive LoadError where
  | value
  | recursion
deriving DecidableEq, Repr

def LoadError.error : LoadError → Error
  | .value => { kind := .value }
  | .recursion => { kind := .recursion }

end Mvision.Library.Python
