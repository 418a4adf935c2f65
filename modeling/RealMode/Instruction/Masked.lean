import RealMode.Instruction.Vector

/-!
# Masked vector operations

Opcode `62` opens a prefix of four bytes. Beside what the shorter vector prefixes say, it names a
mask register, chooses between merging and zeroing of masked elements, has 512-bit operands, and
has one bit that repeats a number in memory or, between registers, sets the rounding. An
operation allows some of these.
-/

namespace RealMode

/-- What a `62` prefix says. -/
structure MaskedPrefix where
  map : Nat
  selector : Mandatory
  wide : Bool
  /-- The further register, by its code; zero where none is named. -/
  further : Nat
  /-- The mask register; zero is no mask. -/
  mask : Nat
  zeroing : Bool
  /-- 128, 256 and 512 bits by zero, one and two; there is no three. -/
  length : Nat
  /-- A repeated number in memory, or a rounding between registers. -/
  embedded : Bool
deriving DecidableEq, Inhabited

/-- From the three bytes behind `62`. Bits that are fixed outside 64-bit code are checked. -/
def MaskedPrefix.ofBytes? (a b c : UInt8) : Option MaskedPrefix :=
  let v : MaskedPrefix :=
    { map := a.toNat % 8
      selector := .ofCode (b.toNat % 4)
      wide := b.toNat / 128 == 1
      further := 15 - b.toNat / 8 % 16
      mask := c.toNat % 8
      zeroing := c.toNat / 128 == 1
      length := c.toNat / 32 % 4
      embedded := c.toNat / 16 % 2 == 1 }
  let reserved := a.toNat / 8 % 2 == 0 && b.toNat / 4 % 2 == 1 && c.toNat / 8 % 2 == 1
  if reserved && (!v.zeroing || v.mask != 0) && (v.length ≤ 2 || v.embedded) then some v else none

inductive MaskedLength where
  | any
  | only128
  | from256
  | only512
  /-- One number; the length does not matter. -/
  | scalar
deriving DecidableEq, Inhabited

inductive Masking where
  | none
  | merge
  | zero
deriving DecidableEq, Inhabited

/-- A vector of indices in the address. -/
inductive Indexed where
  | none
  | load
  | store
deriving DecidableEq, Inhabited

structure MaskedOperation where
  selector : Mandatory
  opcode : Nat
  name : WidthName
  length : MaskedLength := .any
  places : Places := .any
  /-- Whether the further register is an operand. -/
  ternary : Bool := true
  masking : Masking := .zero
  /-- The place is the destination. -/
  stores : Bool := false
  /-- A number in memory may be repeated. -/
  repeats : Bool := false
  /-- Between registers a rounding may be set. -/
  rounds : Bool := false
  reg : Option Nat := none
  constant : Nat := 0
  indexed : Indexed := .none
  /-- The destination is none of the sources. -/
  apart : Bool := false
deriving DecidableEq, Inhabited

namespace MaskedOperation

variable (e : MaskedOperation)

def unary : MaskedOperation := { e with ternary := false }

def only128 : MaskedOperation := { e with length := .only128 }

def from256 : MaskedOperation := { e with length := .from256 }

def only512 : MaskedOperation := { e with length := .only512 }

def scalar : MaskedOperation := { e with length := .scalar }

def inMemory : MaskedOperation := { e with places := .memory }

def inRegister : MaskedOperation := { e with places := .register }

def unmasked : MaskedOperation := { e with masking := .none }

/-- The destination is a mask register, or memory of one number. -/
def merging : MaskedOperation := { e with masking := .merge }

def storing : MaskedOperation := { e with stores := true, ternary := false }

def repeating : MaskedOperation := { e with repeats := true }

def rounding : MaskedOperation := { e with rounds := true }

def withBytes (n : Nat) : MaskedOperation := { e with constant := n }

def inGroup (reg : Nat) : MaskedOperation := { e with reg := some reg }

def setApart : MaskedOperation := { e with apart := true }

/-- Loads from, or stores to, the places that a vector of indices selects. -/
def through (indexed : Indexed) : MaskedOperation :=
  { e with indexed, places := .memory, ternary := false, masking := .merge }

/-- A rounding takes the place of the length, which is then 512 bits. -/
def fitsLength (v : MaskedPrefix) (o : ModRM) : Bool :=
  let length := if v.embedded && e.rounds && !o.isMemory then 2 else v.length
  match e.length with
  | .any => length ≤ 2
  | .only128 => length == 0
  | .from256 => length == 1 || length == 2
  | .only512 => length == 2
  | .scalar => true

def fitsMask (v : MaskedPrefix) (o : ModRM) : Bool :=
  match e.masking with
  | .none => v.mask == 0
  | .merge => !v.zeroing
  | .zero => !(v.zeroing && e.stores && o.isMemory)

def fitsEmbedded (v : MaskedPrefix) (o : ModRM) : Bool :=
  !v.embedded || if o.isMemory then e.repeats else e.rounds

def fitsIndices (v : MaskedPrefix) (o : ModRM) : Bool :=
  match e.indexed with
  | .none => true
  | .load => v.mask != 0 && o.indexCode.any (· != o.reg)
  | .store => v.mask != 0 && o.indexCode.isSome

/-- In the narrow modes only the three low bits of the further register count. -/
def fitsSources (v : MaskedPrefix) (o : ModRM) : Bool :=
  !e.apart || o.reg != v.further % 8 && o.rm?.all (· != o.reg)

def admits (v : MaskedPrefix) (o : ModRM) : Bool :=
  e.selector == v.selector && e.places.admit o && e.reg.all (· == o.reg)
    && (e.ternary || v.further == 0) && e.fitsLength v o && e.fitsMask v o && e.fitsEmbedded v o
    && e.fitsIndices v o && e.fitsSources v o

def select (table : List MaskedOperation) (v : MaskedPrefix) (opcode : UInt8) (o : ModRM) :
    Option (MaskedOperation × String) :=
  table.findSome? fun e =>
    if e.opcode == opcode.toNat && e.admits v o then (e.name.name? v.wide).map (e, ·) else none

/-- Reads the operand byte and what follows it. -/
def read (table : List MaskedOperation) (p : Prefixes) (v : MaskedPrefix) (opcode : UInt8) :
    ByteReader Operation := do
  let o ← ModRM.read p
  match select table v opcode o with
  | none => .fail
  | some (e, name) =>
    ByteReader.skip e.constant
    return .unsupported name

def same (selector : Mandatory) (opcode : Nat) (name : String) : MaskedOperation :=
  { selector, opcode, name := .same name }

def narrow (selector : Mandatory) (opcode : Nat) (name : String) : MaskedOperation :=
  { selector, opcode, name := .narrow name }

def wide (selector : Mandatory) (opcode : Nat) (name : String) : MaskedOperation :=
  { selector, opcode, name := .wide name }

def either (selector : Mandatory) (opcode : Nat) (narrowName wideName : String) : MaskedOperation :=
  { selector, opcode, name := .both narrowName wideName }

/-- Double words and quadruple words. -/
def integers (opcode : Nat) (stem : String) : MaskedOperation :=
  either .p66 opcode (stem ++ "d") (stem ++ "q")

/-- Single and double precision by the width bit, packed. -/
def floats (opcode : Nat) (stem : String) : MaskedOperation :=
  either .p66 opcode (stem ++ "ps") (stem ++ "pd")

/-- Single and double precision by the width bit, one number. -/
def scalars (opcode : Nat) (stem : String) : MaskedOperation :=
  (either .p66 opcode (stem ++ "ss") (stem ++ "sd")).scalar

/-- Packed single and double precision, each with its own selecting prefix. -/
def packed (opcode : Nat) (stem : String) : List MaskedOperation :=
  [narrow .plain opcode (stem ++ "ps"), wide .p66 opcode (stem ++ "pd")]

/-- Single numbers of single and double precision, each with its own selecting prefix. -/
def singles (opcode : Nat) (stem : String) : List MaskedOperation :=
  [(narrow .pF3 opcode (stem ++ "ss")).scalar, (wide .pF2 opcode (stem ++ "sd")).scalar]

/-- Names for consecutive opcodes from `first` on, whatever the width bit. -/
def run (selector : Mandatory) (first : Nat) (names : List String) : List MaskedOperation :=
  names.zipIdx.map fun (name, i) => same selector (first + i) name

end MaskedOperation

end RealMode
