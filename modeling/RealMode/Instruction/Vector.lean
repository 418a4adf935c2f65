import RealMode.Instruction.Named

/-!
# Vector prefixes

Opcodes `C4`, `C5`, `62` and `8F` open a prefix of two to four bytes where the byte behind
them names registers. It holds the opcode map, the selecting prefix, a width bit, the vector
length and the number of a further register. Apart from segment and address size, no other
prefix may stand in front of it.
-/

namespace RealMode

/-- Whether a vector prefix may follow. -/
def Prefixes.allowVector (p : Prefixes) : Bool := p.mandatory == .plain

/-- Names of an operation by the width bit. -/
inductive WidthName where
  /-- The bit does not matter. -/
  | same (name : String)
  | narrow (name : String)
  | wide (name : String)
  | both (narrow wide : String)
deriving DecidableEq, Inhabited

def WidthName.name? : WidthName → Bool → Option String
  | same name, _ => some name
  | narrow name, false => some name
  | wide name, true => some name
  | both name _, false => some name
  | both _ name, true => some name
  | _, _ => none

/-- What `C4`, `C5` and `8F` prefixes say. -/
structure VectorPrefix where
  map : Nat
  selector : Mandatory
  wide : Bool
  /-- 256-bit operands. -/
  long : Bool
  /-- The further register, by its code; zero where none is named. -/
  further : Nat
deriving DecidableEq, Inhabited

/-- From the map and the last byte of the prefix; the register is stored inverted. -/
def VectorPrefix.ofByte (map : Nat) (wide : Bool) (b : UInt8) : VectorPrefix where
  map := map
  selector := .ofCode (b.toNat % 4)
  wide := wide
  long := b.toNat / 4 % 2 == 1
  further := 15 - b.toNat / 8 % 16

inductive VectorLength where
  | any
  | short
  | long
deriving DecidableEq, Inhabited

/-- An operation of a vector map. Its rules for the operand byte are those of `Places`. -/
structure VectorOperation where
  selector : Mandatory
  opcode : Nat
  name : WidthName
  length : VectorLength := .any
  places : Places := .any
  /-- Whether the further register is an operand. -/
  ternary : Bool := true
  reg : Option Nat := none
  constant : Nat := 0
  /-- A gathering load: its memory operand has a vector of indices, and its
  three registers differ. -/
  gathers : Bool := false
deriving DecidableEq, Inhabited

namespace VectorOperation

variable (e : VectorOperation)

def unary : VectorOperation := { e with ternary := false }

def short : VectorOperation := { e with length := .short }

def long : VectorOperation := { e with length := .long }

def inMemory : VectorOperation := { e with places := .memory }

def inRegister : VectorOperation := { e with places := .register }

def withBytes (n : Nat) : VectorOperation := { e with constant := n }

def inGroup (reg : Nat) : VectorOperation := { e with reg := some reg }

def gathering : VectorOperation := { e with places := .memory, gathers := true }

def fitsLength (v : VectorPrefix) : Bool :=
  match e.length with
  | .any => true
  | .short => !v.long
  | .long => v.long

/-- In the narrow modes only the three low bits of the further register count. -/
def fitsIndices (v : VectorPrefix) (o : ModRM) : Bool :=
  if e.gathers then
    match o.indexCode with
    | none => false
    | some index => index != o.reg && index != v.further % 8 && o.reg != v.further % 8
  else true

def admits (v : VectorPrefix) (o : ModRM) : Bool :=
  e.selector == v.selector && e.fitsLength v && e.places.admit o && e.reg.all (· == o.reg)
    && (e.ternary || v.further == 0) && e.fitsIndices v o

def select (table : List VectorOperation) (v : VectorPrefix) (opcode : UInt8) (o : ModRM) :
    Option (VectorOperation × String) :=
  table.findSome? fun e =>
    if e.opcode == opcode.toNat && e.admits v o then (e.name.name? v.wide).map (e, ·) else none

/-- Reads the operand byte and what follows it. -/
def read (table : List VectorOperation) (p : Prefixes) (v : VectorPrefix) (opcode : UInt8) :
    ByteReader Operation := do
  let o ← ModRM.read p
  match select table v opcode o with
  | none => .fail
  | some (e, name) =>
    ByteReader.skip e.constant
    return .unsupported name

/-- Names for consecutive opcodes from `first` on, whatever the width bit. -/
def run (selector : Mandatory) (first : Nat) (names : List String) : List VectorOperation :=
  names.zipIdx.map fun (name, i) => { selector, opcode := first + i, name := .same name }

def same (selector : Mandatory) (opcode : Nat) (name : String) : VectorOperation :=
  { selector, opcode, name := .same name }

def narrow (selector : Mandatory) (opcode : Nat) (name : String) : VectorOperation :=
  { selector, opcode, name := .narrow name }

def wide (selector : Mandatory) (opcode : Nat) (name : String) : VectorOperation :=
  { selector, opcode, name := .wide name }

def either (selector : Mandatory) (opcode : Nat) (narrowName wideName : String) : VectorOperation :=
  { selector, opcode, name := .both narrowName wideName }

/-- Packed single and double precision. -/
def packed (opcode : Nat) (stem : String) : List VectorOperation :=
  [same .plain opcode (stem ++ "ps"), same .p66 opcode (stem ++ "pd")]

/-- Packed and scalar, single and double precision. -/
def packedScalar (opcode : Nat) (stem : String) : List VectorOperation :=
  packed opcode stem ++ [same .pF3 opcode (stem ++ "ss"), same .pF2 opcode (stem ++ "sd")]

end VectorOperation

end RealMode
