import RealMode.Instruction.Encoding

/-!
# Named operations

Most operations of later processors are decoded and never executed, so their mnemonic and the
shape of their encoding are all that is kept. A table lists them. The first row that fits the
opcode, the selecting prefix and the operand byte is the operation; where no row fits, the
bytes are no instruction.
-/

namespace RealMode

/-- Which operand bytes an encoding allows. -/
inductive Places where
  | any
  | register
  | memory
deriving DecidableEq, Inhabited

def Places.admit (places : Places) (o : ModRM) : Bool :=
  match places with
  | any => true
  | register => !o.isMemory
  | memory => o.isMemory

def ModRM.rm? (o : ModRM) : Option Nat :=
  match o.place with
  | .register rm => some rm
  | .memory .. => none

structure NamedOperation where
  opcode : Nat
  mnemonic : String
  selectors : List Mandatory := [.plain, .p66, .pF3, .pF2]
  places : Places := .any
  /-- The register field that an operation of a group needs. -/
  reg : Option Nat := none
  /-- The register number in the place field, where it belongs to the opcode. -/
  rm : Option Nat := none
  /-- Bytes of constants behind the operands. -/
  constant : Nat := 0
deriving DecidableEq, Inhabited

namespace NamedOperation

variable (e : NamedOperation)

def inMemory : NamedOperation := { e with places := .memory }

def inRegister : NamedOperation := { e with places := .register }

def withBytes (n : Nat) : NamedOperation := { e with constant := n }

/-- Row `reg` of a group. -/
def inGroup (reg : Nat) : NamedOperation := { e with reg := some reg }

/-- The operand byte, which names registers, is part of the opcode. -/
def exactly (reg rm : Nat) : NamedOperation :=
  { e with places := .register, reg := some reg, rm := some rm }

def admits (m : Mandatory) (o : ModRM) : Bool :=
  e.selectors.contains m && e.places.admit o && e.reg.all (· == o.reg)
    && e.rm.all fun rm => o.rm? == some rm

/-- An operation that no prefix changes. -/
def unselected (opcode : Nat) (mnemonic : String) : NamedOperation :=
  ⟨opcode, mnemonic, [.plain, .p66, .pF3, .pF2], .any, none, none, 0⟩

def selected (m : Mandatory) (opcode : Nat) (mnemonic : String) : NamedOperation :=
  ⟨opcode, mnemonic, [m], .any, none, none, 0⟩

def plain (opcode : Nat) (mnemonic : String) : NamedOperation := selected .plain opcode mnemonic

def with66 (opcode : Nat) (mnemonic : String) : NamedOperation := selected .p66 opcode mnemonic

def withF3 (opcode : Nat) (mnemonic : String) : NamedOperation := selected .pF3 opcode mnemonic

def withF2 (opcode : Nat) (mnemonic : String) : NamedOperation := selected .pF2 opcode mnemonic

/-- One name for the forms without a prefix and with `66`. -/
def both (opcode : Nat) (mnemonic : String) : NamedOperation :=
  ⟨opcode, mnemonic, [.plain, .p66], .any, none, none, 0⟩

/-- Packed single and double precision. -/
def packed (opcode : Nat) (stem : String) : List NamedOperation :=
  [plain opcode (stem ++ "ps"), with66 opcode (stem ++ "pd")]

/-- Packed and scalar, single and double precision. -/
def packedScalar (opcode : Nat) (stem : String) : List NamedOperation :=
  packed opcode stem ++ [withF3 opcode (stem ++ "ss"), withF2 opcode (stem ++ "sd")]

/-- One name for each selecting prefix. -/
def each (opcode : Nat) (plainName name66 nameF3 nameF2 : String) : List NamedOperation :=
  [plain opcode plainName, with66 opcode name66, withF3 opcode nameF3, withF2 opcode nameF2]

/-- Names for consecutive opcodes from `first` on. -/
def run (row : Nat → String → NamedOperation) (first : Nat) (names : List String) :
    List NamedOperation :=
  names.zipIdx.map fun (name, i) => row (first + i) name

def select (table : List NamedOperation) (opcode : UInt8) (m : Mandatory) (o : ModRM) :
    Option NamedOperation :=
  table.find? fun e => e.opcode == opcode.toNat && e.admits m o

/-- Reads the operand byte and what follows it. -/
def read (table : List NamedOperation) (p : Prefixes) (opcode : UInt8) : ByteReader Operation := do
  let o ← ModRM.read p
  match select table opcode p.mandatory o with
  | none => .fail
  | some e =>
    ByteReader.skip e.constant
    return .unsupported e.mnemonic

end NamedOperation

end RealMode
