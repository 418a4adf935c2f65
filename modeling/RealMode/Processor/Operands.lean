import RealMode.Instruction
import RealMode.Machine

/-!
# Reading and writing operands

Sixteen-bit address sums wrap. An operand that the machine does not have, such as a 32-bit register,
makes the instruction an unimplemented one.
-/

namespace RealMode.Processor

open Exec

variable {σ α : Type}

/-- The fault of an instruction that is not executed. -/
def refuse (i : Instruction) : Exec σ α := do
  let r ← registers
  throw (.unimplementedOpcode ⟨r.cs, i.offset⟩ i.name)

def readRegister (i : Instruction) (reg : Register) : Exec σ UInt16 := do
  let r ← registers
  match r.read? reg with
  | some value => return value
  | none => refuse i

def writeRegister (i : Instruction) (reg : Register) (value : UInt16) : Exec σ Unit := do
  let r ← registers
  match r.write? reg value with
  | some r => setRegisters r
  | none => refuse i

/-- The part that a base or index register adds. -/
def readTerm (i : Instruction) : Option Register → Exec σ UInt16
  | none => return 0
  | some reg => readRegister i reg

def effectiveOffset (i : Instruction) (m : MemoryOperand) : Exec σ UInt16 := do
  let base ← readTerm i m.base
  let index ← readTerm i m.index
  return m.displacement + base + index

def addressOf (i : Instruction) (m : MemoryOperand) : Exec σ FarPtr := do
  let segment ← readRegister i (.segment m.segment)
  let offset ← effectiveOffset i m
  return ⟨segment, offset⟩

/-- A byte or a word of memory; a byte is zero-extended. -/
def readCell (p : FarPtr) : Width → Exec σ UInt16
  | .byte => do
    let b ← readByte p
    return b.toUInt16
  | .word => readWord p

def writeCell (p : FarPtr) (w : Width) (value : UInt16) : Exec σ Unit :=
  match w with
  | .byte => writeByte p (lowByte value)
  | .word => writeWord p value

def read (i : Instruction) : Operand → Exec σ UInt16
  | .register reg => readRegister i reg
  | .memory m => do
    let p ← addressOf i m
    readCell p m.size.width
  | .immediate _ value => return value
  | .wide _ => refuse i

def write (i : Instruction) (o : Operand) (value : UInt16) : Exec σ Unit :=
  match o with
  | .register reg => writeRegister i reg value
  | .memory m => do
    let p ← addressOf i m
    writeCell p m.size.width value
  | .immediate _ _ => refuse i
  | .wide _ => refuse i

/-- The far pointer that a memory operand holds. -/
def readFar (i : Instruction) (m : MemoryOperand) : Exec σ FarPtr := do
  let p ← addressOf i m
  readPointer p

end RealMode.Processor
