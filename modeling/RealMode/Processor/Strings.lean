import RealMode.Alu
import RealMode.Processor.Operands

/-!
# String instructions

One element goes from DS:SI or the accumulator to ES:DI or the accumulator, or two are compared, and
the index registers move on by its size, down if Direction is set. With a repeat prefix CX counts
the elements and is looked at before each one; a comparison can end the repetition early.
-/

namespace RealMode

def Registers.accumulator (r : Registers) : Width → UInt16
  | .byte => r.al.toUInt16
  | .word => r.ax

def Registers.withAccumulator (r : Registers) (w : Width) (value : UInt16) : Registers :=
  match w with
  | .byte => r.withAl (lowByte value)
  | .word => { r with ax := value }

/-- How far the index registers move. -/
def Registers.stride (r : Registers) (w : Width) : UInt16 :=
  if r.flags.direction then 0 - UInt16.ofNat w.size else UInt16.ofNat w.size

/-- Goes on after an element that left these flags. -/
def Repeat.goesOn (op : StringOp) (f : Flags) : Repeat → Bool
  | .whileEqual => !op.compares || f.zero
  | .whileNotEqual => !op.compares || !f.zero

namespace Processor

open Exec

variable {σ : Type}

/-- The flags of comparing two elements. -/
private def comparing (w : Width) (a b : UInt16) : Exec σ Unit :=
  modifyRegisters fun r => { r with flags := (Alu.sub r.flags w a b false).flags }

private def moveSource (by' : UInt16) : Exec σ Unit :=
  modifyRegisters fun r => { r with si := r.si + by' }

private def moveDestination (by' : UInt16) : Exec σ Unit :=
  modifyRegisters fun r => { r with di := r.di + by' }

/-- One element. `segment` is the source's segment. -/
def stringElement (op : StringOp) (w : Width) (segment : UInt16) : Exec σ Unit := do
  let r ← registers
  let source : FarPtr := ⟨segment, r.si⟩
  let destination : FarPtr := ⟨r.es, r.di⟩
  let stride := r.stride w
  match op with
  | .movs =>
    let value ← readCell source w
    writeCell destination w value
    moveSource stride
    moveDestination stride
  | .stos =>
    writeCell destination w (r.accumulator w)
    moveDestination stride
  | .lods =>
    let value ← readCell source w
    modifyRegisters (·.withAccumulator w value)
    moveSource stride
  | .cmps =>
    let a ← readCell source w
    let b ← readCell destination w
    comparing w a b
    moveSource stride
    moveDestination stride
  | .scas =>
    let b ← readCell destination w
    comparing w (r.accumulator w) b
    moveDestination stride

/-- Up to `n` elements, where `n` is the number in CX. -/
def stringRepeat (op : StringOp) (w : Width) (segment : UInt16) (again : Repeat) :
    Nat → Exec σ Unit
  | 0 => return ()
  | n + 1 => do
    stringElement op w segment
    modifyRegisters fun r => { r with cx := r.cx - 1 }
    let r ← registers
    if again.goesOn op r.flags then stringRepeat op w segment again n else return ()

/-- A source segment that the machine does not have reads as DS. -/
def stringInstruction (op : StringOp) (w : Width) (source : SegmentRegister)
    (again : Option Repeat) : Exec σ Unit := do
  let r ← registers
  let segment := (r.readSegment? source).getD r.ds
  match again with
  | none => stringElement op w segment
  | some again => stringRepeat op w segment again r.cx.toNat

end Processor

end RealMode
