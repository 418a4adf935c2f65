import RealMode.Registers
import RealMode.Width

/-!
# Operands

What an instruction reads and writes, as its encoding names it. A memory operand keeps its
segment, its base and index registers and its displacement; the address is computed when
the instruction runs. Operands that only a 32-bit processor has can be written down here
and are refused by the machine.
-/

namespace RealMode

inductive MemorySize where
  | byte
  | word
  | dword
  /-- A 16:16 far pointer. -/
  | farWord
  /-- A 16:32 far pointer. -/
  | farDword
deriving DecidableEq, Inhabited

structure MemoryOperand where
  segment : SegmentRegister
  base : Option Register := none
  index : Option Register := none
  displacement : UInt16 := 0
  size : MemorySize
deriving DecidableEq, Inhabited

inductive Operand where
  | register (r : Register)
  | memory (m : MemoryOperand)
  | immediate (width : Width) (value : UInt16)
  /-- A 32-bit constant or branch target. -/
  | wide (value : UInt32)
deriving DecidableEq, Inhabited

/-- Everything that is not a byte is handled as a word. -/
def MemorySize.width : MemorySize → Width
  | byte => .byte
  | _ => .word

def Operand.width : Operand → Width
  | register (.byte _) => .byte
  | register _ => .word
  | memory m => m.size.width
  | immediate w _ => w
  | wide _ => .word

def Operand.isMemory : Operand → Bool
  | memory _ => true
  | _ => false

end RealMode
