import RealMode.Alu.Shift
import RealMode.Instruction.Operand

/-!
# Instructions

An operation with its operands, the offset it was read from and its length. Branches inside the
segment keep their distance from the next instruction, so an operation does not depend on where it
stands. `Operation.name` is the mnemonic that messages show. Operations that are decoded but never
executed keep only their mnemonic.
-/

namespace RealMode

/-- The sixteen conditions, in the order of their encodings. -/
inductive Condition where
  | overflow | noOverflow | below | aboveEqual | equal | notEqual | belowEqual | above
  | sign | noSign | parity | noParity | less | greaterEqual | lessEqual | greater
deriving DecidableEq, Inhabited

namespace Condition

def holds (f : Flags) : Condition → Bool
  | overflow => f.overflow
  | noOverflow => !f.overflow
  | below => f.carry
  | aboveEqual => !f.carry
  | equal => f.zero
  | notEqual => !f.zero
  | belowEqual => f.carry || f.zero
  | above => !f.carry && !f.zero
  | sign => f.sign
  | noSign => !f.sign
  | parity => f.parity
  | noParity => !f.parity
  | less => f.sign != f.overflow
  | greaterEqual => f.sign == f.overflow
  | lessEqual => f.zero || f.sign != f.overflow
  | greater => !f.zero && f.sign == f.overflow

/-- The letters after `J`, `Set` and `Cmov`. -/
def letters : Condition → String
  | overflow => "o"
  | noOverflow => "no"
  | below => "b"
  | aboveEqual => "ae"
  | equal => "e"
  | notEqual => "ne"
  | belowEqual => "be"
  | above => "a"
  | sign => "s"
  | noSign => "ns"
  | parity => "p"
  | noParity => "np"
  | less => "l"
  | greaterEqual => "ge"
  | lessEqual => "le"
  | greater => "g"

end Condition

inductive ArithOp where
  | add | adc | sub | sbb | cmp
deriving DecidableEq, Inhabited

inductive LogicOp where
  | and | or | xor | test
deriving DecidableEq, Inhabited

inductive UnaryOp where
  | inc | dec | neg
deriving DecidableEq, Inhabited

inductive StringOp where
  | movs | stos | lods | cmps | scas
deriving DecidableEq, Inhabited

/-- CMPS and SCAS can end a repetition early. -/
def StringOp.compares : StringOp → Bool
  | cmps => true
  | scas => true
  | _ => false

inductive Repeat where
  | whileEqual
  | whileNotEqual
deriving DecidableEq, Inhabited

inductive LoopCondition where
  | always | equal | notEqual
deriving DecidableEq, Inhabited

/-- Where a JMP or CALL goes. -/
inductive Target where
  | far (address : FarPtr)
  /-- Through a 16:16 pointer in memory. -/
  | farThrough (m : MemoryOperand)
  /-- By a distance from the next instruction. -/
  | relative (distance : UInt16)
  /-- To the offset that the operand holds. -/
  | near (o : Operand)
deriving DecidableEq, Inhabited

/-- The segment register that LDS and LES load. -/
inductive PointerSegment where
  | ds | es
deriving DecidableEq, Inhabited

inductive Operation where
  | mov (dst src : Operand)
  | xchg (a b : Operand)
  | lea (dst : Operand) (m : MemoryOperand)
  | loadPointer (segment : PointerSegment) (dst : Operand) (m : MemoryOperand)
  | movzx (dst src : Operand)
  | movsx (dst src : Operand)
  | xlat (segment : SegmentRegister)
  | lahf
  | sahf
  | cbw
  | cwd
  | push (src : Operand)
  | pop (dst : Operand)
  | pushf
  | popf
  | pusha
  | popa
  | enter (size : UInt16) (level : UInt8)
  | leave
  | arith (op : ArithOp) (dst src : Operand)
  | unary (op : UnaryOp) (dst : Operand)
  | not (dst : Operand)
  | mul (src : Operand)
  | imul (src : Operand)
  | imulTo (dst a b : Operand)
  | div (src : Operand)
  | idiv (src : Operand)
  | logic (op : LogicOp) (dst src : Operand)
  | shift (op : Alu.ShiftOp) (dst count : Operand)
  /-- The second encoding of SHL. -/
  | sal (dst count : Operand)
  | jump (condition : Condition) (distance : UInt16)
  | jmp (target : Target)
  | call (target : Target)
  | ret (popBytes : UInt16)
  | retf (popBytes : UInt16)
  | iret
  | jcxz (distance : UInt16)
  | loop (condition : LoopCondition) (distance : UInt16)
  | int (vector : UInt8)
  | int3
  | into
  | hlt
  | clc
  | stc
  | cmc
  | cld
  | std
  | cli
  | sti
  | input (dst port : Operand)
  | output (port src : Operand)
  | nop
  | wait
  | string (op : StringOp) (width : Width) (source : SegmentRegister) (again : Option Repeat)
  | unsupported (mnemonic : String)
deriving DecidableEq, Inhabited

def ArithOp.name : ArithOp → String
  | add => "Add"
  | adc => "Adc"
  | sub => "Sub"
  | sbb => "Sbb"
  | cmp => "Cmp"

def LogicOp.name : LogicOp → String
  | and => "And"
  | or => "Or"
  | xor => "Xor"
  | test => "Test"

def UnaryOp.name : UnaryOp → String
  | inc => "Inc"
  | dec => "Dec"
  | neg => "Neg"

def StringOp.name : StringOp → String
  | movs => "Movs"
  | stos => "Stos"
  | lods => "Lods"
  | cmps => "Cmps"
  | scas => "Scas"

def Alu.ShiftOp.name : Alu.ShiftOp → String
  | .rol => "Rol"
  | .ror => "Ror"
  | .rcl => "Rcl"
  | .rcr => "Rcr"
  | .shl => "Shl"
  | .shr => "Shr"
  | .sar => "Sar"

def Operation.name : Operation → String
  | mov _ _ => "Mov"
  | xchg _ _ => "Xchg"
  | lea _ _ => "Lea"
  | loadPointer .ds _ _ => "Lds"
  | loadPointer .es _ _ => "Les"
  | movzx _ _ => "Movzx"
  | movsx _ _ => "Movsx"
  | xlat _ => "Xlatb"
  | lahf => "Lahf"
  | sahf => "Sahf"
  | cbw => "Cbw"
  | cwd => "Cwd"
  | push _ => "Push"
  | pop _ => "Pop"
  | pushf => "Pushf"
  | popf => "Popf"
  | pusha => "Pusha"
  | popa => "Popa"
  | enter _ _ => "Enter"
  | leave => "Leave"
  | arith op _ _ => op.name
  | unary op _ => op.name
  | not _ => "Not"
  | mul _ => "Mul"
  | imul _ => "Imul"
  | imulTo _ _ _ => "Imul"
  | div _ => "Div"
  | idiv _ => "Idiv"
  | logic op _ _ => op.name
  | shift op _ _ => op.name
  | sal _ _ => "Sal"
  | jump c _ => "J" ++ c.letters
  | jmp _ => "Jmp"
  | call _ => "Call"
  | ret _ => "Ret"
  | retf _ => "Retf"
  | iret => "Iret"
  | jcxz _ => "Jcxz"
  | loop .always _ => "Loop"
  | loop .equal _ => "Loope"
  | loop .notEqual _ => "Loopne"
  | int _ => "Int"
  | int3 => "Int3"
  | into => "Into"
  | hlt => "Hlt"
  | clc => "Clc"
  | stc => "Stc"
  | cmc => "Cmc"
  | cld => "Cld"
  | std => "Std"
  | cli => "Cli"
  | sti => "Sti"
  | input _ _ => "In"
  | output _ _ => "Out"
  | nop => "Nop"
  | wait => "Wait"
  | string op .byte _ _ => op.name ++ "b"
  | string op .word _ _ => op.name ++ "w"
  | unsupported mnemonic => mnemonic

structure Instruction where
  offset : UInt16
  length : Nat
  operation : Operation
deriving DecidableEq, Inhabited

namespace Instruction

/-- Offsets wrap inside the segment. -/
def next (i : Instruction) : UInt16 := i.offset + UInt16.ofNat i.length

def name (i : Instruction) : String := i.operation.name

end Instruction

end RealMode
