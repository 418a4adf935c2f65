import RealMode.Machine.Board
import RealMode.Processor.Frames
import RealMode.Processor.Product
import RealMode.Processor.Strings

/-!
# The processor

`execute` is one instruction, with IP already past it. `tick` fetches and executes the instruction
at CS:IP as a whole: if it faults, registers and memory bytes are as before. A halted machine, and
one whose CS is a module's segment, executes nothing.
-/

namespace RealMode.Processor

open Exec

variable {σ : Type}

/-- What a tick came to. -/
inductive StepResult where
  | executed
  | halted
  /-- CS:IP is in a module's segment; whoever drives the machine has to serve the call. -/
  | external (entry : FarPtr)
deriving DecidableEq

/-- Raises a software interrupt. The flags that the handler leaves reach the caller. -/
def interrupt (board : Board σ) (vector : UInt8) : Exec σ Unit :=
  match board.handlers vector with
  | none => throw (.unhandledInterrupt vector)
  | some handler => do
    pushFlags
    pushCs
    pushIp
    handler
    popIp
    popCs
    drop 2

def setFlags (flags : Flags) : Exec σ Unit := modifyRegisters fun r => { r with flags := flags }

def modifyFlags (f : Flags → Flags) : Exec σ Unit :=
  modifyRegisters fun r => { r with flags := f r.flags }

def arith (i : Instruction) (op : ArithOp) (dst src : Operand) : Exec σ Unit := do
  let a ← read i dst
  let b ← read i src
  let r ← registers
  let result :=
    match op with
    | .add => Alu.add r.flags dst.width a b false
    | .adc => Alu.add r.flags dst.width a b r.flags.carry
    | .sub => Alu.sub r.flags dst.width a b false
    | .sbb => Alu.sub r.flags dst.width a b r.flags.carry
    | .cmp => Alu.sub r.flags dst.width a b false
  setFlags result.flags
  if op = .cmp then return () else write i dst result.value

def logic (i : Instruction) (op : LogicOp) (dst src : Operand) : Exec σ Unit := do
  let a ← read i dst
  let b ← read i src
  let r ← registers
  let combined :=
    match op with
    | .and => a &&& b
    | .or => a ||| b
    | .xor => a ^^^ b
    | .test => a &&& b
  let result := Alu.logic r.flags dst.width combined
  setFlags result.flags
  if op = .test then return () else write i dst result.value

def unary (i : Instruction) (op : UnaryOp) (dst : Operand) : Exec σ Unit := do
  let a ← read i dst
  let r ← registers
  let result :=
    match op with
    | .inc => Alu.inc r.flags dst.width a
    | .dec => Alu.dec r.flags dst.width a
    | .neg => Alu.neg r.flags dst.width a
  setFlags result.flags
  write i dst result.value

def shift (i : Instruction) (op : Alu.ShiftOp) (dst count : Operand) : Exec σ Unit := do
  let a ← read i dst
  let n ← read i count
  let r ← registers
  let result := Alu.shift r.flags dst.width op a (lowByte n)
  setFlags result.flags
  write i dst result.value

/-- The product of two words, cut to a word. -/
def multiplyTo (i : Instruction) (dst a b : Operand) : Exec σ Unit := do
  let x ← read i a
  let y ← read i b
  let product := Width.word.signed x * Width.word.signed y
  modifyRegisters (·.withCarryOverflow (!Width.word.fits product))
  write i dst (UInt16.ofInt product)

def divide (i : Instruction) (div? : Registers → Width → UInt16 → Option Registers)
    (src : Operand) : Exec σ Unit := do
  let divisor ← read i src
  let r ← registers
  match div? r src.width divisor with
  | some r => setRegisters r
  | none => throw (.divideError ⟨r.cs, i.offset⟩)

def exchange (i : Instruction) (a b : Operand) : Exec σ Unit := do
  let x ← read i a
  let y ← read i b
  write i a y
  write i b x

def loadPointer (i : Instruction) (segment : PointerSegment) (dst : Operand) (m : MemoryOperand) :
    Exec σ Unit := do
  let p ← readFar i m
  write i dst p.offset
  match segment with
  | .ds => modifyRegisters fun r => { r with ds := p.segment }
  | .es => modifyRegisters fun r => { r with es := p.segment }

/-- The value at its own width, with zeros above. -/
def zeroExtended (w : Width) (value : UInt16) : UInt16 := UInt16.ofNat (w.trunc value)

/-- The value at its own width, with copies of its sign above. -/
def signExtended (w : Width) (value : UInt16) : UInt16 := UInt16.ofInt (w.signed value)

/-- The byte of the table at BX that AL counts to. A segment that the machine does
not have reads as DS. -/
def lookUp (segment : SegmentRegister) : Exec σ Unit := do
  let r ← registers
  let value ← readByte ⟨(r.readSegment? segment).getD r.ds, r.bx + r.al.toUInt16⟩
  modifyRegisters (·.withAl value)

def jump (i : Instruction) : Target → Exec σ Unit
  | .far p => goFar p
  | .farThrough m => do
    let p ← readFar i m
    goFar p
  | .relative distance => goBy distance
  | .near o => do
    let offset ← read i o
    goTo offset

def callFar (p : FarPtr) : Exec σ Unit := do
  pushCs
  pushIp
  goFar p

def call (i : Instruction) : Target → Exec σ Unit
  | .far p => callFar p
  | .farThrough m => do
    let p ← readFar i m
    callFar p
  | .relative distance => do
    pushIp
    goBy distance
  | .near o => do
    let offset ← read i o
    pushIp
    goTo offset

def loop (condition : LoopCondition) (distance : UInt16) : Exec σ Unit := do
  modifyRegisters fun r => { r with cx := r.cx - 1 }
  let r ← registers
  let wanted :=
    match condition with
    | .always => true
    | .equal => r.flags.zero
    | .notEqual => !r.flags.zero
  if r.cx != 0 && wanted then goBy distance else return ()

/-- The accumulator takes its width from the destination. -/
def input (board : Board σ) (i : Instruction) (dst port : Operand) : Exec σ Unit := do
  let p ← read i port
  match dst.width with
  | .byte =>
    let value ← onHost (board.readPort p)
    modifyRegisters (·.withAl value)
  | .word =>
    let value ← onHost (board.readPortWord p)
    modifyRegisters fun r => { r with ax := value }

def output (board : Board σ) (i : Instruction) (port src : Operand) : Exec σ Unit := do
  let p ← read i port
  let value ← read i src
  match src.width with
  | .byte => onHost (board.writePort p (lowByte value))
  | .word => onHost (board.writePortWord p value)

/-- The order in which PUSHA stores the registers. -/
def pushaOrder : List WordRegister := [.ax, .cx, .dx, .bx, .sp, .bp, .si, .di]

/-- One instruction, with IP already past it. -/
def execute (board : Board σ) (i : Instruction) : Exec σ Unit :=
  match i.operation with
  | .mov dst src => do
    let value ← read i src
    write i dst value
  | .xchg a b => exchange i a b
  | .lea dst m => do
    let offset ← effectiveOffset i m
    write i dst offset
  | .loadPointer segment dst m => loadPointer i segment dst m
  | .movzx dst src => do
    let value ← read i src
    write i dst (zeroExtended src.width value)
  | .movsx dst src => do
    let value ← read i src
    write i dst (signExtended src.width value)
  | .xlat segment => lookUp segment
  | .lahf => modifyRegisters fun r => r.withAh (lowByte r.flags.pushed)
  | .sahf => modifyRegisters fun r => { r with flags := r.flags.withLowByte r.ah }
  | .cbw => modifyRegisters fun r => { r with ax := signExtended .byte r.ax }
  | .cwd =>
    modifyRegisters fun r => { r with dx := if Width.word.isNegative r.ax.toNat then 0xffff else 0 }
  | .push src => do
    let value ← read i src
    push value
  | .pop dst => do
    let value ← pop
    write i dst value
  | .pushf => pushFlags
  | .popf => popFlags
  | .pusha => do
    let r ← registers
    pushAll (pushaOrder.map r.readWord)
  | .popa => popAll pushaOrder.reverse
  | .enter size level => enter size (level.toNat % 32)
  | .leave => leave
  | .arith op dst src => arith i op dst src
  | .unary op dst => unary i op dst
  | .not dst => do
    let value ← read i dst
    write i dst (~~~value)
  | .mul src => do
    let value ← read i src
    modifyRegisters (·.mul src.width value)
  | .imul src => do
    let value ← read i src
    modifyRegisters (·.imul src.width value)
  | .imulTo dst a b => multiplyTo i dst a b
  | .div src => divide i Registers.div? src
  | .idiv src => divide i Registers.idiv? src
  | .logic op dst src => logic i op dst src
  | .shift op dst count => shift i op dst count
  | .sal dst count => shift i .shl dst count
  | .jump condition distance => do
    let r ← registers
    if condition.holds r.flags then goBy distance else return ()
  | .jmp target => jump i target
  | .call target => call i target
  | .ret popBytes => do
    popIp
    drop popBytes
  | .retf popBytes => farReturn popBytes
  | .iret => do
    popIp
    popCs
    popFlags
  | .jcxz distance => do
    let r ← registers
    if r.cx = 0 then goBy distance else return ()
  | .loop condition distance => loop condition distance
  | .int vector => interrupt board vector
  | .int3 => interrupt board 3
  | .into => do
    let r ← registers
    if r.flags.overflow then interrupt board 4 else return ()
  | .hlt => modifyRegisters fun r => { r with halt := true }
  | .clc => modifyFlags fun f => { f with carry := false }
  | .stc => modifyFlags fun f => { f with carry := true }
  | .cmc => modifyFlags fun f => { f with carry := !f.carry }
  | .cld => modifyFlags fun f => { f with direction := false }
  | .std => modifyFlags fun f => { f with direction := true }
  | .cli => modifyFlags fun f => { f with interrupt := false }
  | .sti => modifyFlags fun f => { f with interrupt := true }
  | .input dst port => input board i dst port
  | .output port src => output board i port src
  | .nop => return ()
  | .wait => return ()
  | .string op width source again => stringInstruction op width source again
  | .unsupported _ => refuse i

/-- The instruction at CS:IP, which leaves no trace if it faults. -/
def tick (board : Board σ) : Exec σ StepResult := do
  let r ← registers
  if r.halt then return .halted
  else if board.imported r.cs then return .external r.csIp
  else
    let i ← allocating (·.fetch r.csIp)
    atomically do
      goTo i.next
      execute board i
    let r ← registers
    return if r.halt then .halted else .executed

end RealMode.Processor
