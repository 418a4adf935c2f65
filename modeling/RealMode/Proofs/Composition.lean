import RealMode.Processor

/-!
# Properties that instructions have from their parts

A property of steps is compositional if the primitives have it and it passes to sequences. Operands,
stack frames, strings and the instructions themselves then have it too. What serves the interrupts
and the devices on the ports come from outside, so they are asked for it.
-/

namespace RealMode

namespace Exec

variable {σ α β : Type}

theorem onHost_bind (x : EStateM Fault σ α) (f : α → EStateM Fault σ β) :
    onHost (x >>= f) = onHost x >>= fun a => onHost (f a) := by
  funext m
  simp only [onHost, Bind.bind, EStateM.bind]
  cases x m.host <;> rfl

/-- Of what a step can do to memory, only reads and writes of bytes count as primitives. -/
structure Compositional (P : ∀ ⦃α : Type⦄, Exec σ α → Prop) : Prop where
  pure : ∀ {α : Type} (a : α), P (pure a)
  throw : ∀ {α : Type} (e : Fault), P (throw e : Exec σ α)
  bind : ∀ {α β : Type} {x : Exec σ α} {f : α → Exec σ β}, P x →
    (∀ a, P (f a)) → P (x >>= f)
  registers : P Exec.registers
  modifyRegisters : ∀ f : Registers → Registers, P (Exec.modifyRegisters f)
  readByte : ∀ p : FarPtr, P (Exec.readByte p)
  readWord : ∀ p : FarPtr, P (Exec.readWord p)
  readPointer : ∀ p : FarPtr, P (Exec.readPointer p)
  writeBytes : ∀ (p : FarPtr) (bytes : List UInt8), P (changing (·.writeBytes p bytes))

/-- Whatever the board wires a processor to has the property. -/
structure Wired (P : ∀ ⦃α : Type⦄, Exec σ α → Prop) (board : Board σ) : Prop where
  handlers : ∀ vector handler, board.handlers vector = some handler → P handler
  reads : ∀ port, P (onHost (board.readPort port))
  writes : ∀ port value, P (onHost (board.writePort port value))

namespace Compositional

variable {P : ∀ ⦃α : Type⦄, Exec σ α → Prop} (closed : Compositional P)
include closed

omit closed in
theorem ite {c : Prop} [Decidable c] {x y : Exec σ α} (left : P x) (right : P y) :
    P (if c then x else y) := by
  split
  · exact left
  · exact right

theorem setRegisters (r : Registers) : P (Exec.setRegisters r) := closed.modifyRegisters fun _ => r

theorem writeByte (p : FarPtr) (value : UInt8) : P (Exec.writeByte p value) :=
  closed.writeBytes p [value]

theorem writeWord (p : FarPtr) (value : UInt16) : P (Exec.writeWord p value) :=
  closed.writeBytes p (bytesOfWord value)

theorem push (value : UInt16) : P (Exec.push value) :=
  closed.bind (closed.modifyRegisters _) fun _ => closed.bind closed.registers fun r =>
    closed.writeWord r.ssSp value

theorem pop : P Exec.pop :=
  closed.bind closed.registers fun r => closed.bind (closed.readWord r.ssSp) fun value =>
    closed.bind (closed.modifyRegisters _) fun _ => closed.pure value

section Operands

variable (i : Instruction)

theorem refuse : P (Processor.refuse i : Exec σ α) :=
  closed.bind closed.registers fun _ => closed.throw _

theorem readRegister (reg : Register) : P (Processor.readRegister i reg) := by
  refine closed.bind closed.registers fun r => ?_
  cases r.read? reg with
  | some value => exact closed.pure value
  | none => exact closed.refuse i

theorem writeRegister (reg : Register) (value : UInt16) :
    P (Processor.writeRegister i reg value) := by
  refine closed.bind closed.registers fun r => ?_
  cases r.write? reg value with
  | some r => exact closed.setRegisters r
  | none => exact closed.refuse i

theorem readTerm (reg : Option Register) : P (Processor.readTerm i reg) := by
  cases reg with
  | none => exact closed.pure 0
  | some reg => exact closed.readRegister i reg

theorem effectiveOffset (m : MemoryOperand) : P (Processor.effectiveOffset i m) :=
  closed.bind (closed.readTerm i m.base) fun _ =>
    closed.bind (closed.readTerm i m.index) fun _ => closed.pure _

theorem addressOf (m : MemoryOperand) : P (Processor.addressOf i m) :=
  closed.bind (closed.readRegister i _) fun _ =>
    closed.bind (closed.effectiveOffset i m) fun _ => closed.pure _

theorem readCell (p : FarPtr) (w : Width) : P (Processor.readCell p w) := by
  cases w with
  | byte => exact closed.bind (closed.readByte p) fun _ => closed.pure _
  | word => exact closed.readWord p

theorem writeCell (p : FarPtr) (w : Width) (value : UInt16) :
    P (Processor.writeCell p w value) := by
  cases w with
  | byte => exact closed.writeByte p _
  | word => exact closed.writeWord p value

theorem read (o : Operand) : P (Processor.read i o) := by
  cases o with
  | register reg => exact closed.readRegister i reg
  | memory m => exact closed.bind (closed.addressOf i m) fun p => closed.readCell p _
  | immediate w value => exact closed.pure value
  | wide value => exact closed.refuse i

theorem write (o : Operand) (value : UInt16) : P (Processor.write i o value) := by
  cases o with
  | register reg => exact closed.writeRegister i reg value
  | memory m => exact closed.bind (closed.addressOf i m) fun p => closed.writeCell p _ value
  | immediate w constant => exact closed.refuse i
  | wide constant => exact closed.refuse i

theorem readFar (m : MemoryOperand) : P (Processor.readFar i m) :=
  closed.bind (closed.addressOf i m) fun p => closed.readPointer p

end Operands

section Frames

theorem pushCs : P Processor.pushCs := closed.bind closed.registers fun r => closed.push r.cs

theorem pushIp : P Processor.pushIp := closed.bind closed.registers fun r => closed.push r.ip

theorem pushFlags : P Processor.pushFlags :=
  closed.bind closed.registers fun r => closed.push r.flags.pushed

theorem popIp : P Processor.popIp := closed.bind closed.pop fun _ => closed.modifyRegisters _

theorem popCs : P Processor.popCs := closed.bind closed.pop fun _ => closed.modifyRegisters _

theorem popFlags : P Processor.popFlags :=
  closed.bind closed.pop fun _ => closed.modifyRegisters _

theorem popRegister (reg : WordRegister) : P (Processor.popRegister reg) :=
  closed.bind closed.pop fun _ => closed.modifyRegisters _

theorem farReturn (popBytes : UInt16) : P (Processor.farReturn popBytes) :=
  closed.bind closed.popIp fun _ => closed.bind closed.popCs fun _ =>
    closed.bind (closed.modifyRegisters _) fun _ => closed.modifyRegisters _

theorem pushAll (values : List UInt16) : P (Processor.pushAll values) := by
  induction values with
  | nil => exact closed.pure ()
  | cons value values ih => exact closed.bind (closed.push value) fun _ => ih

theorem popAll (regs : List WordRegister) : P (Processor.popAll regs) := by
  induction regs with
  | nil => exact closed.pure ()
  | cons reg regs ih =>
    cases reg with
    | sp => exact closed.bind closed.pop fun _ => ih
    | _ => exact closed.bind (closed.popRegister _) fun _ => ih

theorem copyFrames (n : Nat) : P (Processor.copyFrames n) := by
  induction n with
  | zero => exact closed.pure ()
  | succ n ih =>
    exact closed.bind (closed.modifyRegisters _) fun _ => closed.bind closed.registers fun r =>
      closed.bind (closed.readWord _) fun outer => closed.bind (closed.push outer) fun _ => ih

theorem enter (size : UInt16) (level : Nat) : P (Processor.enter size level) := by
  refine closed.bind closed.registers fun r => closed.bind (closed.push r.bp) fun _ => ?_
  refine closed.bind closed.registers fun framed => ?_
  cases level with
  | zero => exact closed.modifyRegisters fun r => { r with bp := framed.sp, sp := r.sp - size }
  | succ n =>
    exact closed.bind (closed.copyFrames n) fun _ => closed.bind (closed.push _) fun _ =>
      closed.modifyRegisters _

theorem leave : P Processor.leave :=
  closed.bind (closed.modifyRegisters _) fun _ => closed.popRegister .bp

end Frames

section Strings

variable (op : StringOp) (w : Width) (segment : UInt16)

theorem stringElement : P (Processor.stringElement op w segment) := by
  refine closed.bind closed.registers fun r => ?_
  cases op with
  | movs =>
    exact closed.bind (closed.readCell _ w) fun value =>
      closed.bind (closed.writeCell _ w value) fun _ =>
      closed.bind (closed.modifyRegisters _) fun _ => closed.modifyRegisters _
  | stos => exact closed.bind (closed.writeCell _ w _) fun _ => closed.modifyRegisters _
  | lods =>
    exact closed.bind (closed.readCell _ w) fun _ => closed.bind (closed.modifyRegisters _) fun _ =>
      closed.modifyRegisters _
  | cmps =>
    exact closed.bind (closed.readCell _ w) fun _ => closed.bind (closed.readCell _ w) fun _ =>
      closed.bind (closed.modifyRegisters _) fun _ =>
        closed.bind (closed.modifyRegisters _) fun _ =>
        closed.modifyRegisters _
  | scas =>
    exact closed.bind (closed.readCell _ w) fun _ => closed.bind (closed.modifyRegisters _) fun _ =>
      closed.modifyRegisters _

/-- However often it is repeated. -/
theorem stringRepeat (again : Repeat) (n : Nat) :
    P (Processor.stringRepeat op w segment again n) := by
  induction n with
  | zero => exact closed.pure ()
  | succ n ih =>
    exact closed.bind (closed.stringElement op w segment) fun _ =>
      closed.bind (closed.modifyRegisters _) fun _ =>
      closed.bind closed.registers fun r => ite ih (closed.pure ())

theorem stringInstruction (source : SegmentRegister) (again : Option Repeat) :
    P (Processor.stringInstruction op w source again) := by
  refine closed.bind closed.registers fun r => ?_
  cases again with
  | none => exact closed.stringElement op w _
  | some again => exact closed.stringRepeat op w _ again _

end Strings

section Instructions

variable (i : Instruction)

theorem arith (op : ArithOp) (dst src : Operand) : P (Processor.arith i op dst src) :=
  closed.bind (closed.read i dst) fun _ => closed.bind (closed.read i src) fun _ =>
    closed.bind closed.registers fun _ => closed.bind (closed.modifyRegisters _) fun _ =>
      ite (closed.pure ()) (closed.write i dst _)

theorem logic (op : LogicOp) (dst src : Operand) : P (Processor.logic i op dst src) :=
  closed.bind (closed.read i dst) fun _ => closed.bind (closed.read i src) fun _ =>
    closed.bind closed.registers fun _ => closed.bind (closed.modifyRegisters _) fun _ =>
      ite (closed.pure ()) (closed.write i dst _)

theorem unary (op : UnaryOp) (dst : Operand) : P (Processor.unary i op dst) :=
  closed.bind (closed.read i dst) fun _ => closed.bind closed.registers fun _ =>
    closed.bind (closed.modifyRegisters _) fun _ => closed.write i dst _

theorem shift (op : Alu.ShiftOp) (dst count : Operand) : P (Processor.shift i op dst count) :=
  closed.bind (closed.read i dst) fun _ => closed.bind (closed.read i count) fun _ =>
    closed.bind closed.registers fun _ => closed.bind (closed.modifyRegisters _) fun _ =>
      closed.write i dst _

theorem multiplyTo (dst a b : Operand) : P (Processor.multiplyTo i dst a b) :=
  closed.bind (closed.read i a) fun _ => closed.bind (closed.read i b) fun _ =>
    closed.bind (closed.modifyRegisters _) fun _ => closed.write i dst _

theorem divide (div? : Registers → Width → UInt16 → Option Registers) (src : Operand) :
    P (Processor.divide i div? src) := by
  refine closed.bind (closed.read i src) fun divisor => closed.bind closed.registers fun r => ?_
  cases div? r src.width divisor with
  | some r => exact closed.setRegisters r
  | none => exact closed.throw _

theorem exchange (a b : Operand) : P (Processor.exchange i a b) :=
  closed.bind (closed.read i a) fun x => closed.bind (closed.read i b) fun y =>
    closed.bind (closed.write i a y) fun _ => closed.write i b x

theorem loadPointer (segment : PointerSegment) (dst : Operand) (m : MemoryOperand) :
    P (Processor.loadPointer i segment dst m) := by
  refine closed.bind (closed.readFar i m) fun p =>
    closed.bind (closed.write i dst p.offset) fun _ => ?_
  cases segment <;> exact closed.modifyRegisters _

theorem lookUp (segment : SegmentRegister) : P (Processor.lookUp segment) :=
  closed.bind closed.registers fun _ => closed.bind (closed.readByte _) fun _ =>
    closed.modifyRegisters _

theorem goTo (offset : UInt16) : P (Processor.goTo offset) := closed.modifyRegisters _

theorem goFar (p : FarPtr) : P (Processor.goFar p) := closed.modifyRegisters _

theorem goBy (distance : UInt16) : P (Processor.goBy distance) :=
  closed.modifyRegisters _

theorem jump (target : Target) : P (Processor.jump i target) := by
  cases target with
  | far p => exact closed.goFar p
  | farThrough m => exact closed.bind (closed.readFar i m) fun p => closed.goFar p
  | relative distance => exact closed.goBy distance
  | near o => exact closed.bind (closed.read i o) fun offset => closed.goTo offset

theorem callFar (p : FarPtr) : P (Processor.callFar p) :=
  closed.bind closed.pushCs fun _ => closed.bind closed.pushIp fun _ => closed.goFar p

theorem call (target : Target) : P (Processor.call i target) := by
  cases target with
  | far p => exact closed.callFar p
  | farThrough m => exact closed.bind (closed.readFar i m) fun p => closed.callFar p
  | relative distance => exact closed.bind closed.pushIp fun _ => closed.goBy distance
  | near o =>
    exact closed.bind (closed.read i o) fun offset =>
      closed.bind closed.pushIp fun _ => closed.goTo offset

theorem loop (condition : LoopCondition) (distance : UInt16) :
    P (Processor.loop condition distance) :=
  closed.bind (closed.modifyRegisters _) fun _ => closed.bind closed.registers fun _ =>
    ite (closed.goBy distance) (closed.pure ())

variable {board : Board σ} (wired : Wired P board)
include wired

theorem readPortWord (port : UInt16) : P (onHost (board.readPortWord port)) := by
  rw [Board.readPortWord, onHost_bind]
  refine closed.bind (wired.reads port) fun low => ?_
  rw [onHost_bind]
  exact closed.bind (wired.reads _) fun high => closed.pure _

theorem writePortWord (port value : UInt16) : P (onHost (board.writePortWord port value)) := by
  rw [Board.writePortWord, onHost_bind]
  exact closed.bind (wired.writes port _) fun _ => wired.writes _ _

theorem input (dst port : Operand) : P (Processor.input board i dst port) := by
  refine closed.bind (closed.read i port) fun p => ?_
  cases dst.width with
  | byte => exact closed.bind (wired.reads p) fun _ => closed.modifyRegisters _
  | word => exact closed.bind (closed.readPortWord wired p) fun _ => closed.modifyRegisters _

theorem output (port src : Operand) : P (Processor.output board i port src) := by
  refine closed.bind (closed.read i port) fun p => closed.bind (closed.read i src) fun value => ?_
  cases src.width with
  | byte => exact wired.writes p _
  | word => exact closed.writePortWord wired p value

theorem interrupt (vector : UInt8) : P (Processor.interrupt board vector) := by
  rw [Processor.interrupt]
  split
  · exact closed.throw _
  · rename_i handler served
    exact closed.bind closed.pushFlags fun _ => closed.bind closed.pushCs fun _ =>
      closed.bind closed.pushIp fun _ => closed.bind (wired.handlers vector handler served) fun _ =>
        closed.bind closed.popIp fun _ => closed.bind closed.popCs fun _ => closed.modifyRegisters _

/-- One case for each operation. -/
theorem execute : P (Processor.execute board i) := by
  rw [Processor.execute]
  cases i.operation with
  | mov dst src => exact closed.bind (closed.read i src) fun value => closed.write i dst value
  | xchg a b => exact closed.exchange i a b
  | lea dst m =>
    exact closed.bind (closed.effectiveOffset i m) fun offset => closed.write i dst offset
  | loadPointer segment dst m => exact closed.loadPointer i segment dst m
  | movzx dst src => exact closed.bind (closed.read i src) fun _ => closed.write i dst _
  | movsx dst src => exact closed.bind (closed.read i src) fun _ => closed.write i dst _
  | xlat segment => exact closed.lookUp segment
  | push src => exact closed.bind (closed.read i src) fun value => closed.push value
  | pop dst => exact closed.bind closed.pop fun value => closed.write i dst value
  | pushf => exact closed.pushFlags
  | popf => exact closed.popFlags
  | pusha => exact closed.bind closed.registers fun _ => closed.pushAll _
  | popa => exact closed.popAll _
  | enter size level => exact closed.enter size _
  | leave => exact closed.leave
  | arith op dst src => exact closed.arith i op dst src
  | unary op dst => exact closed.unary i op dst
  | not dst => exact closed.bind (closed.read i dst) fun _ => closed.write i dst _
  | mul src => exact closed.bind (closed.read i src) fun _ => closed.modifyRegisters _
  | imul src => exact closed.bind (closed.read i src) fun _ => closed.modifyRegisters _
  | imulTo dst a b => exact closed.multiplyTo i dst a b
  | div src => exact closed.divide i _ src
  | idiv src => exact closed.divide i _ src
  | logic op dst src => exact closed.logic i op dst src
  | shift op dst count => exact closed.shift i op dst count
  | sal dst count => exact closed.shift i .shl dst count
  | jump condition distance =>
    exact closed.bind closed.registers fun _ => ite (closed.goBy distance) (closed.pure ())
  | jmp target => exact closed.jump i target
  | call target => exact closed.call i target
  | ret popBytes => exact closed.bind closed.popIp fun _ => closed.modifyRegisters _
  | retf popBytes => exact closed.farReturn popBytes
  | iret =>
    exact closed.bind closed.popIp fun _ => closed.bind closed.popCs fun _ => closed.popFlags
  | jcxz distance =>
    exact closed.bind closed.registers fun _ => ite (closed.goBy distance) (closed.pure ())
  | loop condition distance => exact closed.loop condition distance
  | int vector => exact closed.interrupt wired vector
  | int3 => exact closed.interrupt wired 3
  | into =>
    exact closed.bind closed.registers fun _ => ite (closed.interrupt wired 4) (closed.pure ())
  | input dst port => exact closed.input i wired dst port
  | output port src => exact closed.output i wired port src
  | nop => exact closed.pure ()
  | wait => exact closed.pure ()
  | string op width source again => exact closed.stringInstruction op width source again
  | unsupported mnemonic => exact closed.refuse i
  -- What is left changes registers alone.
  | _ => exact closed.modifyRegisters _

end Instructions

end Compositional

end Exec

end RealMode
