import RealMode.Proofs.Interrupts
import RealMode.Proofs.RepeatedShifts

/-!
# Which flags an instruction may change

Every operation lists the flags that it may change, and its instructions leave all others alone,
whatever their operands are and however often they repeat. The interrupts list all flags, because
the flags that their handler leaves reach the caller.
-/

namespace RealMode

inductive Flag where
  | carry | parity | auxCarry | zero | sign | trap | interrupt | direction | overflow
deriving DecidableEq

namespace Flags

def get (f : Flags) : Flag → Bool
  | .carry => f.carry
  | .parity => f.parity
  | .auxCarry => f.auxCarry
  | .zero => f.zero
  | .sign => f.sign
  | .trap => f.trap
  | .interrupt => f.interrupt
  | .direction => f.direction
  | .overflow => f.overflow

theorem eq_of_get {f f' : Flags} (same : ∀ x, f'.get x = f.get x) : f' = f := by
  have carry := same .carry
  have parity := same .parity
  have auxCarry := same .auxCarry
  have zero := same .zero
  have sign := same .sign
  have trap := same .trap
  have interrupt := same .interrupt
  have direction := same .direction
  have overflow := same .overflow
  cases f
  cases f'
  simp_all only [get]

/-- No flag is different but those that are listed. -/
def OnlyChanges (listed : List Flag) (f f' : Flags) : Prop :=
  ∀ x, x ∉ listed → f'.get x = f.get x

/-- The word of the flags has no other bits. -/
theorem toWord_and_not (f : Flags) : f.toWord &&& ~~~0x0fd5 = 0 := by
  obtain ⟨c, p, a, z, s, t, i, d, o⟩ := f
  revert c p a z s t i d o
  decide +kernel

end Flags

namespace Flag

def arithmetic : List Flag := [.carry, .parity, .auxCarry, .zero, .sign, .overflow]

def all : List Flag :=
  [.carry, .parity, .auxCarry, .zero, .sign, .trap, .interrupt, .direction, .overflow]

end Flag

def UnaryOp.flags : UnaryOp → List Flag
  | inc => [.parity, .auxCarry, .zero, .sign, .overflow]
  | dec => [.parity, .auxCarry, .zero, .sign, .overflow]
  | neg => Flag.arithmetic

def Alu.ShiftOp.flags : Alu.ShiftOp → List Flag
  | .rol => [.carry, .overflow]
  | .ror => [.carry, .overflow]
  | .rcl => [.carry, .overflow]
  | .rcr => [.carry, .overflow]
  | .shl => [.carry, .overflow, .zero, .sign, .parity]
  | .shr => [.carry, .overflow, .zero, .sign, .parity]
  | .sar => [.carry, .overflow, .zero, .sign, .parity]

/-- Only the comparisons look at the difference of two elements. -/
def StringOp.flags : StringOp → List Flag
  | movs => []
  | stos => []
  | lods => []
  | cmps => Flag.arithmetic
  | scas => Flag.arithmetic

/-- The flags that the operation may change. -/
def Operation.flags : Operation → List Flag
  | arith _ _ _ => Flag.arithmetic
  | logic _ _ _ => Flag.arithmetic
  | unary op _ => op.flags
  | mul _ => [.carry, .overflow]
  | imul _ => [.carry, .overflow]
  | imulTo _ _ _ => [.carry, .overflow]
  | shift op _ _ => op.flags
  | sal _ _ => Alu.ShiftOp.shl.flags
  | string op _ _ _ => op.flags
  | sahf => [.carry, .parity, .auxCarry, .zero, .sign]
  | clc => [.carry]
  | stc => [.carry]
  | cmc => [.carry]
  | cld => [.direction]
  | std => [.direction]
  | cli => [.interrupt]
  | sti => [.interrupt]
  | popf => Flag.all
  | iret => Flag.all
  | int _ => Flag.all
  | int3 => Flag.all
  | into => Flag.all
  | _ => []

theorem UnaryOp.flags_subset (op : UnaryOp) : op.flags ⊆ Flag.arithmetic := by cases op <;> decide

theorem Alu.ShiftOp.flags_subset (op : Alu.ShiftOp) : op.flags ⊆ Flag.arithmetic := by
  cases op <;> decide

theorem StringOp.flags_subset (op : StringOp) : op.flags ⊆ Flag.arithmetic := by
  cases op <;> decide

namespace Flags.OnlyChanges

variable {listed : List Flag} {f f' f'' : Flags}

theorem refl (f : Flags) : OnlyChanges listed f f := fun _ _ => rfl

theorem of_eq (same : f' = f) : OnlyChanges listed f f' := fun _ _ => by rw [same]

theorem trans (first : OnlyChanges listed f f') (second : OnlyChanges listed f' f'') :
    OnlyChanges listed f f'' :=
  fun x kept => (second x kept).trans (first x kept)

theorem eq (only : OnlyChanges [] f f') : f' = f := eq_of_get fun x => only x List.not_mem_nil

theorem all (f f' : Flags) : OnlyChanges Flag.all f f' := by
  intro x kept
  exact absurd (by cases x <;> decide) kept

theorem arithmetic (trap : f'.trap = f.trap) (interrupt : f'.interrupt = f.interrupt)
    (direction : f'.direction = f.direction) : OnlyChanges Flag.arithmetic f f' := by
  intro x kept
  cases x with
  | trap => exact trap
  | interrupt => exact interrupt
  | direction => exact direction
  | _ => exact absurd (by decide) kept

/-- INC and DEC keep Carry too. -/
theorem withoutCarry (carry : f'.carry = f.carry) (trap : f'.trap = f.trap)
    (interrupt : f'.interrupt = f.interrupt) (direction : f'.direction = f.direction) :
    OnlyChanges [.parity, .auxCarry, .zero, .sign, .overflow] f f' := by
  intro x kept
  cases x with
  | carry => exact carry
  | trap => exact trap
  | interrupt => exact interrupt
  | direction => exact direction
  | _ => exact absurd (by decide) kept

theorem carryOverflow (f : Flags) (b b' : Bool) :
    OnlyChanges [.carry, .overflow] f { f with carry := b, overflow := b' } := by
  intro x kept
  cases x with
  | carry | overflow => exact absurd (by decide) kept
  | _ => rfl

theorem shift (f : Flags) (w : Width) (op : Alu.ShiftOp) (a : UInt16) (n : UInt8) :
    OnlyChanges op.flags f (Alu.shift f w op a n).flags := by
  by_cases none : n.toNat % 32 = 0
  · rw [Alu.shift_of_zero none]
    exact refl f
  · rw [Alu.shift_of_pos none]
    cases op with
    | rol | ror | rcl | rcr => exact carryOverflow f _ _
    | shl | shr | sar =>
      intro x kept
      cases x with
      | auxCarry | trap | interrupt | direction => rfl
      | _ => exact absurd (by decide) kept

theorem withLowByte (f : Flags) (ah : UInt8) :
    OnlyChanges Operation.sahf.flags f (f.withLowByte ah) := by
  intro x kept
  cases x with
  | trap | interrupt | direction | overflow => rfl
  | _ => exact absurd (by decide) kept

end Flags.OnlyChanges

namespace Registers

variable {r r' : Registers}

theorem flags_write? {reg : Register} {v : UInt16} (written : r.write? reg v = some r') :
    r'.flags = r.flags := by
  cases reg with
  | byte b =>
    cases written
    exact (r.readByte_writeByte b _).2
  | word w =>
    cases written
    cases w <;> rfl
  | segment s => cases s <;> cases written <;> rfl
  | dword _ => cases written
  | control _ => cases written
  | debug _ => cases written

theorem flags_div? {w : Width} {divisor : UInt16} (divided : r.div? w divisor = some r') :
    r'.flags = r.flags := by
  cases w with
  | byte | word =>
    simp only [div?] at divided
    split at divided
    · cases divided
    · cases divided
      rfl

theorem flags_idiv? {w : Width} {divisor : UInt16} (divided : r.idiv? w divisor = some r') :
    r'.flags = r.flags := by
  cases w with
  | byte | word =>
    simp only [idiv?] at divided
    split at divided
    · cases divided
    · cases divided
      rfl

end Registers

namespace Exec

variable {σ α β : Type}

/-- Whatever its ending, the step changes no flag but those that are listed. -/
def Frame (listed : List Flag) (x : Exec σ α) : Prop :=
  Leaves (fun m m' => m.registers.flags.OnlyChanges listed m'.registers.flags) x

namespace Frame

variable {listed : List Flag}

theorem pure (a : α) : Frame listed (pure a : Exec σ α) := fun m => .refl m.registers.flags

theorem throw (e : Fault) : Frame listed (throw e : Exec σ α) := fun m => .refl m.registers.flags

theorem registers : Frame listed (Exec.registers : Exec σ Registers) :=
  fun m => .refl m.registers.flags

theorem of_ok {x : Exec σ α} {m m' : Machine σ} {a : α} (frame : Frame listed x)
    (ran : x m = .ok a m') : m.registers.flags.OnlyChanges listed m'.registers.flags := by
  have changes := frame m
  rwa [after_of_ok ran] at changes

theorem bind {x : Exec σ α} {f : α → Exec σ β} (first : Frame listed x)
    (rest : ∀ a, Frame listed (f a)) :
    Frame listed (x >>= f) := Leaves.bind first .trans rest

theorem ite {c : Prop} [Decidable c] {x y : Exec σ α} (left : Frame listed x)
    (right : Frame listed y) : Frame listed (if c then x else y) := by
  split
  · exact left
  · exact right

theorem modify {f : Registers → Registers}
    (changes : ∀ r : Registers, r.flags.OnlyChanges listed (f r).flags) :
    Frame listed (modifyRegisters f : Exec σ Unit) := fun m => changes m.registers

/-- The registers change, but not the flags. -/
theorem keep (f : Registers → Registers) (same : ∀ r, (f r).flags = r.flags) :
    Frame listed (modifyRegisters f : Exec σ Unit) := modify fun r => .of_eq (same r)

/-- What comes next knows which flags there are. -/
theorem linked {f : Registers → Exec σ α}
    (rest : ∀ m : Machine σ,
      m.registers.flags.OnlyChanges listed (after (f m.registers) m).registers.flags) :
    Frame listed (Exec.registers >>= f) := rest

theorem reading (f : Memory → Except Fault α) : Frame listed (reading f : Exec σ α) := by
  intro m
  rw [after, Exec.reading]
  cases f m.memory <;> exact .refl _

theorem changing (f : Memory → Except Fault Memory) :
    Frame listed (changing f : Exec σ Unit) := by
  intro m
  rw [after, Exec.changing]
  cases f m.memory <;> exact .refl _

theorem onHost (x : EStateM Fault σ α) : Frame listed (onHost x) := by
  intro m
  rw [after, Exec.onHost]
  cases x m.host <;> exact .refl _

theorem readWord (p : FarPtr) : Frame listed (readWord p : Exec σ UInt16) := reading _

theorem writeWord (p : FarPtr) (value : UInt16) :
    Frame listed (writeWord p value : Exec σ Unit) := changing _

theorem push (value : UInt16) : Frame listed (push value : Exec σ Unit) :=
  bind (keep _ fun _ => rfl) fun _ => bind registers fun _ => writeWord _ value

theorem pop : Frame listed (pop : Exec σ UInt16) :=
  bind registers fun _ => bind (readWord _) fun _ => bind (keep _ fun _ => rfl) fun _ => pure _

section Operands

open Processor

variable (i : Instruction) (o : Operand) (p : FarPtr) (w : Width) (v : UInt16)

theorem refuse : Frame listed (refuse i : Exec σ α) := bind registers fun _ => throw _

theorem readRegister (reg : Register) : Frame listed (readRegister i reg : Exec σ UInt16) := by
  refine bind registers fun r => ?_
  cases r.read? reg with
  | some value => exact pure value
  | none => exact refuse i

theorem writeRegister (reg : Register) : Frame listed (writeRegister i reg v : Exec σ Unit) := by
  refine linked fun m => ?_
  cases written : m.registers.write? reg v with
  | some r => exact .of_eq (Registers.flags_write? written)
  | none => exact refuse i m

theorem readTerm (reg : Option Register) : Frame listed (readTerm i reg : Exec σ UInt16) := by
  cases reg with
  | none => exact pure 0
  | some reg => exact readRegister i reg

theorem effectiveOffset (mo : MemoryOperand) :
    Frame listed (effectiveOffset i mo : Exec σ UInt16) :=
  bind (readTerm i mo.base) fun _ => bind (readTerm i mo.index) fun _ => pure _

theorem addressOf (mo : MemoryOperand) : Frame listed (addressOf i mo : Exec σ FarPtr) :=
  bind (readRegister i _) fun _ => bind (effectiveOffset i mo) fun _ => pure _

theorem readCell : Frame listed (readCell p w : Exec σ UInt16) := by
  cases w with
  | byte => exact bind (reading (·.readByte p)) fun _ => pure _
  | word => exact readWord p

theorem writeCell : Frame listed (writeCell p w v : Exec σ Unit) := by
  cases w with
  | byte => exact changing (·.writeByte p (lowByte v))
  | word => exact writeWord p v

theorem read : Frame listed (read i o : Exec σ UInt16) := by
  cases o with
  | register reg => exact readRegister i reg
  | memory mo => exact bind (addressOf i mo) fun p => readCell p _
  | immediate w value => exact pure value
  | wide value => exact refuse i

theorem write : Frame listed (write i o v : Exec σ Unit) := by
  cases o with
  | register reg => exact writeRegister i v reg
  | memory mo => exact bind (addressOf i mo) fun p => writeCell p _ v
  | immediate w constant => exact refuse i
  | wide constant => exact refuse i

theorem readFar (mo : MemoryOperand) : Frame listed (readFar i mo : Exec σ FarPtr) :=
  bind (addressOf i mo) fun p => reading (·.readPointer p)

/-- The flags are set, and the rest of the instruction keeps to the same list. -/
theorem setFlags {f : Registers → Flags} {rest : Registers → Exec σ α}
    (changes : ∀ r : Registers, r.flags.OnlyChanges listed (f r))
    (others : ∀ r, Frame listed (rest r)) :
    Frame listed (Exec.registers >>= fun r => setFlags (f r) >>= fun _ => rest r) :=
  linked fun m => (changes m.registers).trans (others m.registers _)

end Operands

section Stack

open Processor

theorem pushCs : Frame listed (pushCs : Exec σ Unit) := bind registers fun _ => push _

theorem pushIp : Frame listed (pushIp : Exec σ Unit) := bind registers fun _ => push _

theorem pushFlags : Frame listed (pushFlags : Exec σ Unit) := bind registers fun _ => push _

theorem popIp : Frame listed (popIp : Exec σ Unit) := bind pop fun _ => keep _ fun _ => rfl

theorem popCs : Frame listed (popCs : Exec σ Unit) := bind pop fun _ => keep _ fun _ => rfl

theorem drop (bytes : UInt16) : Frame listed (drop bytes : Exec σ Unit) := keep _ fun _ => rfl

theorem popRegister (reg : WordRegister) : Frame listed (popRegister reg : Exec σ Unit) :=
  bind pop fun _ => keep _ fun _ => by cases reg <;> rfl

theorem farReturn (popBytes : UInt16) : Frame listed (farReturn popBytes : Exec σ Unit) :=
  bind popIp fun _ => bind popCs fun _ => bind (drop popBytes) fun _ => keep _ fun r => by
    split <;> rfl

theorem pushAll (values : List UInt16) : Frame listed (pushAll values : Exec σ Unit) := by
  induction values with
  | nil => exact pure ()
  | cons value values ih => exact bind (push value) fun _ => ih

theorem popAll (regs : List WordRegister) : Frame listed (popAll regs : Exec σ Unit) := by
  induction regs with
  | nil => exact pure ()
  | cons reg regs ih =>
    cases reg with
    | sp => exact bind pop fun _ => ih
    | _ => exact bind (popRegister _) fun _ => ih

theorem copyFrames (n : Nat) : Frame listed (copyFrames n : Exec σ Unit) := by
  induction n with
  | zero => exact pure ()
  | succ n ih =>
    exact bind (keep _ fun _ => rfl) fun _ => bind registers fun _ => bind (readWord _) fun _ =>
      bind (push _) fun _ => ih

theorem enter (size : UInt16) (level : Nat) : Frame listed (enter size level : Exec σ Unit) := by
  refine bind registers fun r => bind (push r.bp) fun _ => bind registers fun framed => ?_
  have done :
      Frame listed
        (modifyRegisters fun r => { r with bp := framed.sp, sp := r.sp - size } : Exec σ Unit) :=
    keep _ fun _ => rfl
  cases level with
  | zero => exact done
  | succ n => exact bind (copyFrames n) fun _ => bind (push _) fun _ => done

theorem leave : Frame listed (leave : Exec σ Unit) :=
  bind (keep _ fun _ => rfl) fun _ => popRegister .bp

theorem pushFrame : Frame listed (pushFrame : Exec σ Unit) :=
  bind pushFlags fun _ => bind pushCs fun _ => pushIp

theorem popFrame : Frame listed (popFrame : Exec σ Unit) :=
  bind popIp fun _ => bind popCs fun _ => drop 2

end Stack

section Strings

open Processor

variable (op : StringOp) (w : Width) (segment : UInt16)

theorem stringElement : Frame op.flags (stringElement op w segment : Exec σ Unit) := by
  refine bind registers fun r => ?_
  cases op with
  | movs =>
    exact bind (readCell _ w) fun _ => bind (writeCell _ w _) fun _ =>
      bind (keep _ fun _ => rfl) fun _ =>
      keep _ fun _ => rfl
  | stos => exact bind (writeCell _ w _) fun _ => keep _ fun _ => rfl
  | lods =>
    exact bind (readCell _ w) fun _ => bind (keep _ fun _ => by cases w <;> rfl) fun _ =>
      keep _ fun _ => rfl
  | cmps =>
    exact bind (readCell _ w) fun _ => bind (readCell _ w) fun _ =>
      bind (modify fun _ => .arithmetic rfl rfl rfl) fun _ => bind (keep _ fun _ => rfl) fun _ =>
        keep _ fun _ => rfl
  | scas =>
    exact bind (readCell _ w) fun _ => bind (modify fun _ => .arithmetic rfl rfl rfl) fun _ =>
      keep _ fun _ => rfl

/-- By induction on the elements. -/
theorem stringRepeat (again : Repeat) (n : Nat) :
    Frame op.flags (stringRepeat op w segment again n : Exec σ Unit) := by
  induction n with
  | zero => exact pure ()
  | succ n ih =>
    exact bind (stringElement op w segment) fun _ => bind (keep _ fun _ => rfl) fun _ =>
      bind registers fun _ => ite ih (pure ())

theorem stringInstruction (source : SegmentRegister) (again : Option Repeat) :
    Frame op.flags (stringInstruction op w source again : Exec σ Unit) := by
  refine bind registers fun r => ?_
  cases again with
  | none => exact stringElement op w _
  | some again => exact stringRepeat op w _ again _

end Strings

section Instructions

open Processor

variable (i : Instruction)

theorem arith (op : ArithOp) (dst src : Operand) :
    Frame Flag.arithmetic (arith i op dst src : Exec σ Unit) := by
  refine bind (read i dst) fun a => bind (read i src) fun b => ?_
  cases op with
  | cmp => exact setFlags (fun _ => .arithmetic rfl rfl rfl) fun _ => pure ()
  | _ => exact setFlags (fun _ => .arithmetic rfl rfl rfl) fun _ => write i dst _

theorem logic (op : LogicOp) (dst src : Operand) :
    Frame Flag.arithmetic (logic i op dst src : Exec σ Unit) := by
  refine bind (read i dst) fun a => bind (read i src) fun b => ?_
  cases op with
  | test => exact setFlags (fun _ => .arithmetic rfl rfl rfl) fun _ => pure ()
  | _ => exact setFlags (fun _ => .arithmetic rfl rfl rfl) fun _ => write i dst _

theorem unary (op : UnaryOp) (dst : Operand) : Frame op.flags (unary i op dst : Exec σ Unit) := by
  refine bind (read i dst) fun a => ?_
  cases op with
  | neg => exact setFlags (fun _ => .arithmetic rfl rfl rfl) fun _ => write i dst _
  | inc | dec => exact setFlags (fun _ => .withoutCarry rfl rfl rfl rfl) fun _ => write i dst _

theorem shift (op : Alu.ShiftOp) (dst count : Operand) :
    Frame op.flags (shift i op dst count : Exec σ Unit) :=
  bind (read i dst) fun _ => bind (read i count) fun _ =>
    setFlags (fun r => .shift r.flags _ op _ _) fun _ =>
    write i dst _

theorem multiplyTo (dst a b : Operand) :
    Frame [.carry, .overflow] (multiplyTo i dst a b : Exec σ Unit) :=
  bind (read i a) fun _ => bind (read i b) fun _ =>
    bind (modify fun r => .carryOverflow r.flags _ _) fun _ =>
    write i dst _

theorem divide {div? : Registers → Width → UInt16 → Option Registers} (src : Operand)
    (same : ∀ {r r' w divisor}, div? r w divisor = some r' → r'.flags = r.flags) :
    Frame listed (divide i div? src : Exec σ Unit) := by
  refine bind (read i src) fun divisor => linked fun m => ?_
  cases divided : div? m.registers src.width divisor with
  | some r => exact .of_eq (same divided)
  | none => exact throw _ m

theorem exchange (a b : Operand) : Frame listed (exchange i a b : Exec σ Unit) :=
  bind (read i a) fun _ => bind (read i b) fun _ => bind (write i a _) fun _ => write i b _

theorem loadPointer (segment : PointerSegment) (dst : Operand) (mo : MemoryOperand) :
    Frame listed (loadPointer i segment dst mo : Exec σ Unit) := by
  refine bind (readFar i mo) fun p => bind (write i dst p.offset) fun _ => ?_
  cases segment <;> exact keep _ fun _ => rfl

theorem goTo (offset : UInt16) : Frame listed (goTo offset : Exec σ Unit) := keep _ fun _ => rfl

theorem goBy (distance : UInt16) : Frame listed (goBy distance : Exec σ Unit) :=
  keep _ fun _ => rfl

theorem goFar (p : FarPtr) : Frame listed (goFar p : Exec σ Unit) := keep _ fun _ => rfl

theorem jump (target : Target) : Frame listed (jump i target : Exec σ Unit) := by
  cases target with
  | far p => exact goFar p
  | farThrough mo => exact bind (readFar i mo) fun p => goFar p
  | relative distance => exact goBy distance
  | near o => exact bind (read i o) fun offset => goTo offset

theorem callFar (p : FarPtr) : Frame listed (callFar p : Exec σ Unit) :=
  bind pushCs fun _ => bind pushIp fun _ => goFar p

theorem call (target : Target) : Frame listed (call i target : Exec σ Unit) := by
  cases target with
  | far p => exact callFar p
  | farThrough mo => exact bind (readFar i mo) fun p => callFar p
  | relative distance => exact bind pushIp fun _ => goBy distance
  | near o => exact bind (read i o) fun offset => bind pushIp fun _ => goTo offset

theorem loop (condition : LoopCondition) (distance : UInt16) :
    Frame listed (loop condition distance : Exec σ Unit) :=
  bind (keep _ fun _ => rfl) fun _ => bind registers fun _ => ite (goBy distance) (pure ())

theorem input (board : Board σ) (dst port : Operand) : Frame listed (input board i dst port) := by
  refine bind (read i port) fun p => ?_
  cases dst.width with
  | byte => exact bind (onHost _) fun _ => keep _ fun _ => rfl
  | word => exact bind (onHost _) fun _ => keep _ fun _ => rfl

theorem output (board : Board σ) (port src : Operand) :
    Frame listed (output board i port src) := by
  refine bind (read i port) fun p => bind (read i src) fun value => ?_
  cases src.width with
  | byte => exact onHost _
  | word => exact onHost _

/-- One case for each operation. -/
theorem execute (board : Board σ) : Frame i.operation.flags (execute board i) := by
  rw [Processor.execute]
  cases i.operation with
  | mov dst src => exact bind (read i src) fun value => write i dst value
  | xchg a b => exact exchange i a b
  | lea dst mo => exact bind (effectiveOffset i mo) fun offset => write i dst offset
  | loadPointer segment dst mo => exact loadPointer i segment dst mo
  | movzx dst src => exact bind (read i src) fun _ => write i dst _
  | movsx dst src => exact bind (read i src) fun _ => write i dst _
  | xlat segment => exact bind registers fun _ => bind (reading _) fun _ => keep _ fun _ => rfl
  | sahf => exact modify fun r => .withLowByte r.flags r.ah
  | push src => exact bind (read i src) fun value => push value
  | pop dst => exact bind pop fun value => write i dst value
  | pushf => exact pushFlags
  | pusha => exact bind registers fun _ => pushAll _
  | popa => exact popAll _
  | enter size level => exact enter size _
  | leave => exact leave
  | arith op dst src => exact arith i op dst src
  | unary op dst => exact unary i op dst
  | not dst => exact bind (read i dst) fun _ => write i dst _
  | mul src =>
    exact bind (read i src) fun _ => modify fun r => by
      cases src.width <;> exact .carryOverflow r.flags _ _
  | imul src =>
    exact bind (read i src) fun _ => modify fun r => by
      cases src.width <;> exact .carryOverflow r.flags _ _
  | imulTo dst a b => exact multiplyTo i dst a b
  | div src => exact divide i src Registers.flags_div?
  | idiv src => exact divide i src Registers.flags_idiv?
  | logic op dst src => exact logic i op dst src
  | shift op dst count => exact shift i op dst count
  | sal dst count => exact shift i .shl dst count
  | jump condition distance => exact bind registers fun _ => ite (goBy distance) (pure ())
  | jmp target => exact jump i target
  | call target => exact call i target
  | ret popBytes => exact bind popIp fun _ => drop popBytes
  | retf popBytes => exact farReturn popBytes
  | jcxz distance => exact bind registers fun _ => ite (goBy distance) (pure ())
  | loop condition distance => exact loop condition distance
  | input dst port => exact input i board dst port
  | output port src => exact output i board port src
  | nop => exact pure ()
  | wait => exact pure ()
  | string op width source again => exact stringInstruction op width source again
  | unsupported mnemonic => exact refuse i
  | popf | iret | int _ | int3 | into => exact fun m => .all m.registers.flags _
  | lahf | cbw | cwd | hlt => exact keep _ fun _ => rfl
  | clc | stc | cmc | cld | std | cli | sti =>
    refine modify fun r x kept => ?_
    cases x <;> first | rfl | exact absurd (by decide) kept

end Instructions

end Frame

end Exec

namespace Processor

open Exec

variable {σ : Type} {board : Board σ} {m m' : Machine σ} {i : Instruction} {result : StepResult}

/-- What changes a flag that arithmetic does not compute: POPF and IRET, the handler of an
interrupt, and the instructions that are there to set and clear the flag. -/
inductive Controls (f : Flags) : Operation → Flag → Prop
  | popf (x : Flag) : Controls f .popf x
  | iret (x : Flag) : Controls f .iret x
  | handler {o : Operation} {vector : UInt8} (raises : Raises f o vector) (x : Flag) :
      Controls f o x
  | cld : Controls f .cld .direction
  | std : Controls f .std .direction
  | cli : Controls f .cli .interrupt
  | sti : Controls f .sti .interrupt

theorem controls_of_mem {f : Flags} {o : Operation} {x : Flag} (listed : x ∈ o.flags)
    (other : x ∉ Flag.arithmetic) (raised : o = .into → f.overflow = true) :
    Controls f o x := by
  have among {s : List Flag} (within : s ⊆ Flag.arithmetic) (inside : x ∈ s) : False :=
    other (within inside)
  cases o with
  | popf => exact .popf x
  | iret => exact .iret x
  | int vector => exact .handler (.int vector) x
  | int3 => exact .handler .int3 x
  | into => exact .handler (.into (raised rfl)) x
  | cld =>
    cases List.mem_singleton.1 listed
    exact .cld
  | std =>
    cases List.mem_singleton.1 listed
    exact .std
  | cli =>
    cases List.mem_singleton.1 listed
    exact .cli
  | sti =>
    cases List.mem_singleton.1 listed
    exact .sti
  | arith _ _ _ | logic _ _ _ => exact absurd listed other
  | unary op _ => exact (among op.flags_subset listed).elim
  | shift op _ _ => exact (among op.flags_subset listed).elim
  | sal _ _ => exact (among (Alu.ShiftOp.flags_subset .shl) listed).elim
  | string op _ _ _ => exact (among op.flags_subset listed).elim
  | mul _ | imul _ | imulTo _ _ _ =>
    exact (among (s := [.carry, .overflow]) (by decide) listed).elim
  | clc | stc | cmc => exact (among (s := [.carry]) (by decide) listed).elim
  | sahf => exact (among (s := [.carry, .parity, .auxCarry, .zero, .sign]) (by decide) listed).elim
  | _ => exact absurd listed List.not_mem_nil

namespace AtInstruction

/-- A count that is a multiple of 32 sets the flags that there are. -/
theorem flags_of_shift {op : Alu.ShiftOp} {dst count : Operand} (h : AtInstruction board m i)
    (ticked : tick board m = .ok result m') (shifts : Shifts op dst count i.operation) :
    ∃ n, read i count m = .ok n m ∧
      ((lowByte n).toNat % 32 = 0 → m'.registers.flags = m.registers.flags) := by
  obtain ⟨opened, left, alike, ran, seen⟩ := h.of_ticked ticked
  rw [execute_shift board shifts] at ran
  obtain ⟨a, opened', found, rest⟩ := of_bind_ok ran
  obtain rfl := of_read_ok found
  obtain ⟨n, opened'', counted, last⟩ := of_bind_ok rest
  obtain rfl := of_read_ok counted
  refine ⟨n, read_before_opened alike counted, ?_⟩
  intro none
  have settled : Frame [] (registers >>= fun r =>
      setFlags (Alu.shift r.flags dst.width op a (lowByte n)).flags >>= fun _ =>
        write i dst (Alu.shift r.flags dst.width op a (lowByte n)).value : Exec σ Unit) :=
    Frame.setFlags (fun r => .of_eq (by rw [Alu.shift_of_zero none])) fun _ => Frame.write i dst _
  rw [seen.registers, (settled.of_ok last).eq, alike.registers]
  rfl

/-- The handler enters with the flags of the caller, who goes on with those that it leaves. -/
theorem flags_of_interrupt {vector : UInt8} (h : AtInstruction board m i)
    (ticked : tick board m = .ok result m') (raises : Raises m.registers.flags i.operation vector) :
    ∃ handler, ∃ seen left : Machine σ, board.handlers vector = some handler ∧
      seen.registers.flags = m.registers.flags ∧ handler seen = .ok () left ∧
      m'.registers.flags = left.registers.flags := by
  obtain ⟨⟨registers, memory, host⟩, left, alike, ran, after⟩ := h.of_ticked ticked
  obtain rfl : registers = m.registers.past i := alike.registers
  rw [raises.execute_eq] at ran
  cases served : board.handlers vector with
  | none =>
    rw [interrupt, served] at ran
    cases ran
  | some handler =>
    rw [interrupt_eq served] at ran
    obtain ⟨_, seen, pushed, rest⟩ := of_bind_ok ran
    obtain ⟨_, handled, handles, popped⟩ := of_bind_ok rest
    have before := (Frame.pushFrame.of_ok pushed).eq
    have behind := (Frame.popFrame.of_ok popped).eq
    exact ⟨handler, seen, handled, rfl, before, handles, by rw [after.registers, behind]⟩

theorem flags_of_into (h : AtInstruction board m i) (ticked : tick board m = .ok result m')
    (asks : i.operation = .into) (clear : m.registers.flags.overflow = false) :
    m'.registers.flags = m.registers.flags := by
  obtain ⟨m₁, passed, alike⟩ := h.passed asks clear
  cases passed.symm.trans ticked
  rw [alike.registers]
  rfl

end AtInstruction

/-- An instruction that is carried out changes no flags but those that its operation lists. A shift
by a multiple of 32 changes none, and INTO changes none where Overflow is clear. An interrupt's
handler is entered with the flags of the caller, and what it leaves is what the caller goes on with.
So Trap, Interrupt and Direction are up to POPF, IRET, such handlers and the instructions that are
there to set and clear them. The word of the flags has no bit but those nine. -/
theorem flags_change_as_listed (h : AtInstruction board m i)
    (ticked : tick board m = .ok result m') :
    m.registers.flags.OnlyChanges i.operation.flags m'.registers.flags ∧
    (∀ op dst count, Shifts op dst count i.operation →
      ∃ n, read i count m = .ok n m ∧
        ((lowByte n).toNat % 32 = 0 → m'.registers.flags = m.registers.flags)) ∧
    (∀ vector, Raises m.registers.flags i.operation vector →
      ∃ handler, ∃ seen left : Machine σ, board.handlers vector = some handler ∧
        seen.registers.flags = m.registers.flags ∧ handler seen = .ok () left ∧
        m'.registers.flags = left.registers.flags) ∧
    (∀ x ∈ [Flag.trap, .interrupt, .direction],
      m'.registers.flags.get x ≠ m.registers.flags.get x →
        Controls m.registers.flags i.operation x) ∧
    (i.operation = .into → m.registers.flags.overflow = false →
      m'.registers.flags = m.registers.flags) ∧
    m'.registers.flags.toWord &&& ~~~0x0fd5 = 0 := by
  have only : m.registers.flags.OnlyChanges i.operation.flags m'.registers.flags := by
    obtain ⟨opened, left, alike, ran, seen⟩ := h.of_ticked ticked
    have changes := (Frame.execute i board).of_ok ran
    rw [alike.registers, ← seen.registers] at changes
    exact changes
  refine ⟨only, ?_, ?_, ?_, ?_, m'.registers.flags.toWord_and_not⟩
  · intro op dst count shifts
    exact h.flags_of_shift ticked shifts
  · intro vector raises
    exact h.flags_of_interrupt ticked raises
  · intro x special differs
    have listed : x ∈ i.operation.flags := by
      by_contra kept
      exact differs (only x kept)
    have others : ∀ x ∈ [Flag.trap, .interrupt, .direction], x ∉ Flag.arithmetic := by decide
    refine controls_of_mem listed (others x special) ?_
    intro asks
    by_contra clear
    exact differs (congrArg (·.get x) (h.flags_of_into ticked asks (by simpa using clear)))
  · intro asks clear
    exact h.flags_of_into ticked asks clear

/-- SHL AX, CL and then INC AX -/
def flagsCode : List UInt8 := [0xd3, 0xe0, 0x40]

/-- The code is in segment 2, the greatest word in AX, and every flag is set. -/
def flagged (ip cx : UInt16) : Registers where
  cs := 2
  ip := ip
  ax := 0xffff
  cx := cx
  flags := .ofWord 0xffff

/-- A shift by 32 keeps all nine flags. The word after the greatest one is zero, and still
Carry is what it was. -/
theorem flags_kept :
    ∃ memory m₁ m₂,
      let start (ip cx : UInt16) : Machine Unit := ⟨flagged ip cx, memory, ()⟩
      tick .bare (start 0 32) = .ok .executed m₁ ∧ m₁.registers.flags = .ofWord 0xffff ∧
      tick .bare (start 2 0) = .ok .executed m₂ ∧ m₂.registers.ax = 0 ∧
        m₂.registers.flags.overflow = false ∧
        m₂.registers.flags.carry = true ∧ m₂.registers.flags.trap = true := by
  let shl : Instruction := ⟨0, 2, .shift .shl (.register (.word .ax)) (.register (.byte .cl))⟩
  let inc : Instruction := ⟨2, 1, .unary .inc (.register (.word .ax))⟩
  obtain ⟨memory, memory₁, memory₂, m₁, m₂, added, fetched₁, fetched₂, ticked₁,
      ticked₂, zero, overflow⟩ :
      ∃ memory memory₁ memory₂ m₁ m₂,
        Memory.fresh.addSegment 2 .code flagsCode = .ok memory ∧
        memory.fetch ⟨2, 0⟩ = .ok (shl, memory₁) ∧
        memory.fetch ⟨2, 2⟩ = .ok (inc, memory₂) ∧
        tick .bare ⟨flagged 0 32, memory, ()⟩ = .ok .executed m₁ ∧
        tick .bare ⟨flagged 2 0, memory, ()⟩ = .ok .executed m₂ ∧
        m₂.registers.ax = 0 ∧ m₂.registers.flags.overflow = false :=
    ⟨_, _, _, _, _, rfl, rfl, rfl, rfl, rfl, rfl, rfl⟩
  have reachable : memory.Reachable := .addSegment .fresh added
  have atShl : AtInstruction .bare ⟨flagged 0 32, memory, ()⟩ shl :=
    ⟨reachable, rfl, rfl, memory₁, fetched₁⟩
  have atInc : AtInstruction .bare ⟨flagged 2 0, memory, ()⟩ inc :=
    ⟨reachable, rfl, rfl, memory₂, fetched₂⟩
  obtain ⟨-, shifted, -⟩ := flags_change_as_listed atShl ticked₁
  obtain ⟨n, counted, kept⟩ :=
    shifted .shl (.register (.word .ax)) (.register (.byte .cl)) .shift
  cases counted
  have whole : (lowByte ((flagged 0 32).readByte .cl).toUInt16).toNat % 32 = 0 := by decide
  obtain ⟨increased, -⟩ := flags_change_as_listed atInc ticked₂
  exact ⟨memory, m₁, m₂, ticked₁, kept whole, ticked₂, zero, overflow,
    increased .carry (by decide), increased .trap (by decide)⟩

end Processor

end RealMode
