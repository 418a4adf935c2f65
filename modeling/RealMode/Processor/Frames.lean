import RealMode.Processor.Operands

/-!
# Calls, returns and stack frames

A far call leaves CS and then IP on the stack, an interrupt leaves the flags below them. Returning
to the halt sentinel stops the machine.
-/

namespace RealMode.Processor

open Exec

variable {σ : Type}

def goTo (offset : UInt16) : Exec σ Unit := modifyRegisters fun r => { r with ip := offset }

def goFar (p : FarPtr) : Exec σ Unit :=
  modifyRegisters fun r => { r with cs := p.segment, ip := p.offset }

/-- By a distance from the next instruction, to which IP already points. -/
def goBy (distance : UInt16) : Exec σ Unit :=
  modifyRegisters fun r => { r with ip := r.ip + distance }

/-- Drops bytes from the stack. -/
def drop (bytes : UInt16) : Exec σ Unit := modifyRegisters fun r => { r with sp := r.sp + bytes }

def pushIp : Exec σ Unit := do
  let r ← registers
  push r.ip

def pushCs : Exec σ Unit := do
  let r ← registers
  push r.cs

def popIp : Exec σ Unit := do
  let ip ← pop
  modifyRegisters fun r => { r with ip := ip }

def popCs : Exec σ Unit := do
  let cs ← pop
  modifyRegisters fun r => { r with cs := cs }

def pushFlags : Exec σ Unit := do
  let r ← registers
  push r.flags.pushed

def popFlags : Exec σ Unit := do
  let w ← pop
  modifyRegisters fun r => { r with flags := .ofWord w }

def popRegister (reg : WordRegister) : Exec σ Unit := do
  let value ← pop
  modifyRegisters (·.writeWord reg value)

/-- RETF with the bytes of arguments to drop. -/
def farReturn (popBytes : UInt16) : Exec σ Unit := do
  popIp
  popCs
  drop popBytes
  modifyRegisters fun r => if r.csIp = .haltSentinel then { r with halt := true } else r

def pushAll : List UInt16 → Exec σ Unit
  | [] => return ()
  | value :: values => do
    push value
    pushAll values

/-- Pops into the registers in turn; the place of SP is passed over. -/
def popAll : List WordRegister → Exec σ Unit
  | [] => return ()
  | .sp :: regs => do
    let _ ← pop
    popAll regs
  | reg :: regs => do
    popRegister reg
    popAll regs

/-- Copies the pointers of `n` outer frames, which BP walks down. -/
def copyFrames : Nat → Exec σ Unit
  | 0 => return ()
  | n + 1 => do
    modifyRegisters fun r => { r with bp := r.bp - 2 }
    let r ← registers
    let outer ← readWord ⟨r.ss, r.bp⟩
    push outer
    copyFrames n

/-- ENTER. Levels above 31 wrap. -/
def enter (size : UInt16) (level : Nat) : Exec σ Unit := do
  let r ← registers
  push r.bp
  let framed ← registers
  let frame := framed.sp
  match level with
  | 0 => pure ()
  | n + 1 =>
    copyFrames n
    push frame
  modifyRegisters fun r => { r with bp := frame, sp := r.sp - size }

def leave : Exec σ Unit := do
  modifyRegisters fun r => { r with sp := r.bp }
  popRegister .bp

end RealMode.Processor
