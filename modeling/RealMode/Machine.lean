import RealMode.Memory
import RealMode.Registers

/-!
# The machine

Registers, memory and the host around them: the files, devices and clocks that a program
reaches through interrupts and ports. A step of the machine may end in a fault, and what it has
changed by then stays changed. Only `atomically` puts registers and bytes back; what happened
on the host is never undone.
-/

namespace RealMode

structure Machine (σ : Type) where
  registers : Registers
  memory : Memory
  host : σ

/-- Steps of a machine with host `σ`. -/
abbrev Exec (σ : Type) := EStateM Fault (Machine σ)

namespace Exec

variable {σ α : Type}

def registers : Exec σ Registers := do
  let m ← get
  return m.registers

def modifyRegisters (f : Registers → Registers) : Exec σ Unit :=
  modify fun m => { m with registers := f m.registers }

def setRegisters (r : Registers) : Exec σ Unit := modifyRegisters fun _ => r

/-- Looks at memory. -/
def reading (f : Memory → Except Fault α) : Exec σ α := fun m =>
  match f m.memory with
  | .ok a => .ok a m
  | .error e => .error e m

/-- Changes memory; a fault changes nothing. -/
def changing (f : Memory → Except Fault Memory) : Exec σ Unit := fun m =>
  match f m.memory with
  | .ok memory => .ok () { m with memory := memory }
  | .error e => .error e m

/-- Changes memory and gives a value; a fault changes nothing. -/
def allocating (f : Memory → Except Fault (α × Memory)) : Exec σ α := fun m =>
  match f m.memory with
  | .ok (a, memory) => .ok a { m with memory := memory }
  | .error e => .error e m

/-- A step of the host alone. -/
def onHost (x : EStateM Fault σ α) : Exec σ α := fun m =>
  match x m.host with
  | .ok a host => .ok a { m with host := host }
  | .error e host => .error e { m with host := host }

def ofExcept (x : Except Fault α) : Exec σ α := fun m =>
  match x with
  | .ok a => .ok a m
  | .error e => .error e m

/-- Runs a step of a smaller host, which is a part of this one. -/
def within {τ : Type} (part : σ → τ) (replace : τ → σ → σ) (x : Exec τ α) :
    Exec σ α := fun m =>
  match x ⟨m.registers, m.memory, part m.host⟩ with
  | .ok a m' => .ok a ⟨m'.registers, m'.memory, replace m'.host m.host⟩
  | .error e m' => .error e ⟨m'.registers, m'.memory, replace m'.host m.host⟩

/-- Runs a step under a journal. If it faults, the registers and every byte it wrote are put
back. -/
def atomically (x : Exec σ α) : Exec σ α := fun m =>
  match x { m with memory := m.memory.beginJournal } with
  | .ok a m' => .ok a { m' with memory := m'.memory.commit }
  | .error e m' =>
    .error e { m' with registers := m.registers, memory := m'.memory.rollback }

def readByte (p : FarPtr) : Exec σ UInt8 := reading (·.readByte p)

def readWord (p : FarPtr) : Exec σ UInt16 := reading (·.readWord p)

def readPointer (p : FarPtr) : Exec σ FarPtr := reading (·.readPointer p)

def writeByte (p : FarPtr) (value : UInt8) : Exec σ Unit := changing (·.writeByte p value)

def writeWord (p : FarPtr) (value : UInt16) : Exec σ Unit := changing (·.writeWord p value)

/-- SP is lowered even if the word then cannot be stored. -/
def push (value : UInt16) : Exec σ Unit := do
  modifyRegisters fun r => { r with sp := r.sp - 2 }
  let r ← registers
  writeWord r.ssSp value

def pop : Exec σ UInt16 := do
  let r ← registers
  let value ← readWord r.ssSp
  modifyRegisters fun r => { r with sp := r.sp + 2 }
  return value

end Exec

end RealMode
