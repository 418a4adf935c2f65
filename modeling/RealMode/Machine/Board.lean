import RealMode.Machine
import RealMode.Machine.PortBus

/-!
# The board

What the processor is wired to: a handler for each software interrupt, devices on ports, and the
segments that belong to native modules. A word on a port is its low byte on that port and its
high byte on the next one.
-/

namespace RealMode

structure Device (σ : Type) where
  read : UInt16 → EStateM Fault σ UInt8
  write : UInt16 → UInt8 → EStateM Fault σ Unit

structure Board (σ : Type) where
  /-- What serves each interrupt. The registers that it leaves are what the caller sees. -/
  handlers : UInt8 → Option (Exec σ Unit)
  ports : PortBus (Device σ)
  imports : List UInt16

namespace Board

variable {σ : Type}

def bare : Board σ := ⟨fun _ => none, .empty, []⟩

/-- The later of two handlers for a vector counts. -/
def withHandler (b : Board σ) (vector : UInt8) (h : Exec σ Unit) : Board σ :=
  { b with handlers := fun v => if v = vector then some h else b.handlers v }

def withDevice (b : Board σ) (first last : UInt16) (d : Device σ) : Except Fault (Board σ) := do
  let ports ← b.ports.attach first last d
  return { b with ports := ports }

/-- Far transfers into `segment` leave the processor. -/
def withImport (b : Board σ) (segment : UInt16) : Board σ :=
  { b with imports := segment :: b.imports }

def imported (b : Board σ) (segment : UInt16) : Bool := b.imports.contains segment

def readPort (b : Board σ) (port : UInt16) : EStateM Fault σ UInt8 :=
  match b.ports.device port with
  | .ok d => d.read port
  | .error e => throw e

def writePort (b : Board σ) (port : UInt16) (value : UInt8) : EStateM Fault σ Unit :=
  match b.ports.device port with
  | .ok d => d.write port value
  | .error e => throw e

def readPortWord (b : Board σ) (port : UInt16) : EStateM Fault σ UInt16 := do
  let low ← b.readPort port
  let high ← b.readPort (port + 1)
  return wordOfBytes low high

def writePortWord (b : Board σ) (port : UInt16) (value : UInt16) : EStateM Fault σ Unit := do
  b.writePort port (lowByte value)
  b.writePort (port + 1) (highByte value)

end Board

/-- The device in a larger host. -/
def Device.within {σ τ : Type} (part : σ → τ) (replace : τ → σ → σ)
    (d : Device τ) : Device σ :=
  let lift {α : Type} (x : EStateM Fault τ α) : EStateM Fault σ α := fun s =>
    match x (part s) with
    | .ok a t => .ok a (replace t s)
    | .error e t => .error e (replace t s)
  { read := fun port => lift (d.read port)
    write := fun port value => lift (d.write port value) }

/-- The board in a larger host. -/
def Board.within {σ τ : Type} (part : σ → τ) (replace : τ → σ → σ) (b : Board τ) :
    Board σ where
  handlers vector := (b.handlers vector).map (Exec.within part replace)
  ports := ⟨b.ports.ranges.map fun r => ⟨r.first, r.last, r.device.within part replace⟩⟩
  imports := b.imports

end RealMode
