import RealMode.NativeModule.Table
import RealMode.Processor

/-!
# Running guest code

A run ticks the processor until it halts, and serves the far calls into modules on the way. A module
may run guest code in turn; the depth counts the runs in progress, and a run inside another gives
the registers back as it found them. A guest need not halt, so a run is given a number of ticks and
says when they did not suffice.
-/

namespace RealMode

structure Running (σ : Type) where
  machine : Machine σ
  /-- Runs in progress. -/
  depth : Nat := 0

inductive Ending (α : Type) where
  | done (a : α)
  | faulted (e : Fault)
  /-- The ticks did not suffice. -/
  | unfinished
deriving DecidableEq

/-- Steps of a run; whatever the ending, the state is kept. -/
def Run (σ α : Type) := Running σ → Ending α × Running σ

namespace Run

variable {σ α β : Type}

protected def pure (a : α) : Run σ α := fun s => (.done a, s)

protected def bind (x : Run σ α) (f : α → Run σ β) : Run σ β := fun s =>
  match x s with
  | (.done a, s) => f a s
  | (.faulted e, s) => (.faulted e, s)
  | (.unfinished, s) => (.unfinished, s)

instance : Monad (Run σ) where
  pure := Run.pure
  bind := Run.bind

def ofExec (x : Exec σ α) : Run σ α := fun s =>
  match x s.machine with
  | .ok a m => (.done a, { s with machine := m })
  | .error e m => (.faulted e, { s with machine := m })

def fault (e : Fault) : Run σ α := fun s => (.faulted e, s)

def registers : Run σ Registers := ofExec Exec.registers

/-- The depth is one more while `x` runs. -/
def deeper (x : Run σ α) : Run σ α := fun s =>
  match x { s with depth := s.depth + 1 } with
  | (ending, s) => (ending, { s with depth := s.depth - 1 })

/-- If other runs are in progress, the registers are put back, whatever the ending. -/
def preserving (x : Run σ α) : Run σ α := fun s =>
  match x s with
  | (ending, s') =>
    if s'.depth = 0 then (ending, s')
    else (ending, { s' with machine := { s'.machine with registers := s.machine.registers } })

end Run

/-- A board and the modules that its imports lead to. -/
structure Wiring (σ : Type) where
  board : Board σ
  modules : ModuleTable σ

namespace Wiring

variable {σ : Type}

/-- Every module's segment is an import. -/
def ofBoard (board : Board σ) (modules : ModuleTable σ) : Wiring σ :=
  ⟨modules.segments.foldl Board.withImport board, modules⟩

open Exec in
/-- Fresh registers at `entry`, the stack values and the far return to the halt sentinel. -/
def prepare (entry : FarPtr) (o : ExecuteOptions) : Exec σ Unit := do
  setRegisters { Registers.reset o.stackPointer with cs := entry.segment, ip := entry.offset }
  Processor.pushAll o.stackValues
  if o.simulateFarCall then
    modifyRegisters fun r => { r with bp := r.sp }
    push FarPtr.haltSentinel.segment
    push FarPtr.haltSentinel.offset
  else return ()

def setStates (channel : UInt16) : List (NativeModule σ) → Run σ Unit
  | [] => return ()
  | m :: ms => do
    Run.ofExec (Exec.onHost (m.setState channel))
    setStates channel ms

/-- One run, where `go` drives the prepared machine. -/
def runFrom (w : Wiring σ) (go : UInt16 → Run σ Unit) (entry : FarPtr) (o : ExecuteOptions) :
    Run σ Registers := do
  Run.ofExec (prepare entry o)
  if o.bypassState then pure () else setStates o.channel w.modules.modules
  go o.channel
  let r ← Run.registers
  match w.modules.primary? with
  | none => pure ()
  | some m =>
    if o.bypassState || !o.stackValues.isEmpty then pure ()
    else Run.ofExec (Exec.onHost (m.updateSession o.channel))
  return r

def executeWith (w : Wiring σ) (go : UInt16 → Run σ Unit) (entry : FarPtr)
    (o : ExecuteOptions) : Run σ Registers :=
  Run.preserving (Run.deeper (w.runFrom go entry o))

/-- Carries a call out, where `execute` runs guest code. -/
def interpret (execute : FarPtr → ExecuteOptions → Run σ Registers) : HostCall σ →
    Run σ ReturnValue
  | .finish (.ok value) => Run.pure value
  | .finish (.error e) => Run.fault e
  | .look k => fun s => interpret execute (k s.machine) s
  | .change f next => fun s => interpret execute next { s with machine := f s.machine }
  | .execute entry o k => fun s =>
    match execute entry o s with
    | (.done r, s) => interpret execute (k (.ok r)) s
    | (.faulted e, s) => interpret execute (k (.error e)) s
    | (.unfinished, s) => (.unfinished, s)

/-- Serves the far call that has arrived at `entry` and returns from it. -/
def externalCall (w : Wiring σ) (go : UInt16 → Run σ Unit) (entry : FarPtr) (channel : UInt16) :
    Run σ Unit :=
  match w.modules.get? entry.segment with
  | none => Run.fault (.unknownModule entry.segment)
  | some m => do
    let value ← interpret (w.executeWith go) (m.invoke channel entry.offset)
    Run.ofExec do
      Exec.modifyRegisters value.store
      Processor.farReturn 0

/-- Ticks until the machine halts, at most `ticks` times. -/
def drive (w : Wiring σ) (ticks : Nat) (channel : UInt16) : Run σ Unit := fun s =>
  match ticks with
  | 0 => (.unfinished, s)
  | n + 1 =>
    match Processor.tick w.board s.machine with
    | .error e m => (.faulted e, { s with machine := m })
    | .ok .halted m => (.done (), { s with machine := m })
    | .ok .executed m => drive w n channel { s with machine := m }
    | .ok (.external entry) m =>
      match w.externalCall (drive w n) entry channel { s with machine := m } with
      | (.done (), s) => drive w n channel s
      | (.faulted e, s) => (.faulted e, s)
      | (.unfinished, s) => (.unfinished, s)

/-- Runs guest code at `entry` until it halts, and gives its last registers. -/
def execute (w : Wiring σ) (ticks : Nat) (entry : FarPtr) (o : ExecuteOptions) :
    Run σ Registers :=
  w.executeWith (w.drive ticks) entry o

/-- Runs from registers that are already set up. -/
def start (w : Wiring σ) (ticks : Nat) (r : Registers) (channel : UInt16) : Run σ Registers := do
  Run.ofExec (Exec.setRegisters r)
  Run.deeper (w.drive ticks channel)
  Run.registers

end Wiring

end RealMode
