import RealMode.Machine

/-!
# Native modules

A module stands in for a library that a program calls with far calls into the module's segment;
the offset is the number of the function. What the function does is written down as a `HostCall`:
it looks at the machine, changes it, may run guest code and goes on with the outcome, and ends
with a value or a fault.
-/

namespace RealMode

/-- What a function hands back. -/
inductive ReturnValue where
  /-- Registers stay as the function left them. -/
  | nothing
  /-- In AX. -/
  | word (value : UInt16)
  /-- In DX:AX. -/
  | dword (value : UInt32)
deriving DecidableEq, Inhabited

def ReturnValue.ofPointer (p : FarPtr) : ReturnValue := dword p.toDword

def ReturnValue.store (r : Registers) : ReturnValue → Registers
  | nothing => r
  | word value => { r with ax := value }
  | dword value => r.withDxAx value

/-- How guest code is to be entered. -/
structure ExecuteOptions where
  channel : UInt16 := 0
  /-- Leave a far return to the halt sentinel on the stack. -/
  simulateFarCall : Bool := true
  /-- Leave the modules' hooks out. -/
  bypassState : Bool := false
  /-- Pushed in order, the last one on top. -/
  stackValues : List UInt16 := []
  stackPointer : UInt16 := stackTop
deriving DecidableEq, Inhabited

inductive HostCall (σ : Type) where
  | finish (result : Except Fault ReturnValue)
  | look (k : Machine σ → HostCall σ)
  | change (f : Machine σ → Machine σ) (next : HostCall σ)
  /-- Runs guest code; its registers or its fault come back. -/
  | execute (entry : FarPtr) (options : ExecuteOptions) (k : Except Fault Registers → HostCall σ)

/-- A step of the machine; a fault ends the call. -/
def HostCall.step {σ α : Type} (x : Exec σ α) (k : α → HostCall σ) : HostCall σ :=
  look fun m =>
    match x m with
    | .ok a m' => change (fun _ => m') (k a)
    | .error e m' => change (fun _ => m') (finish (.error e))

/-- The word argument with this number, counted from just above the far return address. -/
def Machine.argument {σ : Type} (m : Machine σ) (index : UInt16) : Except Fault UInt16 :=
  m.memory.readWord ⟨m.registers.ss, m.registers.sp + 4 + index * 2⟩

/-- A far pointer in two arguments, the offset first. -/
def Machine.pointerArgument {σ : Type} (m : Machine σ) (index : UInt16) :
    Except Fault FarPtr := do
  let segment ← m.argument (index + 1)
  let offset ← m.argument index
  return ⟨segment, offset⟩

structure NativeModule (σ : Type) where
  name : String
  segment : UInt16
  /-- Called before a run, with the channel. -/
  setState : UInt16 → EStateM Fault σ Unit
  /-- Called with the channel and the function's number. -/
  invoke : UInt16 → UInt16 → HostCall σ
  /-- Called after a run without stack values, if the module is the primary one. -/
  updateSession : UInt16 → EStateM Fault σ Unit

end RealMode
