import RealMode.Proofs.Composition
import RealMode.Proofs.Confinement

/-!
# Instructions are confined

Each primitive is confined and so is a sequence of confined steps, so the instructions
are. What serves the interrupts is taken to be confined; nothing is asked of the devices,
which cannot reach memory.
-/

namespace RealMode

/-- Whatever serves an interrupt changes memory by writes and allocations only. -/
def Board.Confined {σ : Type} (board : Board σ) : Prop :=
  ∀ vector handler, board.handlers vector = some handler → Exec.Confined handler

namespace Processor

open Exec

variable {σ : Type} {board : Board σ}

theorem compositional_confined : Compositional fun α => @Confined σ α where
  pure := .pure
  throw := .throw
  bind := .bind
  registers := .registers
  modifyRegisters := .modifyRegisters
  readByte := .readByte
  readWord := .readWord
  readPointer := .readPointer
  writeBytes := .writeBytes

theorem confined_goTo (offset : UInt16) : Confined (goTo offset : Exec σ Unit) :=
  .modifyRegisters _

theorem confined_execute (i : Instruction) (confined : board.Confined) :
    Confined (execute board i) :=
  compositional_confined.execute i ⟨confined, fun _ => .onHost _, fun _ _ => .onHost _⟩

end Processor

end RealMode
