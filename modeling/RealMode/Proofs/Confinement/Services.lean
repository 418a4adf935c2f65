import RealMode.Pc
import RealMode.Proofs.Confinement.Instructions
import RealMode.Proofs.ServiceRelations

/-!
# The services are confined

DOS writes into memory what a program asks for and keeps a few variables there; the clock writes
registers alone. So the usual board is confined, and so is one with further confined handlers.
-/

namespace RealMode

open Exec

namespace Dos

theorem generous_edits : Generous fun m m' : Machine Dos => m.memory.Edits m'.memory where
  refl m := .refl m.memory
  trans first second := first.trans second
  registers m _ _ _ := .refl m.memory
  written m _ _ _ written := (Memory.Edits.refl m.memory).writeBytes written
  host m _ := .refl m.memory
  named m _ _ _ _ allocated := (Memory.Edits.refl m.memory).allocateVariable allocated
  added m _ _ _ allocated := (Memory.Edits.refl m.memory).allocateSegment allocated

theorem confined_serve (now : Moment) : Confined (serve now) := leaves_serve generous_edits now

end Dos

namespace Board

variable {σ : Type} {board : Board σ}

theorem confined_bare : (bare : Board σ).Confined := by
  intro vector handler served
  cases served

theorem Confined.withHandler (confined : board.Confined) (vector : UInt8) {h : Exec σ Unit}
    (added : Exec.Confined h) : (board.withHandler vector h).Confined := by
  intro v handler served
  simp only [Board.withHandler] at served
  split at served
  · cases served
    exact added
  · exact confined v handler served

end Board

theorem Pc.confined_serveDos : Confined serveDos :=
  .bind .get fun m => .within (Dos.confined_serve m.host.clock.now)

theorem Pc.confined_serveClock : Confined serveClock :=
  .bind .get fun _ => .bind (.ofExcept _) fun r => .setRegisters r

theorem Pc.confined_board : board.Confined := by
  intro vector handler served
  simp only [board] at served
  split at served
  · cases served
    exact .modifyRegisters _
  split at served
  · cases served
    exact confined_serveDos
  split at served
  · cases served
    exact confined_serveClock
  · cases served

end RealMode
