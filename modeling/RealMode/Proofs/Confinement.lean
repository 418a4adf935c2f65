import RealMode.Machine
import RealMode.Proofs.Journal

/-!
# Confined steps

A step is confined if, whatever its ending, it changes memory by writes and allocations only. Steps
are built from few primitives by sequencing, and each primitive is confined.
-/

namespace RealMode.Exec

variable {σ τ α β : Type}

/-- The machine that a step leaves, whatever its ending. -/
def after (x : Exec σ α) (m : Machine σ) : Machine σ :=
  match x m with
  | .ok _ m' => m'
  | .error _ m' => m'

def Confined (x : Exec σ α) : Prop := ∀ m : Machine σ, m.memory.Edits (after x m).memory

theorem after_of_ok {x : Exec σ α} {m m' : Machine σ} {a : α} (h : x m = .ok a m') :
    after x m = m' := by rw [after, h]

theorem after_of_error {x : Exec σ α} {m m' : Machine σ} {e : Fault} (h : x m = .error e m') :
    after x m = m' := by rw [after, h]

namespace Confined

theorem pure (a : α) : Confined (pure a : Exec σ α) := fun m => .refl m.memory

theorem throw (e : Fault) : Confined (throw e : Exec σ α) := fun m => .refl m.memory

theorem get : Confined (get : Exec σ (Machine σ)) := fun m => .refl m.memory

theorem bind {x : Exec σ α} {f : α → Exec σ β} (hx : Confined x)
    (hf : ∀ a, Confined (f a)) :
    Confined (x >>= f) := by
  intro m
  have first := hx m
  cases ran : x m with
  | ok a m' =>
    rw [after_of_ok ran] at first
    have joined : after (x >>= f) m = after (f a) m' := by
      simp only [after, Bind.bind, EStateM.bind, ran]
    rw [joined]
    exact first.trans (hf a m')
  | error e m' =>
    rw [after_of_error ran] at first
    have stopped : after (x >>= f) m = m' := by
      simp only [after, Bind.bind, EStateM.bind, ran]
    rw [stopped]
    exact first

theorem registers : Confined (registers : Exec σ Registers) := fun m => .refl m.memory

theorem modifyRegisters (f : Registers → Registers) :
    Confined (modifyRegisters f : Exec σ Unit) := fun m => .refl m.memory

theorem setRegisters (r : Registers) : Confined (setRegisters r : Exec σ Unit) :=
  modifyRegisters fun _ => r

theorem reading (f : Memory → Except Fault α) : Confined (reading f : Exec σ α) := by
  intro m
  rw [after, Exec.reading]
  cases f m.memory <;> exact .refl m.memory

theorem changing {f : Memory → Except Fault Memory}
    (edits : ∀ m m', f m = .ok m' → m.Edits m') : Confined (changing f : Exec σ Unit) := by
  intro m
  rw [after, Exec.changing]
  cases changed : f m.memory with
  | ok m' => exact edits m.memory m' changed
  | error e => exact .refl m.memory

theorem onHost (x : EStateM Fault σ α) : Confined (onHost x) := by
  intro m
  rw [after, Exec.onHost]
  cases x m.host <;> exact .refl m.memory

theorem ofExcept (x : Except Fault α) : Confined (ofExcept x : Exec σ α) := by
  intro m
  cases x <;> exact .refl m.memory

/-- A larger host does not matter. -/
theorem within {part : σ → τ} {replace : τ → σ → σ} {x : Exec τ α} (hx : Confined x) :
    Confined (within part replace x) := by
  intro m
  have small := hx ⟨m.registers, m.memory, part m.host⟩
  rw [after] at small
  rw [after, Exec.within]
  cases ran : x ⟨m.registers, m.memory, part m.host⟩ <;> simpa [ran] using small

theorem readByte (p : FarPtr) : Confined (readByte p : Exec σ UInt8) := reading _

theorem readWord (p : FarPtr) : Confined (readWord p : Exec σ UInt16) := reading _

theorem readPointer (p : FarPtr) : Confined (readPointer p : Exec σ FarPtr) := reading _

theorem writeBytes (p : FarPtr) (bytes : List UInt8) :
    Confined (Exec.changing (·.writeBytes p bytes) : Exec σ Unit) :=
  changing fun m _ written => (Memory.Edits.refl m).writeBytes written

theorem writeWord (p : FarPtr) (value : UInt16) : Confined (writeWord p value : Exec σ Unit) :=
  writeBytes p (bytesOfWord value)

end Confined

end RealMode.Exec
