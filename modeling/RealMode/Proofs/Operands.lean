import RealMode.Proofs.StackWords

/-!
# Operands that are there

An operand's address is found if the machine has the registers that it names, and then
reading it changes nothing. The instruction pointer is none of them, so it does not
matter that it has moved on.
-/

namespace RealMode

namespace Registers

variable {r : Registers}

/-- What a base or index register adds to an address. -/
def term? (r : Registers) : Option Register → Option UInt16
  | none => some 0
  | some reg => r.read? reg

/-- The address of a memory operand, if all its registers are there. -/
def address? (r : Registers) (o : MemoryOperand) : Option FarPtr := do
  let segment ← r.readSegment? o.segment
  let base ← r.term? o.base
  let index ← r.term? o.index
  return ⟨segment, o.displacement + base + index⟩

/-- An address depends on the registers that operands can name. -/
theorem address?_congr {r' : Registers} (same : ∀ reg, r'.read? reg = r.read? reg)
    (o : MemoryOperand) :
    r'.address? o = r.address? o := by
  have term (reg : Option Register) : r'.term? reg = r.term? reg := by
    cases reg with
    | none => rfl
    | some reg => exact same reg
  have segment : r'.readSegment? o.segment = r.readSegment? o.segment := same (.segment o.segment)
  rw [address?, address?, segment, term, term]

/-- No operand names the instruction pointer. -/
theorem read?_withIp (r : Registers) (ip : UInt16) (reg : Register) :
    { r with ip := ip }.read? reg = r.read? reg := by
  cases reg with
  | byte b => cases b <;> rfl
  | word w => cases w <;> rfl
  | segment s => cases s <;> rfl
  | dword _ => rfl
  | control _ => rfl
  | debug _ => rfl

theorem address?_withIp (r : Registers) (ip : UInt16) (o : MemoryOperand) :
    { r with ip := ip }.address? o = r.address? o := address?_congr (r.read?_withIp ip) o

end Registers

namespace Processor

open Exec

variable {σ : Type} {m : Machine σ}

theorem readRegister_eq_ok (i : Instruction) {reg : Register} {v : UInt16}
    (there : m.registers.read? reg = some v) : readRegister i reg m = .ok v m := by
  rw [readRegister, bind_of_ok (registers_eq_ok m), there]
  rfl

theorem readTerm_eq_ok (i : Instruction) {reg : Option Register} {v : UInt16}
    (there : m.registers.term? reg = some v) : readTerm i reg m = .ok v m := by
  cases reg with
  | none =>
    cases there
    rfl
  | some reg => exact readRegister_eq_ok i there

theorem addressOf_eq_ok (i : Instruction) {o : MemoryOperand} {a : FarPtr}
    (there : m.registers.address? o = some a) : addressOf i o m = .ok a m := by
  simp only [Registers.address?, Option.bind_eq_bind, Option.bind_eq_some_iff] at there
  obtain ⟨segment, segmentRead, base, baseRead, index, indexRead, sum⟩ := there
  cases sum
  have first : readRegister i (.segment o.segment) m = .ok segment m :=
    readRegister_eq_ok i segmentRead
  have second := readTerm_eq_ok (m := m) i baseRead
  have third := readTerm_eq_ok (m := m) i indexRead
  rw [addressOf, bind_of_ok first, effectiveOffset, bind_of_ok (a := o.displacement + base + index)]
  · rfl
  · rw [bind_of_ok second, bind_of_ok third]
    rfl

theorem readFar_eq_ok (i : Instruction) {o : MemoryOperand} {a p : FarPtr}
    (there : m.registers.address? o = some a) (stored : m.memory.readPointer a = .ok p) :
    readFar i o m = .ok p m := by
  have read : (readPointer a : Exec σ FarPtr) m = .ok p m := by
    simp only [readPointer, reading, stored]
  rw [readFar, bind_of_ok (addressOf_eq_ok i there), read]

end Processor

end RealMode
