import RealMode.Processor
import RealMode.Proofs.DecodeCache

/-!
# What a tick comes to

A tick does nothing, or it fetches an instruction and carries it out under a journal.
-/

namespace RealMode

/-- The registers with IP behind the instruction that it points to. -/
def Registers.past (r : Registers) (i : Instruction) : Registers :=
  { r with ip := r.ip + UInt16.ofNat i.length }

@[simp] theorem Registers.halt_past (r : Registers) (i : Instruction) :
    (r.past i).halt = r.halt := rfl

namespace Processor

open Exec

variable {σ : Type} {board : Board σ} {m m' : Machine σ} {e : Fault}

/-- An instruction with IP moved past it, which is what a tick does as a whole. -/
def carryOut (board : Board σ) (i : Instruction) : Exec σ Unit := do
  goTo i.next
  execute board i

theorem tick_eq (board : Board σ) (m : Machine σ) :
    tick board m =
      if m.registers.halt then .ok .halted m
      else if board.imported m.registers.cs then .ok (.external m.registers.csIp) m
      else
        match m.memory.fetch m.registers.csIp with
        | .error e => .error e m
        | .ok (i, memory) =>
          match carryOut board i { m with memory := memory.beginJournal } with
          | .ok _ m' =>
            .ok (if m'.registers.halt then .halted else .executed)
              { m' with memory := m'.memory.commit }
          | .error e m' =>
            .error e { m' with registers := m.registers, memory := m'.memory.rollback } := by
  have branch {α : Type} (c : Bool) (x y : Exec σ α) :
      (if c then x else y) m = if c then x m else y m := by cases c <;> rfl
  have read (m : Machine σ) : (registers : Exec σ Registers) m = .ok m.registers m := rfl
  simp only [tick, Bind.bind, EStateM.bind, read, Pure.pure, EStateM.pure, branch]
  congr 2
  cases fetched : m.memory.fetch m.registers.csIp with
  | error e => simp only [allocating, fetched]
  | ok r =>
    have whole : (goTo r.1.next).bind (fun _ => execute board r.1) = carryOut board r.1 := rfl
    simp only [allocating, fetched, whole, atomically]
    cases carryOut board r.1 { m with memory := r.2.beginJournal } <;> rfl

/-- A tick faults before it has done anything, or it fetches an instruction and rolls it back. -/
theorem of_tick_error (faulted : tick board m = .error e m') :
    m' = m ∨ ∃ i memory m₁, m.memory.fetch m.registers.csIp = .ok (i, memory) ∧
      carryOut board i { m with memory := memory.beginJournal } = .error e m₁ ∧
      m' = { m₁ with registers := m.registers, memory := m₁.memory.rollback } := by
  rw [tick_eq] at faulted
  split at faulted
  · cases faulted
  split at faulted
  · cases faulted
  split at faulted
  · cases faulted
    exact .inl rfl
  · rename_i i memory fetched
    split at faulted
    · cases faulted
    · rename_i e m₁ ran
      cases faulted
      exact .inr ⟨i, memory, m₁, fetched, ran, rfl⟩

/-- After a tick that says so the machine is halted. -/
theorem halt_of_tick (halted : tick board m = .ok .halted m') : m'.registers.halt = true := by
  rw [tick_eq] at halted
  split at halted
  · rename_i already
    cases halted
    exact already
  split at halted
  · cases halted
  split at halted
  · cases halted
  · split at halted
    · rename_i u m₁ ran
      simp only [EStateM.Result.ok.injEq] at halted
      obtain ⟨result, rfl⟩ := halted
      by_cases stopped : m₁.registers.halt = true
      · exact stopped
      · rw [if_neg stopped] at result
        cases result
    · cases halted

/-- The next tick executes the instruction `i`. -/
structure AtInstruction (board : Board σ) (m : Machine σ) (i : Instruction) : Prop where
  reachable : m.memory.Reachable
  running : m.registers.halt = false
  native : board.imported m.registers.cs = false
  fetched : ∃ memory, m.memory.fetch m.registers.csIp = .ok (i, memory)

namespace AtInstruction

variable {i : Instruction} {memory : Memory}

/-- What the processor is wired to does not matter, as long as no module takes the segment. -/
theorem within {τ : Type} (h : AtInstruction board m i) {board' : Board τ} (host : τ)
    (native : board'.imported m.registers.cs = false) :
    AtInstruction board' ⟨m.registers, m.memory, host⟩ i :=
  ⟨h.reachable, h.running, native, h.fetched⟩

/-- The tick is the instruction itself, with IP behind it. -/
theorem tick_eq (h : AtInstruction board m i)
    (fetched : m.memory.fetch m.registers.csIp = .ok (i, memory)) :
    tick board m =
      match execute board i ⟨m.registers.past i, memory.beginJournal, m.host⟩ with
      | .ok _ m' =>
        .ok (if m'.registers.halt then .halted else .executed)
          { m' with memory := m'.memory.commit }
      | .error e m' =>
        .error e { m' with registers := m.registers, memory := m'.memory.rollback } := by
  have next : i.next = m.registers.ip + UInt16.ofNat i.length := by
    rw [Instruction.next, h.reachable.offset_of_fetch fetched]
    rfl
  rw [Processor.tick_eq, if_neg (by simp [h.running]), if_neg (by simp [h.native]), fetched,
    Registers.past, ← next]
  rfl

end AtInstruction

end Processor

end RealMode
