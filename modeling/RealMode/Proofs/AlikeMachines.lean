import RealMode.Proofs.Allocations
import RealMode.Proofs.Operands
import RealMode.Proofs.Places
import RealMode.Proofs.Tick

/-!
# Machines that look alike

Fetching an instruction and opening a journal change nothing that a program can see. Machines that
differ in no more read their operands alike, so what a tick comes to is settled by what its
instruction does on any such machine.
-/

namespace RealMode

namespace Memory

variable {m m' : Memory} {p q : FarPtr}

theorem readByte_eq_error (unmapped : m.hasSegment q.segment = false) :
    m.readByte q = .error (.segmentNotFound q.segment) := by
  rw [readByte, segmentAt, hasSegment_eq_false_iff.1 unmapped]
  rfl

/-- Where the same segments are there, bytes need to be compared in these only. -/
theorem SameAllocations.readByte (same : m.SameAllocations m')
    (kept : m.hasSegment q.segment = true → m'.readByte q = m.readByte q) :
    m'.readByte q = m.readByte q := by
  cases mapped : m.hasSegment q.segment with
  | true => exact kept mapped
  | false => rw [readByte_eq_error mapped, readByte_eq_error ((same.hasSegment _).trans mapped)]

/-- Words are made of bytes, so the same bytes make the same words. -/
theorem readWord_of_bytes (bytes : ∀ q, m'.readByte q = m.readByte q) {v : UInt16}
    (stored : m.readWord p = .ok v) :
    m'.readWord p = .ok v :=
  readWord_congr (maps_of_readWord stored).2 (bytes p) (bytes ⟨p.segment, p.offset + 1⟩) stored

end Memory

theorem Registers.read?_past (r : Registers) (i : Instruction) (reg : Register) :
    (r.past i).read? reg = r.read? reg := r.read?_withIp _ reg

theorem Registers.address?_past (r : Registers) (i : Instruction) (o : MemoryOperand) :
    (r.past i).address? o = r.address? o := r.address?_withIp _ o

/-- The registers that an operand names. -/
def Operand.registers : Operand → List Register
  | register reg => [reg]
  | memory o => .segment o.segment :: (o.base.toList ++ o.index.toList)
  | immediate _ _ => []
  | wide _ => []

theorem Registers.address?_of_named {r r' : Registers} {o : MemoryOperand}
    (named : ∀ reg ∈ (Operand.memory o).registers, r'.read? reg = r.read? reg) :
    r'.address? o = r.address? o := by
  have term (reg : Option Register) (inside : ∀ x ∈ reg.toList, r'.read? x = r.read? x) :
      r'.term? reg = r.term? reg := by
    cases reg with
    | none => rfl
    | some reg => exact inside reg (by simp)
  have segment : r'.readSegment? o.segment = r.readSegment? o.segment :=
    named (.segment o.segment) (by simp [Operand.registers])
  rw [address?, address?, segment, term o.base, term o.index]
  · intro x inside
    exact named x (by simp [Operand.registers, inside])
  · intro x inside
    exact named x (by simp [Operand.registers, inside])

/-- The machines differ at most in what memory has decoded and in its journal. -/
structure Machine.Alike {σ : Type} (m m' : Machine σ) : Prop where
  registers : m'.registers = m.registers
  host : m'.host = m.host
  bytes : ∀ p, m'.memory.readByte p = m.memory.readByte p
  allocations : m.memory.SameAllocations m'.memory

namespace Machine.Alike

variable {σ : Type} {m m' m'' : Machine σ}

theorem trans (first : m.Alike m') (second : m'.Alike m'') : m.Alike m'' where
  registers := second.registers.trans first.registers
  host := second.host.trans first.host
  bytes p := (second.bytes p).trans (first.bytes p)
  allocations := first.allocations.trans second.allocations

/-- Alike machines stay alike when they are given the same registers. -/
theorem withRegisters (alike : m.Alike m') (r : Registers) :
    Alike { m with registers := r } { m' with registers := r } where
  registers := rfl
  host := alike.host
  bytes := alike.bytes
  allocations := alike.allocations

/-- What is in the journal is not seen. -/
theorem commit (m : Machine σ) : m.Alike { m with memory := m.memory.commit } where
  registers := rfl
  host := rfl
  bytes _ := rfl
  allocations := .commit _

end Machine.Alike

namespace Processor

open Exec

variable {σ : Type} {board : Board σ} {m n : Machine σ} {i j : Instruction} {o : Operand}
  {a : UInt16} {p : FarPtr}

theorem readCell_of_bytes {w : Width} (bytes : ∀ q, n.memory.readByte q = m.memory.readByte q)
    (there : readCell p w m = .ok a m) : readCell p w n = .ok a n := by
  cases w with
  | byte =>
    obtain ⟨b, m₁, found, last⟩ := of_bind_ok there
    obtain ⟨stored, -⟩ := of_reading_ok found
    cases last
    have again : (readByte p : Exec σ UInt8) n = .ok b n := reading_eq_ok ((bytes p).trans stored)
    rw [readCell, bind_of_ok again]
    rfl
  | word =>
    have found : reading (·.readWord p) m = .ok a m := there
    obtain ⟨stored, -⟩ := of_reading_ok found
    have again : reading (·.readWord p) n = .ok a n :=
      reading_eq_ok (Memory.readWord_of_bytes bytes stored)
    exact again

/-- An operand is read alike where the registers that it names and all bytes are the same. -/
theorem read_congr (named : ∀ reg ∈ o.registers, n.registers.read? reg = m.registers.read? reg)
    (bytes : ∀ q, n.memory.readByte q = m.memory.readByte q) (there : read i o m = .ok a m)
    (j : Instruction) :
    read j o n = .ok a n := by
  cases o with
  | register reg =>
    obtain ⟨-, readable⟩ := of_readRegister_ok there
    exact readRegister_eq_ok j ((named reg (by simp [Operand.registers])).trans readable)
  | memory o =>
    obtain ⟨p, m₁, found, cell⟩ := of_bind_ok there
    obtain ⟨rfl, address⟩ := of_addressOf_ok found
    have address' : n.registers.address? o = some p :=
      (Registers.address?_of_named named).trans address
    rw [read, bind_of_ok (addressOf_eq_ok j address')]
    exact readCell_of_bytes bytes cell
  | immediate _ _ =>
    cases there
    rfl
  | wide _ => cases there

/-- An operand that an instruction has read was there before IP moved on. -/
theorem read_before_opened {opened : Machine σ}
    (alike : Machine.Alike { m with registers := m.registers.past i } opened)
    (there : read i o opened = .ok a opened) : read i o m = .ok a m := by
  refine read_congr (n := m) ?_ (fun q => (alike.bytes q).symm) there i
  intro reg _
  rw [alike.registers]
  exact (m.registers.read?_past i reg).symm

/-- The tick goes through, and what it leaves looks like `left`. -/
def TicksTo (board : Board σ) (m left : Machine σ) : Prop :=
  ∃ m', tick board m = .ok .executed m' ∧ left.Alike m'

/-- The tick faults, and nothing that can be seen has changed. -/
def OnlyFaults (board : Board σ) (m : Machine σ) (e : Fault) : Prop :=
  ∃ m', tick board m = .error e m' ∧ m.Alike m'

namespace AtInstruction

/-- A tick carries its instruction out on a machine that differs in IP alone, as far as can be
seen. -/
theorem exists_opened (h : AtInstruction board m i) :
    ∃ opened, Machine.Alike { m with registers := m.registers.past i } opened ∧
      opened.memory.journal = some [] ∧ tick board m =
        match execute board i opened with
        | .ok _ m' =>
          .ok (if m'.registers.halt then .halted else .executed)
            { m' with memory := m'.memory.commit }
        | .error e m' =>
          .error e { m' with registers := m.registers, memory := m'.memory.rollback } := by
  obtain ⟨memory, fetched⟩ := h.fetched
  have same : m.memory.SameAllocations memory := .of_fetch fetched
  refine ⟨⟨m.registers.past i, memory.beginJournal, m.host⟩,
    ⟨rfl, rfl, ?_, same.trans (.beginJournal memory)⟩, rfl, h.tick_eq fetched⟩
  intro p
  exact same.readByte fun mapped => Memory.readByte_of_fetch fetched mapped

/-- A tick that has gone through has carried its instruction out on a machine
that looks as before. -/
theorem of_ticked {m₁ : Machine σ} {result : StepResult} (h : AtInstruction board m i)
    (ticked : tick board m = .ok result m₁) :
    ∃ opened left, Machine.Alike { m with registers := m.registers.past i } opened ∧
      execute board i opened = .ok () left ∧ left.Alike m₁ := by
  obtain ⟨opened, alike, -, tick_eq⟩ := h.exists_opened
  rw [tick_eq] at ticked
  cases ran : execute board i opened with
  | error e left =>
    rw [ran] at ticked
    cases ticked
  | ok u left =>
    rw [ran] at ticked
    cases ticked
    exact ⟨opened, left, alike, ran, .commit left⟩

/-- The instruction is the one at CS:IP. -/
theorem address_eq (h : AtInstruction board m i) :
    (⟨m.registers.cs, i.offset⟩ : FarPtr) = m.registers.csIp := by
  obtain ⟨memory, fetched⟩ := h.fetched
  rw [h.reachable.offset_of_fetch fetched]
  rfl

/-- Where the instruction does nothing but fault, so does the tick. -/
theorem onlyFaults {e : Fault} (h : AtInstruction board m i)
    (faults : ∀ opened, Machine.Alike { m with registers := m.registers.past i } opened →
      execute board i opened = .error e opened) :
    OnlyFaults board m e := by
  obtain ⟨opened, alike, empty, ticked⟩ := h.exists_opened
  have restored : opened.memory.rollback = opened.memory.commit := by
    rw [Memory.rollback, empty]
    rfl
  rw [faults opened alike] at ticked
  dsimp only at ticked
  rw [restored] at ticked
  exact ⟨_, ticked, rfl, alike.host, alike.bytes, alike.allocations.trans (.commit _)⟩

/-- What holds of all that the instruction leaves holds of what the tick leaves. -/
theorem exists_ticksTo {P : Machine σ → Prop} (h : AtInstruction board m i)
    (leaves : ∀ opened, Machine.Alike { m with registers := m.registers.past i } opened →
      ∃ left, execute board i opened = .ok () left ∧ left.registers.halt = false ∧ P left) :
    ∃ left, TicksTo board m left ∧ P left := by
  obtain ⟨opened, alike, -, ticked⟩ := h.exists_opened
  obtain ⟨left, ran, running, holds⟩ := leaves opened alike
  rw [ran] at ticked
  dsimp only at ticked
  rw [running] at ticked
  exact ⟨left, ⟨_, ticked, .commit left⟩, holds⟩

/-- The tick leaves what the instruction leaves. -/
theorem ticksTo {left : Machine σ} (h : AtInstruction board m i)
    (running : left.registers.halt = false)
    (leaves : ∀ opened, Machine.Alike { m with registers := m.registers.past i } opened →
      ∃ m₁, execute board i opened = .ok () m₁ ∧ left.Alike m₁) :
    TicksTo board m left := by
  obtain ⟨m₁, ⟨m', ticked, seen⟩, same⟩ :=
    h.exists_ticksTo (P := left.Alike) fun opened alike => by
      obtain ⟨m₁, ran, same⟩ := leaves opened alike
      exact ⟨m₁, ran, (congrArg Registers.halt same.registers).trans running, same⟩
  exact ⟨m', ticked, same.trans seen⟩

end AtInstruction

end Processor

end RealMode
