import RealMode.Proofs.Confinement.Services
import RealMode.Proofs.Tick

/-!
# A tick happens whole or not at all

A tick that faults has either done nothing or has rolled the journal of its instruction back. The
handlers are asked only to be confined, so what an instruction does between its first write and
the fault does not matter.
-/

namespace RealMode

/-- Registers are as before, and so is every byte of every segment that there was. -/
structure Machine.Kept {σ : Type} (m m' : Machine σ) : Prop where
  registers : m'.registers = m.registers
  bytes : ∀ p : FarPtr, m.memory.hasSegment p.segment = true →
    m'.memory.readByte p = m.memory.readByte p

namespace Machine.Kept

variable {σ : Type} {m m' m'' : Machine σ}

theorem refl (m : Machine σ) : Kept m m := ⟨rfl, fun _ _ => rfl⟩

theorem hasSegment (h : Kept m m') {ordinal : UInt16}
    (mapped : m.memory.hasSegment ordinal = true) : m'.memory.hasSegment ordinal = true := by
  obtain ⟨s, found⟩ := Memory.hasSegment_iff.mp mapped
  have same := h.bytes ⟨ordinal, 0⟩ mapped
  rw [Memory.readByte_eq (p := ⟨ordinal, 0⟩) found] at same
  refine Memory.hasSegment_iff.mpr ?_
  cases there : m'.memory.segments.get? ordinal with
  | some t => exact ⟨t, rfl⟩
  | none => simp [Memory.readByte, Memory.segmentAt, there, Bind.bind, Except.bind] at same

theorem trans (h : Kept m m') (k : Kept m' m'') : Kept m m'' :=
  ⟨k.registers.trans h.registers, fun p mapped =>
    (k.bytes p (h.hasSegment mapped)).trans (h.bytes p mapped)⟩

end Machine.Kept

namespace Processor

open Exec

variable {σ : Type} {board : Board σ} {m m' : Machine σ} {e : Fault}

theorem confined_carryOut (confined : board.Confined) (i : Instruction) :
    Confined (carryOut board i) :=
  .bind (confined_goTo i.next) fun _ => confined_execute i confined

theorem kept_of_tick_error (confined : board.Confined) (faulted : tick board m = .error e m') :
    m.Kept m' := by
  rcases of_tick_error faulted with rfl | ⟨i, memory, m₁, fetched, ran, rfl⟩
  · exact .refl m'
  · have edits := confined_carryOut confined i { m with memory := memory.beginJournal }
    rw [after_of_error ran] at edits
    refine ⟨rfl, fun p mapped => ?_⟩
    calc m₁.memory.rollback.readByte p
      _ = memory.readByte p :=
        Memory.readByte_rollback edits (Memory.hasSegment_of_fetch fetched mapped)
      _ = m.memory.readByte p := Memory.readByte_of_fetch fetched mapped

/-- A tick shuts the journal, unless it has done nothing at all. -/
theorem journal_after_tick (board : Board σ) (m : Machine σ) :
    (after (tick board) m).memory.journal = none ∨ after (tick board) m = m := by
  rw [after, tick_eq]
  by_cases halted : m.registers.halt = true
  · rw [if_pos halted]
    exact .inr rfl
  by_cases imported : board.imported m.registers.cs = true
  · rw [if_neg halted, if_pos imported]
    exact .inr rfl
  rw [if_neg halted, if_neg imported]
  cases m.memory.fetch m.registers.csIp with
  | error e => exact .inr rfl
  | ok r =>
    dsimp only
    cases carryOut board r.1 { m with memory := r.2.beginJournal } with
    | ok _ m' => exact .inl rfl
    | error e m' => exact .inl rfl

/-- The machine after some ticks, whatever their endings. -/
def afterTicks (board : Board σ) (m : Machine σ) : Nat → Machine σ
  | 0 => m
  | n + 1 => after (tick board) (afterTicks board m n)

def Faults (board : Board σ) (m : Machine σ) : Prop := ∃ e m', tick board m = .error e m'

theorem journal_afterTicks (board : Board σ) (m : Machine σ) (n : Nat) :
    (afterTicks board m n).memory.journal = none ∨ afterTicks board m n = m := by
  induction n with
  | zero => exact .inr rfl
  | succ n ih =>
    rcases journal_after_tick board (afterTicks board m n) with shut | same
    · exact .inl shut
    · simpa only [afterTicks, same] using ih

theorem kept_afterTicks (confined : board.Confined) {n : Nat}
    (faults : ∀ k, k < n → Faults board (afterTicks board m k)) :
    m.Kept (afterTicks board m n) := by
  induction n with
  | zero => exact .refl m
  | succ n ih =>
    have earlier := ih fun k less => faults k (Nat.lt_succ_of_lt less)
    obtain ⟨e, m', faulted⟩ := faults n (Nat.lt_succ_self n)
    have last := kept_of_tick_error confined faulted
    rw [← after_of_error faulted] at last
    exact earlier.trans last

/-- A tick that faults keeps registers and bytes, from whatever machine it starts. Through any
number of ticks the journal is shut again after each that does something, and what a tick has done
is not taken back by those after it that fault. -/
theorem tick_whole_or_nothing (confined : board.Confined) (m : Machine σ) :
    (∀ e m', tick board m = .error e m' → m.Kept m') ∧
    (∀ n, (afterTicks board m n).memory.journal = none ∨ afterTicks board m n = m) ∧
    (∀ result m₁, tick board m = .ok result m₁ →
      ∀ n, (∀ k, k < n → Faults board (afterTicks board m₁ k)) →
        m₁.Kept (afterTicks board m₁ n)) :=
  ⟨fun _ _ faulted => kept_of_tick_error confined faulted, journal_afterTicks board m,
    fun _ _ _ _ faults => kept_afterTicks confined faults⟩

/-- What the handler of interrupt 61 writes is taken back, and so are the words pushed for it. -/
theorem tick_undoes_handler :
    let scribble : Exec Unit Unit := do
      writeWord ⟨2, 0⟩ 0xdead
      throw (.unsupportedDosFunction 0x61)
    let board : Board Unit := Board.bare.withHandler 0x61 scribble
    board.Confined ∧ ∃ (memory : Memory) (m' : Machine Unit),
      tick board ⟨{ Registers.reset stackTop with cs := 1 }, memory, ()⟩ =
        .error (.unsupportedDosFunction 0x61) m' ∧
      m'.registers.sp = stackTop ∧ m'.memory.readByte ⟨2, 0⟩ = .ok 0 ∧
      m'.memory.readByte ⟨stackSegment, stackTop - 4⟩ = .ok 0 := by
  intro scribble board
  have confined : board.Confined :=
    Board.confined_bare.withHandler 0x61 (.bind (.writeWord _ _) fun _ => .throw _)
  obtain ⟨memory, m', faulted, data, stack, dataMapped, stackMapped⟩ : ∃ memory m',
      tick board ⟨{ Registers.reset stackTop with cs := 1 }, memory, ()⟩ =
        .error (.unsupportedDosFunction 0x61) m' ∧
      memory.readByte ⟨2, 0⟩ = .ok 0 ∧
      memory.readByte ⟨stackSegment, stackTop - 4⟩ = .ok 0 ∧
      memory.hasSegment 2 = true ∧ memory.hasSegment stackSegment = true :=
    ⟨((Memory.fresh.addSegment 1 .code [0xcd, 0x61]).bind
      (·.addSegment 2 .data [])).toOption.getD
      .fresh, _, rfl, rfl, rfl, rfl, rfl⟩
  obtain ⟨registers, bytes⟩ := (tick_whole_or_nothing confined _).1 _ _ faulted
  refine ⟨confined, memory, m', faulted, by rw [registers]; rfl, ?_, ?_⟩
  · exact (bytes ⟨2, 0⟩ dataMapped).trans data
  · exact (bytes ⟨stackSegment, stackTop - 4⟩ stackMapped).trans stack

end Processor

end RealMode
