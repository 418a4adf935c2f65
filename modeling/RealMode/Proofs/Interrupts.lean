import RealMode.Proofs.AlikeMachines
import RealMode.Proofs.FarCalls
import RealMode.Proofs.FatalServices
import RealMode.Proofs.FileServices

/-!
# Interrupts are transparent

An interrupt pushes the flags, CS and IP, runs its handler, and takes the three words off the
stack again. The flags among them are only looked at by handlers that want to: what the machine
goes on with are the flags that the handler leaves. Where one of the pushes faults, the tick
takes back those before it.
-/

namespace RealMode

namespace Memory

variable {m m' : Memory} {p q : FarPtr}

theorem readByte_of_writeWord {value : UInt16} (written : m.writeWord p value = .ok m')
    (apart : ¬ (q.segment = p.segment ∧ p.offset.toNat ≤ q.offset.toNat ∧
      q.offset.toNat < p.offset.toNat + 2)) :
    m'.readByte q = m.readByte q := by
  have stored : m.BytesStored p (bytesOfWord value) m' := bytesStored_of_writeBytes written
  exact stored.outside q apart

/-- The word at `p` is `value`, and nothing else is different. -/
structure OnlyWord (m : Memory) (p : FarPtr) (value : UInt16) (m' : Memory) :
    Prop extends m.WordStored p value m' where
  bytes : ∀ q : FarPtr,
    ¬ (q.segment = p.segment ∧ p.offset.toNat ≤ q.offset.toNat ∧
      q.offset.toNat < p.offset.toNat + 2) →
      m'.readByte q = m.readByte q
  allocations : m.SameAllocations m'

theorem exists_onlyWord (maps : m.Maps p 2) (value : UInt16) :
    ∃ m', m.writeWord p value = .ok m' ∧ m.OnlyWord p value m' := by
  obtain ⟨m', written⟩ := exists_writeWord maps value
  exact ⟨m', written, wordStored_of_writeWord written,
    fun q apart => readByte_of_writeWord written apart, .of_writeBytes written⟩

end Memory

namespace Processor

open Exec

variable {σ τ : Type} {m left : Machine σ} {board : Board σ} {handler : Exec σ Unit}
  {i : Instruction} {vector : UInt8}
  {r : Registers} {memory opened : Memory} {p : FarPtr}

/-- What an interrupt does before its handler. -/
def pushFrame : Exec σ Unit := do
  pushFlags
  pushCs
  pushIp

/-- What an interrupt does after its handler. The flags on the stack are passed over. -/
def popFrame : Exec σ Unit := do
  popIp
  popCs
  drop 2

theorem interrupt_eq (served : board.handlers vector = some handler) (m : Machine σ) :
    interrupt board vector m = (pushFrame >>= fun _ => handler >>= fun _ => popFrame) m := by
  simp only [interrupt, served, pushFrame, popFrame, bind_assoc]

theorem popFrame_eq_ok (address : ReturnsTo m p) :
    popFrame m =
      .ok () { m with
        registers :=
          { m.registers with cs := p.segment, ip := p.offset, sp := m.registers.sp + 6 } } := by
  obtain ⟨ip, cs⟩ := popAddress_eq_ok address
  have six : m.registers.sp + 2 + 2 + 2 = m.registers.sp + 6 := by grind
  rw [popFrame, bind_of_ok ip, bind_of_ok cs, drop, modifyRegisters_eq_ok, six]

/-- There is room for the flags and a far return address below the top of the stack. -/
structure FrameRoom (r : Registers) (memory : Memory) : Prop where
  flags : memory.Maps ⟨r.ss, r.sp - 2⟩ 2
  segment : memory.Maps ⟨r.ss, r.sp - 4⟩ 2
  offset : memory.Maps ⟨r.ss, r.sp - 6⟩ 2

/-- `framed` is `memory` with the flags, CS and IP pushed. -/
structure Framed (r : Registers) (memory framed : Memory) : Prop where
  flags : framed.readWord ⟨r.ss, r.sp - 6 + 4⟩ = .ok (r.flags.toWord ||| 2)
  segment : framed.readWord ⟨r.ss, r.sp - 6 + 2⟩ = .ok r.cs
  offset : framed.readWord ⟨r.ss, r.sp - 6⟩ = .ok r.ip
  others : ∀ q : FarPtr, ¬ (q.segment = r.ss ∧ q.offset - (r.sp - 6) < 6) →
    framed.readByte q = memory.readByte q
  allocations : memory.SameAllocations framed

/-- Words at even distances do not overlap, also where SP wraps between them. -/
theorem words_apart {a b : UInt16} (fits : b.toNat + 2 ≤ Segment.size)
    (distance : b = a + 2 ∨ b = a + 4) : a.toNat + 2 ≤ b.toNat ∨ b.toNat + 2 ≤ a.toNat := by
  simp only [Segment.size] at fits
  rcases distance with rfl | rfl <;>
    simp only [UInt16.toNat_add, UInt16.toNat_ofNat] at fits ⊢ <;> omega

/-- A byte that is not among the six of the frame is in none of its words. -/
theorem frame_apart {a b q : UInt16} (fits : b.toNat + 2 ≤ Segment.size)
    (distance : b = a ∨ b = a + 2 ∨ b = a + 4) (outside : ¬ q - a < 6) :
    ¬ (b.toNat ≤ q.toNat ∧ q.toNat < b.toNat + 2) := by
  have place : b.toNat = a.toNat ∨ b.toNat = (a.toNat + 2) % 2 ^ 16 ∨
      b.toNat = (a.toNat + 4) % 2 ^ 16 := by
    rcases distance with rfl | rfl | rfl
    · exact .inl rfl
    · exact .inr (.inl (UInt16.toNat_add _ _))
    · exact .inr (.inr (UInt16.toNat_add _ _))
  have inside := a.toNat_lt
  simp only [Segment.size, UInt16.lt_iff_toNat_lt, UInt16.toNat_sub,
    UInt16.toNat_ofNat] at fits outside
  omega

/-- Pushing the frame has nothing to do with the host. -/
theorem exists_framed (room : FrameRoom r memory) :
    ∃ framed, Framed r memory framed ∧ ∀ {τ : Type} (host : τ),
      pushFrame ⟨r, memory, host⟩ = .ok () ⟨{ r with sp := r.sp - 6 }, framed, host⟩ := by
  have four : r.sp - 2 - 2 = r.sp - 4 := by grind
  have six : r.sp - 4 - 2 = r.sp - 6 := by grind
  have second : r.sp - 4 = r.sp - 6 + 2 := by grind
  have third : r.sp - 2 = r.sp - 6 + 4 := by grind
  have between : r.sp - 2 = r.sp - 4 + 2 := by grind
  obtain ⟨memory₁, written₁, flags⟩ := Memory.exists_onlyWord room.flags r.flags.pushed
  obtain ⟨memory₂, written₂, segment⟩ :=
    Memory.exists_onlyWord ((flags.maps _ _).2 room.segment) r.cs
  obtain ⟨framed, written₃, offset⟩ :=
    Memory.exists_onlyWord ((segment.maps _ _).2 ((flags.maps _ _).2 room.offset)) r.ip
  refine ⟨framed, ⟨?_, ?_, offset.read, fun q outside => ?_, ?_⟩, fun {τ} host => ?_⟩
  · rw [← third, offset.others _ (.inr (words_apart room.flags.2 (.inr third)).symm),
      segment.others _ (.inr (words_apart room.flags.2 (.inl between)).symm)]
    exact flags.read
  · rw [← second, offset.others _ (.inr (words_apart room.segment.2 (.inl second)).symm)]
    exact segment.read
  · have beyond {b : UInt16} (fits : b.toNat + 2 ≤ Segment.size)
        (distance : b = r.sp - 6 ∨ b = r.sp - 6 + 2 ∨ b = r.sp - 6 + 4) :
        ¬ (q.segment = r.ss ∧ b.toNat ≤ q.offset.toNat ∧ q.offset.toNat < b.toNat + 2) :=
      fun inside => frame_apart fits distance (fun near => outside ⟨inside.1, near⟩) inside.2
    rw [offset.bytes q (beyond room.offset.2 (.inl rfl)),
      segment.bytes q (beyond room.segment.2 (.inr (.inl second))),
      flags.bytes q (beyond room.flags.2 (.inr (.inr third)))]
  · exact (flags.allocations.trans segment.allocations).trans offset.allocations
  · have first : pushFlags ⟨r, memory, host⟩ =
        .ok () ⟨{ r with sp := r.sp - 2 }, memory₁, host⟩ :=
      push_eq_ok written₁
    have next : pushCs ⟨{ r with sp := r.sp - 2 }, memory₁, host⟩ =
        .ok () ⟨{ r with sp := r.sp - 2 - 2 }, memory₂, host⟩ :=
          push_eq_ok (by rw [four]; exact written₂)
    have last : pushIp ⟨{ r with sp := r.sp - 4 }, memory₂, host⟩ =
        .ok () ⟨{ r with sp := r.sp - 4 - 2 }, framed, host⟩ :=
          push_eq_ok (by rw [six]; exact written₃)
    rw [pushFrame, bind_of_ok first, bind_of_ok next, four, last, six]

/-- Of memory only bytes are written, and the host is left alone. -/
structure Writes (m m' : Machine σ) : Prop where
  host : m'.host = m.host
  edits : m.memory.Edits m'.memory
  allocations : m.memory.SameAllocations m'.memory

theorem Writes.refl (m : Machine σ) : Writes m m := ⟨rfl, .refl _, .refl _⟩

theorem Writes.trans {m m' m'' : Machine σ} (first : Writes m m') (second : Writes m' m'') :
    Writes m m'' where
  host := second.host.trans first.host
  edits := first.edits.trans second.edits
  allocations := first.allocations.trans second.allocations

/-- What the handler of an interrupt finds, where `i` is the instruction that raises it. -/
structure Enters (m : Machine σ) (i : Instruction) (seen : Machine σ) : Prop where
  host : seen.host = m.host
  registers : seen.registers = { m.registers.past i with sp := m.registers.sp - 6 }
  frame : Framed (m.registers.past i) m.memory seen.memory

theorem Enters.returns {seen : Machine σ} (enters : Enters m i seen) (host : τ) :
    ReturnsTo (⟨seen.registers, seen.memory, host⟩ : Machine τ) (m.registers.past i).csIp := by
  constructor
  · rw [enters.registers]
    exact enters.frame.offset
  · rw [enters.registers]
    exact enters.frame.segment

/-- The machine that goes on behind the interrupt with what its handler has left. -/
def resumed (m : Machine σ) (i : Instruction) (left : Machine σ) : Machine σ where
  registers :=
    { left.registers with
      cs := m.registers.cs, ip := m.registers.ip + UInt16.ofNat i.length, sp := m.registers.sp }
  memory := left.memory.commit
  host := left.host

/-- The instruction raises an interrupt. -/
inductive Raises (flags : Flags) : Operation → UInt8 → Prop
  | int (vector : UInt8) : Raises flags (.int vector) vector
  | int3 : Raises flags .int3 3
  | into (overflow : flags.overflow = true) : Raises flags .into 4

theorem Raises.execute_eq (raises : Raises r.flags i.operation vector) (board : Board σ)
    (memory : Memory) (host : σ) :
    execute board i ⟨r.past i, memory, host⟩ =
      interrupt board vector ⟨r.past i, memory, host⟩ := by
  rw [execute]
  generalize i.operation = operation at raises
  cases raises with
  | int vector => rfl
  | int3 => rfl
  | into overflow =>
    dsimp only
    rw [bind_of_ok (registers_eq_ok _)]
    exact congrFun (if_pos overflow) _

namespace AtInstruction

/-- A tick that faults before it has written more than bytes takes all of it back. -/
theorem alike_of_error {e : Fault} {m' : Machine σ} (h : AtInstruction board m i)
    (fetched : m.memory.fetch m.registers.csIp = .ok (i, memory))
    (ran : execute board i ⟨m.registers.past i, memory.beginJournal, m.host⟩ = .error e m')
    (writes : Writes ⟨m.registers.past i, memory.beginJournal, m.host⟩ m') :
    ∃ m'', tick board m = .error e m'' ∧ m.Alike m'' := by
  have opened : m.memory.SameAllocations memory.beginJournal :=
    (Memory.SameAllocations.of_fetch fetched).trans (.beginJournal memory)
  have same : m.memory.SameAllocations m'.memory.rollback :=
    (opened.trans writes.allocations).trans (.rollback _)
  refine ⟨{ m' with
    registers := m.registers, memory := m'.memory.rollback }, by rw [h.tick_eq fetched, ran], rfl,
    writes.host, fun p => same.readByte fun mapped => ?_, same⟩
  exact (Memory.readByte_rollback writes.edits (Memory.hasSegment_of_fetch fetched mapped)).trans
    (Memory.readByte_of_fetch fetched mapped)

/-- The frame is the same whatever host and handler there are. -/
theorem entered (h : AtInstruction board m i) (room : FrameRoom m.registers m.memory) :
    ∃ seen, Enters m i seen ∧
      ∀ {τ : Type} {board' : Board τ} {host : τ} {handler : Exec τ Unit} {left : Machine τ},
      AtInstruction board' ⟨m.registers, m.memory, host⟩ i →
      Raises m.registers.flags i.operation vector →
      board'.handlers vector = some handler →
      handler ⟨seen.registers, seen.memory, host⟩ = .ok () left →
      KeepsReturn ⟨seen.registers, seen.memory, host⟩ left →
        tick board' ⟨m.registers, m.memory, host⟩ =
          .ok (if left.registers.halt then .halted else .executed)
            (resumed ⟨m.registers, m.memory, host⟩ i left) := by
  obtain ⟨memory, fetched⟩ := h.fetched
  have room' : FrameRoom (m.registers.past i) memory.beginJournal :=
    ⟨(Memory.maps_of_fetch fetched _ _).2 room.flags,
      (Memory.maps_of_fetch fetched _ _).2 room.segment,
      (Memory.maps_of_fetch fetched _ _).2 room.offset⟩
  obtain ⟨framed, frame, pushed⟩ := exists_framed room'
  have same := Memory.SameAllocations.of_fetch fetched
  have opened : m.memory.SameAllocations memory.beginJournal := same.trans (.beginJournal memory)
  let seen : Machine σ :=
    ⟨{ m.registers.past i with sp := (m.registers.past i).sp - 6 }, framed, m.host⟩
  have enters : Enters m i seen :=
    { host := rfl
      registers := rfl
      frame :=
        { flags := frame.flags
          segment := frame.segment
          offset := frame.offset
          others := fun q outside =>
            (frame.others q outside).trans
              (same.readByte fun mapped => Memory.readByte_of_fetch fetched mapped)
          allocations := opened.trans frame.allocations } }
  refine ⟨seen, enters, fun {τ board' host handler left} there raises served ran keeps => ?_⟩
  have back := popFrame_eq_ok ((enters.returns host).of_keepsReturn keeps)
  have sp : left.registers.sp + 6 = m.registers.sp := by
    rw [keeps.sp]
    exact UInt16.sub_add_cancel _ _
  rw [there.tick_eq fetched, raises.execute_eq, interrupt_eq served, bind_of_ok (pushed host),
    bind_of_ok ran, back, sp]
  rfl

/-- Only IP moves. -/
theorem passed (h : AtInstruction board m i) (asks : i.operation = .into)
    (clear : m.registers.flags.overflow = false) :
    ∃ m', tick board m = .ok .executed m' ∧
      Machine.Alike { m with registers := m.registers.past i } m' := by
  refine h.ticksTo h.running fun opened alike => ⟨opened, ?_, alike⟩
  have clear' : opened.registers.flags.overflow = false := by
    rw [alike.registers]
    exact clear
  rw [execute, asks]
  dsimp only
  rw [bind_of_ok (registers_eq_ok _), if_neg (by simp [clear'])]
  rfl

end AtInstruction

/-- The handler, after a note of its vector and of the registers that it sees. -/
def noted (vector : UInt8) (handler : Exec σ Unit) :
    Exec (σ × List (UInt8 × Registers)) Unit := do
  modify fun m => { m with host := (m.host.1, m.host.2 ++ [(vector, m.registers)]) }
  within Prod.fst (fun host whole => (host, whole.2)) handler

/-- The board, with a host that takes notes of all calls of its handlers. -/
def noting (board : Board σ) : Board (σ × List (UInt8 × Registers)) where
  handlers vector := (board.handlers vector).map (noted vector)
  ports := (board.within Prod.fst fun host whole => (host, whole.2)).ports
  imports := board.imports

end Processor

end RealMode
