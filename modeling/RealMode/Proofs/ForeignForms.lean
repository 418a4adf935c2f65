import RealMode.Proofs.FatalServices
import RealMode.Proofs.Interrupts
import RealMode.Proofs.LimbArithmetic

/-!
# Forms of a 32-bit processor

An instruction whose operands name a register that the machine does not have is refused, or an
access to one of its operands faults before; either way nothing changes. Three things about an
operand are never looked up: whether memory is longer than a word, the accumulator that IN names,
and a segment of a table or string that the machine does not have. Where nothing else makes an
instruction a 32-bit one, the processor carries out the 16-bit instruction in its place. The
decoder has by then dropped the upper word of a displacement without registers, and the address
size of tables and strings.
-/

namespace RealMode

/-- The machine does not have the segment register. -/
def SegmentRegister.foreign : SegmentRegister → Bool
  | fs => true
  | gs => true
  | _ => false

/-- DS for a segment register that is not there. -/
def SegmentRegister.narrowed (s : SegmentRegister) : SegmentRegister := if s.foreign then ds else s

/-- The machine does not have the register. -/
def Register.foreign : Register → Bool
  | byte _ => false
  | word _ => false
  | segment s => s.foreign
  | dword _ => true
  | control _ => true
  | debug _ => true

/-- Four bytes, or a far pointer of six. -/
def MemorySize.long : MemorySize → Bool
  | dword => true
  | farDword => true
  | _ => false

namespace Operand

/-- It cannot be read or written without a register that the machine does not have, or it
is a 32-bit constant. -/
def foreign : Operand → Bool
  | wide _ => true
  | o => o.registers.any Register.foreign

def long : Operand → Bool
  | memory m => m.size.long
  | _ => false

/-- Memory that is not a byte becomes a word. -/
def narrowed : Operand → Operand
  | memory m => memory { m with size := if m.size = .byte then .byte else .word }
  | o => o

end Operand

namespace Target

def operands : Target → List Operand
  | near o => [o]
  | _ => []

def pointer? : Target → Option MemoryOperand
  | farThrough m => some m
  | _ => none

def narrowed : Target → Target
  | near o => near o.narrowed
  | farThrough m => farThrough { m with size := .farWord }
  | t => t

end Target

namespace Operation

/-- The operands that the processor looks up, the registers in the address of LEA among them. -/
def operands : Operation → List Operand
  | mov dst src => [src, dst]
  | xchg a b => [a, b]
  | lea dst m => dst :: (m.base.toList ++ m.index.toList).map .register
  | loadPointer _ dst _ => [dst]
  | movzx dst src => [src, dst]
  | movsx dst src => [src, dst]
  | push src => [src]
  | pop dst => [dst]
  | arith _ dst src => [dst, src]
  | unary _ dst => [dst]
  | not dst => [dst]
  | mul src => [src]
  | imul src => [src]
  | imulTo dst a b => [dst, a, b]
  | div src => [src]
  | idiv src => [src]
  | logic _ dst src => [dst, src]
  | shift _ dst count => [dst, count]
  | sal dst count => [dst, count]
  | jmp target => target.operands
  | call target => target.operands
  | input _ port => [port]
  | output port src => [port, src]
  | _ => []

/-- The memory operand that is read as a far pointer. -/
def pointer? : Operation → Option MemoryOperand
  | loadPointer _ _ m => some m
  | jmp target => target.pointer?
  | call target => target.pointer?
  | _ => none

/-- The operands that an instruction names and the processor does not look up. -/
def overlooked : Operation → List Operand
  | input dst _ => [dst]
  | xlat s => [.register (.segment s)]
  | string _ _ s _ => [.register (.segment s)]
  | _ => []

/-- It is decoded and never executed. -/
def refused : Operation → Bool
  | unsupported _ => true
  | _ => false

/-- The processor does not execute it, or looks for a register that the machine does not have. -/
def foreign (o : Operation) : Bool :=
  o.refused || o.operands.any Operand.foreign || o.pointer?.any fun m => (Operand.memory m).foreign

/-- It takes a 32-bit processor: a register that the machine does not have, or memory of four or six
bytes that is not a 16:16 pointer. -/
def wide (o : Operation) : Bool :=
  (o.operands ++ o.overlooked).any (fun x => x.foreign || x.long) ||
    o.pointer?.any fun m => (Operand.memory m).foreign || m.size.long

/-- The operation with words in the place of longer memory, the accumulator of the same width for
what IN names, and DS for the segment of a table or string that is not there. -/
def narrowed : Operation → Operation
  | mov dst src => mov dst.narrowed src.narrowed
  | xchg a b => xchg a.narrowed b.narrowed
  | lea dst m => lea dst.narrowed m
  | loadPointer s dst m => loadPointer s dst.narrowed { m with size := .farWord }
  | movzx dst src => movzx dst.narrowed src.narrowed
  | movsx dst src => movsx dst.narrowed src.narrowed
  | xlat s => xlat s.narrowed
  | push src => push src.narrowed
  | pop dst => pop dst.narrowed
  | arith op dst src => arith op dst.narrowed src.narrowed
  | unary op dst => unary op dst.narrowed
  | not dst => not dst.narrowed
  | mul src => mul src.narrowed
  | imul src => imul src.narrowed
  | imulTo dst a b => imulTo dst.narrowed a.narrowed b.narrowed
  | div src => div src.narrowed
  | idiv src => idiv src.narrowed
  | logic op dst src => logic op dst.narrowed src.narrowed
  | shift op dst count => shift op dst.narrowed count.narrowed
  | sal dst count => sal dst.narrowed count.narrowed
  | jmp target => jmp target.narrowed
  | call target => call target.narrowed
  | input dst port => input (.register (Processor.accumulator dst.width)) port.narrowed
  | output port src => output port.narrowed src.narrowed
  | string op w s again => string op w s.narrowed again
  | o => o

end Operation

def Instruction.narrowed (i : Instruction) : Instruction :=
  { i with operation := i.operation.narrowed }

namespace Operand

@[simp] theorem foreign_register (reg : Register) : (register reg).foreign = reg.foreign :=
  Bool.or_false _

@[simp] theorem foreign_narrowed (o : Operand) : o.narrowed.foreign = o.foreign := by
  cases o <;> rfl

@[simp] theorem long_narrowed (o : Operand) : o.narrowed.long = false := by
  cases o with
  | memory m =>
    rw [narrowed, long]
    dsimp only
    split <;> rfl
  | _ => rfl

@[simp] theorem width_narrowed (o : Operand) : o.narrowed.width = o.width := by
  cases o with
  | memory m =>
    obtain ⟨_, _, _, _, size⟩ := m
    cases size <;> rfl
  | _ => rfl

end Operand

namespace Operation

variable {o : Operation}

theorem operands_narrowed (o : Operation) :
    o.narrowed.operands = o.operands.map Operand.narrowed := by
  cases o with
  | lea dst m =>
    rw [narrowed, operands, operands, List.map_cons, List.map_map]
    rfl
  | jmp target | call target => cases target <;> rfl
  | _ => rfl

theorem pointer?_narrowed (o : Operation) :
    o.narrowed.pointer? = o.pointer?.map fun m => { m with size := .farWord } := by
  cases o with
  | jmp target | call target => cases target <;> rfl
  | _ => rfl

theorem of_mem_overlooked_narrowed {x : Operand} (listed : x ∈ o.narrowed.overlooked) :
    x.foreign = false ∧ x.long = false := by
  have segment (s : SegmentRegister) :
      (Operand.register (.segment s.narrowed)).foreign = false := by
    cases s <;> rfl
  cases o with
  | input dst _ =>
    cases List.mem_singleton.1 listed
    cases dst.width <;> exact ⟨rfl, rfl⟩
  | xlat s | string _ _ s _ =>
    cases List.mem_singleton.1 listed
    exact ⟨segment s, rfl⟩
  | _ => cases listed

/-- Where the processor comes upon all that it looks for, the narrowed operation
takes no 32-bit processor. -/
theorem wide_narrowed (native : o.foreign = false) : o.narrowed.wide = false := by
  rw [foreign, Bool.or_eq_false_iff, Bool.or_eq_false_iff, List.any_eq_false] at native
  obtain ⟨⟨-, operands⟩, pointer⟩ := native
  have named : ∀ x ∈ o.narrowed.operands ++ o.narrowed.overlooked,
      ¬ (x.foreign || x.long) = true := by
    intro x listed
    rcases List.mem_append.1 listed with inside | inside
    · rw [operands_narrowed] at inside
      obtain ⟨y, there, rfl⟩ := List.mem_map.1 inside
      rw [Operand.foreign_narrowed, Operand.long_narrowed, Bool.or_false]
      exact operands y there
    · obtain ⟨native, short⟩ := of_mem_overlooked_narrowed inside
      rw [native, short]
      decide
  rw [wide, pointer?_narrowed, List.any_eq_false.2 named]
  cases there : o.pointer? with
  | none => rfl
  | some m =>
    rw [there] at pointer
    have same : (Operand.memory { m with size := .farWord }).foreign = false := pointer
    rw [Option.map_some, Option.any_some, same]
    rfl

end Operation

namespace ModRM

/-- A 32-bit displacement without registers is read as the 16-bit displacement
that is its low word. -/
theorem bare_displacement_cut (p : Prefixes) {b b' : UInt8}
    (reg : b'.toNat / 8 % 8 = b.toNat / 8 % 8) (mode : b.toNat / 64 = 0) (bare : b.toNat % 8 = 5)
    (mode' : b'.toNat / 64 = 0) (bare' : b'.toNat % 8 = 6) (d : UInt32) (rest : List UInt8) :
    ∃ m, (ofByte { p with wideAddress := true } b).run (bytesOfDword d ++ rest) = some (m, 4) ∧
      (ofByte { p with wideAddress := false } b').run (bytesOfWord (lowWord d) ++ rest) =
        some (m, 2) := by
  let place (displacement : UInt16) : ModRM :=
    ⟨b.toNat / 8 % 8, .memory p.dataSegment none none displacement, none⟩
  let low : UInt16 := wordOfBytes (lowByte (lowWord d)) (highByte (lowWord d))
  let high : UInt16 := wordOfBytes (lowByte (highWord d)) (highByte (highWord d))
  refine ⟨place (lowWord d), ?_, ?_⟩
  · have kept : lowWord (dwordOfWords low high) = lowWord d := by simp [low]
    simp only [ofByte, mode, bare]
    exact congrArg (fun w => some (place w, 4)) kept
  · have kept : low = lowWord d := wordOfBytes_low_high _
    simp only [ofByte, mode', bare', reg]
    exact congrArg (fun w => some (place w, 2)) kept

end ModRM

namespace OpcodeMap

/-- The string instructions and XLAT, whose addresses are not encoded. -/
def impliedAddresses : List UInt8 :=
  [0xa4, 0xa5, 0xa6, 0xa7, 0xaa, 0xab, 0xac, 0xad, 0xae, 0xaf, 0xd7]

/-- The address size of strings and tables is not kept. -/
theorem primary_of_implied {opcode : UInt8} (implied : opcode ∈ impliedAddresses) (p : Prefixes)
    (wide : Bool) :
    primary { p with wideAddress := wide } opcode = primary p opcode := by
  simp only [impliedAddresses, List.mem_cons, List.not_mem_nil, or_false] at implied
  rcases implied with rfl | rfl | rfl | rfl | rfl | rfl | rfl | rfl | rfl | rfl | rfl
  all_goals
    -- down to the row of the opcode, so that the two readings need not be compared as a whole
    simp only [primary, UInt8.reduceToNat, Nat.reduceDiv, Nat.reduceMod, Nat.reduceLT, if_false]
    rfl

end OpcodeMap

namespace Registers

variable {r : Registers} {reg : Register} {o : MemoryOperand} {p : FarPtr}

theorem read?_eq_none_iff : r.read? reg = none ↔ reg.foreign = true := by
  cases reg with
  | segment s => cases s <;> simp [read?, readSegment?, Register.foreign, SegmentRegister.foreign]
  | _ => simp [read?, Register.foreign]

theorem write?_of_foreign (foreign : reg.foreign = true) (v : UInt16) : r.write? reg v = none := by
  cases reg with
  | segment s => cases s <;> first | rfl | cases foreign
  | byte _ | word _ => cases foreign
  | _ => rfl

theorem not_foreign_of_read? {v : UInt16} (there : r.read? reg = some v) :
    ¬ reg.foreign = true := by
  intro foreign
  rw [read?_eq_none_iff.2 foreign] at there
  cases there

theorem not_foreign_of_term? {term : Option Register} {v : UInt16} (there : r.term? term = some v)
    (named : term = some reg) : ¬ reg.foreign = true := by
  rw [named] at there
  exact not_foreign_of_read? there

/-- An address that is found has no part that the machine does not have. -/
theorem not_foreign_of_address? (there : r.address? o = some p) :
    (Operand.memory o).foreign = false := by
  simp only [address?, Option.bind_eq_bind, Option.bind_eq_some_iff] at there
  obtain ⟨segment, segmentRead, base, baseRead, index, indexRead, -⟩ := there
  have native : ∀ x ∈ (Operand.memory o).registers, ¬ x.foreign = true := by
    intro x listed
    rcases List.mem_cons.1 listed with rfl | listed
    · have found : r.read? (.segment o.segment) = some segment := segmentRead
      exact not_foreign_of_read? found
    · rcases List.mem_append.1 listed with listed | listed
      · exact not_foreign_of_term? baseRead (Option.mem_toList.1 listed)
      · exact not_foreign_of_term? indexRead (Option.mem_toList.1 listed)
  exact List.any_eq_false.2 native

end Registers

/-- The places and lengths of the accesses to the operands of an operation, where they are there. -/
inductive Operation.Accesses (o : Operation) (r : Registers) : FarPtr → Nat → Prop
  | operand {m : MemoryOperand} {p : FarPtr} (listed : .memory m ∈ o.operands)
    (address : r.address? m = some p) :
      Accesses o r p m.size.width.size
  | pointer {m : MemoryOperand} {p : FarPtr} (named : o.pointer? = some m)
      (address : r.address? m = some p) :
      Accesses o r p 4
  | popped {dst : Operand} (pops : o = .pop dst) : Accesses o r r.ssSp 2

/-- An access to an operand of the operation faults. -/
def Operation.Denied (o : Operation) (r : Registers) (m : Memory) (e : Fault) : Prop :=
  ∃ p length, o.Accesses r p length ∧ m.segmentAt p length = .error e

namespace Memory

variable {m m' : Memory} {p : FarPtr} {e : Fault} {length : Nat}

theorem SameAllocations.segmentAt_eq_error_iff (same : m.SameAllocations m') :
    m'.segmentAt p length = .error e ↔ m.segmentAt p length = .error e := by
  rw [Memory.segmentAt_eq_error_iff, Memory.segmentAt_eq_error_iff, same.hasSegment]

/-- Looking at memory faults only where it is not there. -/
theorem segmentAt_of_error {α : Type} {f : Segment → α}
    (refused : (do let s ← m.segmentAt p length; return f s) = Except.error e) :
    m.segmentAt p length = .error e := by
  cases found : m.segmentAt p length with
  | ok s =>
    rw [found] at refused
    cases refused
  | error e' =>
    rw [found] at refused
    cases refused
    rfl

end Memory

namespace Processor

open Exec

variable {σ α : Type} {board : Board σ} {m m' : Machine σ} {i : Instruction}
  {o : Operand} {e : Fault}

/-- What a refused instruction ends in. -/
def refusal (i : Instruction) (r : Registers) : Fault :=
  .unimplementedOpcode ⟨r.cs, i.offset⟩ i.name

theorem of_readRegister_error {reg : Register} (faulted : readRegister i reg m = .error e m') :
    m' = m ∧ e = refusal i m.registers := by
  rw [readRegister, bind_of_ok (registers_eq_ok m)] at faulted
  cases there : m.registers.read? reg with
  | some value =>
    rw [there] at faulted
    cases faulted
  | none =>
    rw [there] at faulted
    cases faulted
    exact ⟨rfl, rfl⟩

theorem of_readTerm_error {reg : Option Register} (faulted : readTerm i reg m = .error e m') :
    m' = m ∧ e = refusal i m.registers := by
  cases reg with
  | none => cases faulted
  | some reg => exact of_readRegister_error faulted

theorem of_effectiveOffset_error {mo : MemoryOperand}
    (faulted : effectiveOffset i mo m = .error e m') :
    m' = m ∧ e = refusal i m.registers := by
  rcases of_bind_error faulted with first | ⟨base, m₁, first, rest⟩
  · exact of_readTerm_error first
  obtain ⟨rfl, -⟩ := of_readTerm_ok first
  rcases of_bind_error rest with second | ⟨index, m₂, -, last⟩
  · exact of_readTerm_error second
  · cases last

theorem of_addressOf_error {mo : MemoryOperand} (faulted : addressOf i mo m = .error e m') :
    m' = m ∧ e = refusal i m.registers := by
  rcases of_bind_error faulted with first | ⟨segment, m₁, first, rest⟩
  · exact of_readRegister_error first
  obtain ⟨rfl, -⟩ := of_readRegister_ok first
  rcases of_bind_error rest with second | ⟨offset, m₂, -, last⟩
  · exact of_effectiveOffset_error second
  · cases last

theorem of_readCell_error {p : FarPtr} {w : Width} (faulted : readCell p w m = .error e m') :
    m' = m ∧ m.memory.segmentAt p w.size = .error e := by
  cases w with
  | byte =>
    rcases of_bind_error faulted with first | ⟨b, m₁, -, last⟩
    · obtain ⟨refused, rfl⟩ := of_reading_error first
      exact ⟨rfl, Memory.segmentAt_of_error refused⟩
    · cases last
  | word =>
    have first : reading (·.readWord p) m = .error e m' := faulted
    obtain ⟨refused, rfl⟩ := of_reading_error first
    exact ⟨rfl, Memory.segmentAt_of_error refused⟩

/-- An operand that has been read names only what the machine has. -/
theorem not_foreign_of_read {v : UInt16} (found : read i o m = .ok v m') : o.foreign = false := by
  cases o with
  | register reg =>
    obtain ⟨-, there⟩ := of_readRegister_ok found
    rw [Operand.foreign_register]
    exact Bool.eq_false_iff.2 (Registers.not_foreign_of_read? there)
  | memory mo =>
    obtain ⟨p, m₁, first, -⟩ := of_bind_ok found
    exact Registers.not_foreign_of_address? (of_addressOf_ok first).2
  | immediate _ _ => rfl
  | wide _ => cases found

/-- The instruction is refused, or an access to one of its operands faults. -/
def Refused (i : Instruction) (m : Machine σ) (e : Fault) : Prop :=
  e = refusal i m.registers ∨ i.operation.Denied m.registers m.memory e

theorem of_read_error (listed : o ∈ i.operation.operands) (faulted : read i o m = .error e m') :
    m' = m ∧ Refused i m e := by
  cases o with
  | register reg =>
    obtain ⟨rfl, refused⟩ := of_readRegister_error faulted
    exact ⟨rfl, .inl refused⟩
  | memory mo =>
    rcases of_bind_error faulted with first | ⟨p, m₁, first, cell⟩
    · obtain ⟨rfl, refused⟩ := of_addressOf_error first
      exact ⟨rfl, .inl refused⟩
    · obtain ⟨rfl, address⟩ := of_addressOf_ok first
      obtain ⟨rfl, denied⟩ := of_readCell_error cell
      exact ⟨rfl, .inr ⟨p, _, .operand listed address, denied⟩⟩
  | immediate _ _ => cases faulted
  | wide _ =>
    cases faulted
    exact ⟨rfl, .inl rfl⟩

theorem of_readFar_error {mo : MemoryOperand} (named : i.operation.pointer? = some mo)
    (faulted : readFar i mo m = .error e m') : m' = m ∧ Refused i m e := by
  rcases of_bind_error faulted with first | ⟨p, m₁, first, last⟩
  · obtain ⟨rfl, refused⟩ := of_addressOf_error first
    exact ⟨rfl, .inl refused⟩
  · obtain ⟨rfl, address⟩ := of_addressOf_ok first
    obtain ⟨denied, rfl⟩ := of_reading_error last
    exact ⟨rfl, .inr ⟨p, 4, .pointer named address, Memory.segmentAt_of_error denied⟩⟩

/-- Nothing is stored where the machine has no place. -/
theorem write_of_foreign (foreign : o.foreign = true) (v : UInt16) (m : Machine σ) :
    write i o v m = .error (refusal i m.registers) m := by
  cases o with
  | register reg =>
    rw [Operand.foreign_register] at foreign
    rw [write, writeRegister, bind_of_ok (registers_eq_ok m), Registers.write?_of_foreign foreign]
    rfl
  | memory mo =>
    have unfound : addressOf i mo m = .error (refusal i m.registers) m := by
      cases ran : addressOf i mo m with
      | ok p m₁ =>
        have native := Registers.not_foreign_of_address? (of_addressOf_ok ran).2
        rw [foreign] at native
        cases native
      | error e m₁ =>
        obtain ⟨rfl, rfl⟩ := of_addressOf_error ran
        rfl
    rw [write, bind_of_error unfound]
  | immediate _ _ => cases foreign
  | wide _ => rfl

/-- The step ends in a refusal or in the fault of an access, and by then only
bytes have been written. -/
def Refuses (i : Instruction) (x : Exec σ α) (m : Machine σ) : Prop :=
  ∃ e left, x m = .error e left ∧ Writes m left ∧ Refused i m e

namespace Refuses

variable {β : Type} {x : Exec σ α} {f : α → Exec σ β}

theorem bind (refuses : Refuses i x m) : Refuses i (x >>= f) m := by
  obtain ⟨e, left, ran, rest⟩ := refuses
  exact ⟨e, left, bind_of_error ran, rest⟩

/-- Where an operand is read, the rest of the instruction need only be looked at if
the operand is there. -/
theorem read {f : UInt16 → Exec σ α} (listed : o ∈ i.operation.operands)
    (rest : o.foreign = false → ∀ v, Refuses i (f v) m) : Refuses i (read i o >>= f) m := by
  cases ran : Processor.read i o m with
  | ok v m₁ =>
    obtain rfl := of_read_ok ran
    obtain ⟨e, left, faulted, last⟩ := rest (not_foreign_of_read ran) v
    exact ⟨e, left, by rw [bind_of_ok ran, faulted], last⟩
  | error e m₁ =>
    obtain ⟨rfl, refused⟩ := of_read_error listed ran
    exact ⟨e, m₁, bind_of_error ran, .refl _, refused⟩

/-- Both operands are read, and one of them is not there. -/
theorem either {a b : Operand} {f : UInt16 → UInt16 → Exec σ α}
    (left : a ∈ i.operation.operands) (right : b ∈ i.operation.operands)
    (foreign : a.foreign = true ∨ b.foreign = true) :
    Refuses i (Processor.read i a >>= fun x => Processor.read i b >>= f x) m := by
  refine read left fun first x => read right fun second y => ?_
  rw [first, second] at foreign
  simp at foreign

theorem readFar {mo : MemoryOperand} {f : FarPtr → Exec σ α}
    (named : i.operation.pointer? = some mo)
    (rest : (Operand.memory mo).foreign = false → ∀ p, Refuses i (f p) m) :
    Refuses i (readFar i mo >>= f) m := by
  cases ran : Processor.readFar i mo m with
  | ok p m₁ =>
    obtain ⟨a, m₂, first, last⟩ := of_bind_ok ran
    obtain ⟨rfl, address⟩ := of_addressOf_ok first
    obtain ⟨-, rfl⟩ := of_reading_ok last
    obtain ⟨e, left, faulted, last⟩ := rest (Registers.not_foreign_of_address? address) p
    exact ⟨e, left, by rw [bind_of_ok ran, faulted], last⟩
  | error e m₁ =>
    obtain ⟨rfl, refused⟩ := of_readFar_error named ran
    exact ⟨e, m₁, bind_of_error ran, .refl _, refused⟩

theorem write (foreign : o.foreign = true) (v : UInt16) : Refuses i (write i o v) m :=
  ⟨_, m, write_of_foreign foreign v m, .refl m, .inl rfl⟩

/-- The refusal may come after registers have changed. -/
theorem later {n : Machine σ} {a : α} (ran : x m = .ok a n)
    (code : n.registers.cs = m.registers.cs) (writes : Writes m n)
    (refused : f a n = .error (refusal i n.registers) n) : Refuses i (x >>= f) m := by
  have same : refusal i n.registers = refusal i m.registers := by rw [refusal, code, refusal]
  exact ⟨_, n, by rw [bind_of_ok ran, refused], writes, .inl same⟩

end Refuses

/-- A jump and a call look for their target first. -/
theorem refuses_target {target : Target} (operands : i.operation.operands = target.operands)
    (pointer : i.operation.pointer? = target.pointer?)
    (foreign :
      (target.operands.any Operand.foreign ||
        target.pointer?.any fun m => (Operand.memory m).foreign) = true)
    (m : Machine σ) : Refuses i (jump i target) m ∧ Refuses i (call i target) m := by
  cases target with
  | far _ | relative _ => cases foreign
  | near o =>
    have lacking : o.foreign = true := by simpa [Target.operands, Target.pointer?] using foreign
    have refuses (f : UInt16 → Exec σ Unit) : Refuses i (read i o >>= f) m := by
      refine .read (by rw [operands]; exact .head _) fun native => ?_
      rw [native] at lacking
      cases lacking
    exact ⟨refuses _, refuses _⟩
  | farThrough mo =>
    have lacking : (Operand.memory mo).foreign = true := by
      simpa [Target.operands, Target.pointer?] using foreign
    have refuses (f : FarPtr → Exec σ Unit) : Refuses i (readFar i mo >>= f) m := by
      refine .readFar pointer fun native => ?_
      rw [native] at lacking
      cases lacking
    exact ⟨refuses _, refuses _⟩

theorem refuses_pop {dst : Operand} (pops : i.operation = .pop dst) (foreign : dst.foreign = true)
    (m : Machine σ) :
    Refuses i (pop >>= fun v => write i dst v) m := by
  cases stored : m.memory.readWord m.registers.ssSp with
  | ok v =>
    exact .later (pop_eq_ok stored) rfl ⟨rfl, .refl _, .refl _⟩ (write_of_foreign foreign v _)
  | error e =>
    have found : (readWord m.registers.ssSp : Exec σ UInt16) m = .error e m := by
      rw [readWord, reading, stored]
    have faulted : (pop : Exec σ UInt16) m = .error e m := by
      rw [pop, bind_of_ok (registers_eq_ok m), bind_of_error found]
    exact ⟨e, m, bind_of_error faulted, .refl m,
      .inr ⟨_, 2, .popped pops, Memory.segmentAt_of_error stored⟩⟩

theorem refuses_lea {dst : Operand} {mo : MemoryOperand}
    (foreign : dst.foreign = true ∨
      (∃ reg, mo.base = some reg ∧ reg.foreign = true) ∨
        ∃ reg, mo.index = some reg ∧ reg.foreign = true)
    (m : Machine σ) : Refuses i (effectiveOffset i mo >>= fun offset => write i dst offset) m := by
  cases ran : effectiveOffset i mo m with
  | error e m₁ =>
    obtain ⟨rfl, refused⟩ := of_effectiveOffset_error ran
    exact ⟨e, m₁, bind_of_error ran, .refl _, .inl refused⟩
  | ok offset m₁ =>
    obtain ⟨base, m₂, first, rest⟩ := of_bind_ok ran
    obtain ⟨rfl, baseRead⟩ := of_readTerm_ok first
    obtain ⟨index, m₃, second, last⟩ := of_bind_ok rest
    obtain ⟨rfl, indexRead⟩ := of_readTerm_ok second
    cases last
    rcases foreign with foreign | ⟨reg, named, foreign⟩ | ⟨reg, named, foreign⟩
    · exact .later ran rfl (.refl _) (write_of_foreign foreign _ _)
    · exact absurd foreign (Registers.not_foreign_of_term? baseRead named)
    · exact absurd foreign (Registers.not_foreign_of_term? indexRead named)

/-- An instruction that looks for what the machine does not have ends in a refusal, or in a
fault on the way to it. -/
theorem refuses_execute (board : Board σ) (foreign : i.operation.foreign = true) (m : Machine σ) :
    Refuses i (execute board i) m := by
  obtain ⟨offset, length, operation⟩ := i
  cases operation with
  | unsupported _ => exact ⟨_, m, rfl, .refl m, .inl rfl⟩
  | mov dst src | movzx dst src | movsx dst src =>
    refine .read (.head _) fun native v => .write ?_ _
    simpa [Operation.foreign, Operation.refused, Operation.operands, Operation.pointer?,
      native] using foreign
  | xchg a b | arith _ a b | logic _ a b | shift _ a b | sal a b | output a b =>
    refine .either (.head _) (.tail _ (.head _)) ?_
    simpa [Operation.foreign, Operation.refused, Operation.operands,
      Operation.pointer?] using foreign
  | push o | unary _ o | not o | mul o | imul o | div o | idiv o | input _ o =>
    refine .read (.head _) fun native => ?_
    simp [Operation.foreign, Operation.refused, Operation.operands, Operation.pointer?,
      native] at foreign
  | imulTo dst a b =>
    refine .read (.tail _ (.head _)) fun first x =>
      .read (.tail _ (.tail _ (.head _))) fun second y => ?_
    refine .later rfl rfl ⟨rfl, .refl _, .refl _⟩ (write_of_foreign ?_ _ _)
    simpa [Operation.foreign, Operation.refused, Operation.operands, Operation.pointer?, first,
      second] using foreign
  | loadPointer s dst mo =>
    refine .readFar rfl fun native p => .bind (.write ?_ _)
    simpa [Operation.foreign, Operation.refused, Operation.operands, Operation.pointer?,
      native] using foreign
  | jmp target => exact (refuses_target rfl rfl foreign m).1
  | call target => exact (refuses_target rfl rfl foreign m).2
  | pop dst =>
    refine refuses_pop rfl ?_ m
    simpa [Operation.foreign, Operation.refused, Operation.operands,
      Operation.pointer?] using foreign
  | lea dst mo =>
    refine refuses_lea ?_ m
    simpa [Operation.foreign, Operation.refused, Operation.operands,
      Operation.pointer?] using foreign
  | _ => cases foreign

/-- Both instructions are named alike in messages. -/
structure Namesake (j i : Instruction) : Prop where
  offset : j.offset = i.offset
  name : j.name = i.name

theorem namesake_narrowed (i : Instruction) : Namesake i.narrowed i := by
  refine ⟨rfl, ?_⟩
  obtain ⟨offset, length, operation⟩ := i
  cases operation with
  | string op w s again => cases w <;> rfl
  | loadPointer s _ _ => cases s <;> rfl
  | _ => rfl

namespace Namesake

variable {j : Instruction}

theorem refuse (alike : Namesake j i) : (refuse j : Exec σ α) = refuse i := by
  rw [Processor.refuse, Processor.refuse, alike.offset, alike.name]

theorem readRegister (alike : Namesake j i) (reg : Register) :
    (readRegister j reg : Exec σ UInt16) = readRegister i reg := by
  rw [Processor.readRegister, Processor.readRegister, alike.refuse]

theorem effectiveOffset (alike : Namesake j i) (mo : MemoryOperand) :
    (effectiveOffset j mo : Exec σ UInt16) = effectiveOffset i mo := by
  have term (reg : Option Register) : (readTerm j reg : Exec σ UInt16) = readTerm i reg := by
    cases reg with
    | none => rfl
    | some reg => exact alike.readRegister reg
  rw [Processor.effectiveOffset, Processor.effectiveOffset, term]
  simp only [term]

/-- Where memory lies does not depend on how long it is. -/
theorem addressOf (alike : Namesake j i) (mo : MemoryOperand) (size : MemorySize) :
    (addressOf j { mo with size := size } : Exec σ FarPtr) = addressOf i mo := by
  have offset : (Processor.effectiveOffset j { mo with size := size } : Exec σ UInt16) =
      Processor.effectiveOffset i mo := alike.effectiveOffset mo
  rw [Processor.addressOf, Processor.addressOf, alike.readRegister, offset]

theorem readFar (alike : Namesake j i) (mo : MemoryOperand) (size : MemorySize) :
    (readFar j { mo with size := size } : Exec σ FarPtr) = readFar i mo := by
  rw [Processor.readFar, Processor.readFar, alike.addressOf]

/-- What is read of an operand depends on its width. -/
theorem read (alike : Namesake j i) (o : Operand) :
    (read j o.narrowed : Exec σ UInt16) = read i o := by
  cases o with
  | register reg => exact alike.readRegister reg
  | memory mo =>
    have cell : (if mo.size = .byte then MemorySize.byte else .word).width = mo.size.width :=
      Operand.width_narrowed (.memory mo)
    rw [Operand.narrowed, Processor.read, Processor.read, alike.addressOf]
    dsimp only
    rw [cell]
  | immediate _ _ => rfl
  | wide _ => exact alike.refuse

theorem write (alike : Namesake j i) (o : Operand) (v : UInt16) :
    (write j o.narrowed v : Exec σ Unit) = write i o v := by
  cases o with
  | register reg =>
    have refuse : (Processor.refuse j : Exec σ Unit) = Processor.refuse i := alike.refuse
    change (writeRegister j reg v : Exec σ Unit) = writeRegister i reg v
    rw [writeRegister, writeRegister, refuse]
  | memory mo =>
    have cell : (if mo.size = .byte then MemorySize.byte else .word).width = mo.size.width :=
      Operand.width_narrowed (.memory mo)
    rw [Operand.narrowed, Processor.write, Processor.write, alike.addressOf]
    dsimp only
    rw [cell]
  | immediate _ _ | wide _ => exact alike.refuse

end Namesake

theorem lookUp_narrowed (s : SegmentRegister) : (lookUp s.narrowed : Exec σ Unit) = lookUp s := by
  cases s <;> rfl

theorem stringInstruction_narrowed (op : StringOp) (w : Width) (s : SegmentRegister)
    (again : Option Repeat) :
    (stringInstruction op w s.narrowed again : Exec σ Unit) = stringInstruction op w s again := by
  cases s <;> rfl

theorem width_accumulator (w : Width) : (Operand.register (accumulator w)).width = w := by
  cases w <;> rfl

theorem jump_narrowed {j : Instruction} (alike : Namesake j i) (target : Target) :
    (jump j target.narrowed : Exec σ Unit) = jump i target ∧
      (call j target.narrowed : Exec σ Unit) = call i target := by
  cases target with
  | far _ | relative _ => exact ⟨rfl, rfl⟩
  | near o => simp only [Target.narrowed, jump, call, alike.read, and_self]
  | farThrough mo => simp only [Target.narrowed, jump, call, alike.readFar, and_self]

/-- The processor makes no difference between an instruction and the narrowed one. -/
theorem execute_narrowed (board : Board σ) (i : Instruction) :
    execute board i.narrowed = execute board i := by
  have alike := namesake_narrowed i
  have operation : i.narrowed.operation = i.operation.narrowed := rfl
  revert alike operation
  generalize i.narrowed = j
  intro alike operation
  have read := alike.read (σ := σ)
  have write := alike.write (σ := σ)
  rw [execute, execute, operation]
  cases i.operation with
  | mov dst src => simp only [Operation.narrowed, read, write]
  | xchg a b => simp only [Operation.narrowed, exchange, read, write]
  | lea dst mo => simp only [Operation.narrowed, alike.effectiveOffset, write]
  | loadPointer s dst mo =>
    cases s <;> simp only [Operation.narrowed, loadPointer, alike.readFar, write]
  | movzx dst src | movsx dst src =>
    simp only [Operation.narrowed, read, write, Operand.width_narrowed]
  | xlat s => exact lookUp_narrowed s
  | push src => simp only [Operation.narrowed, read]
  | pop dst => simp only [Operation.narrowed, write]
  | arith op dst src =>
    cases op <;> simp only [Operation.narrowed, arith, read, write, Operand.width_narrowed]
  | unary op dst =>
    cases op <;> simp only [Operation.narrowed, unary, read, write, Operand.width_narrowed]
  | not dst => simp only [Operation.narrowed, read, write]
  | mul src | imul src => simp only [Operation.narrowed, read, Operand.width_narrowed]
  | imulTo dst a b => simp only [Operation.narrowed, multiplyTo, read, write]
  | div src | idiv src =>
    simp only [Operation.narrowed, divide, read, Operand.width_narrowed, alike.offset]
  | logic op dst src =>
    cases op <;> simp only [Operation.narrowed, logic, read, write, Operand.width_narrowed]
  | shift op dst count | sal dst count =>
    simp only [Operation.narrowed, Processor.shift, read, write, Operand.width_narrowed]
  | jmp target => exact (jump_narrowed alike target).1
  | call target => exact (jump_narrowed alike target).2
  | input dst port => simp only [Operation.narrowed, input, read, width_accumulator]
  | output port src => simp only [Operation.narrowed, output, read, Operand.width_narrowed]
  | string op w s again => exact stringInstruction_narrowed op w s again
  | unsupported _ => exact alike.refuse
  | _ => rfl

/-- The tick is the instruction `j`, on a machine that differs in IP alone, as far as can be
seen. -/
def CarriesOut (board : Board σ) (m : Machine σ) (j : Instruction) : Prop :=
  ∃ opened, Machine.Alike { m with registers := m.registers.past j } opened ∧
    tick board m =
      match execute board j opened with
      | .ok _ left =>
        .ok (if left.registers.halt then .halted else .executed)
          { left with memory := left.memory.commit }
      | .error e left =>
        .error e { left with registers := m.registers, memory := left.memory.rollback }

namespace AtInstruction

/-- What faults on an operand faults in the same way before the tick has begun. -/
theorem denied_before {memory : Memory}
    (fetched : m.memory.fetch m.registers.csIp = .ok (i, memory))
    (denied : i.operation.Denied (m.registers.past i) memory.beginJournal e) :
    i.operation.Denied m.registers m.memory e := by
  obtain ⟨p, length, access, refused⟩ := denied
  have same : m.memory.SameAllocations memory.beginJournal :=
    (Memory.SameAllocations.of_fetch fetched).trans (.beginJournal memory)
  refine ⟨p, length, ?_, same.segmentAt_eq_error_iff.1 refused⟩
  cases access with
  | operand listed address =>
    rw [Registers.address?_past] at address
    exact .operand listed address
  | pointer named address =>
    rw [Registers.address?_past] at address
    exact .pointer named address
  | popped pops => exact .popped pops

theorem refused (h : AtInstruction board m i) (foreign : i.operation.foreign = true) :
    ∃ e, OnlyFaults board m e ∧
      (e = .unimplementedOpcode m.registers.csIp i.name ∨
        i.operation.Denied m.registers m.memory e) := by
  obtain ⟨memory, fetched⟩ := h.fetched
  obtain ⟨e, left, ran, writes, refused⟩ :=
    refuses_execute board foreign ⟨m.registers.past i, memory.beginJournal, m.host⟩
  refine ⟨e, h.alike_of_error fetched ran writes, ?_⟩
  rcases refused with rfl | denied
  · refine .inl ?_
    rw [← h.address_eq]
    rfl
  · exact .inr (denied_before fetched denied)

theorem carriesOut_narrowed (h : AtInstruction board m i) : CarriesOut board m i.narrowed := by
  obtain ⟨opened, alike, -, ticked⟩ := h.exists_opened
  refine ⟨opened, alike, ?_⟩
  rw [execute_narrowed]
  exact ticked

end AtInstruction

/-- A tick whose instruction looks for a register that the machine does not have, as an operand
or in an address, is refused, or an access to one of the operands faults; registers, memory and
host are as before. Every other instruction is carried out as one that takes no 32-bit processor:
words stand for longer memory, the accumulator for what IN names, and DS for the segment of a
table or string that is not there. The decoder has narrowed two more forms by then. A 32-bit
displacement without registers is read as its low word, and the address size of tables and
strings makes no difference. -/
theorem wide_forms_refused_or_narrowed (h : AtInstruction board m i) :
    (i.operation.foreign = true →
      ∃ e, OnlyFaults board m e ∧
        (e = .unimplementedOpcode m.registers.csIp i.name ∨
          i.operation.Denied m.registers m.memory e)) ∧
    (i.operation.foreign = false →
      i.narrowed.operation.wide = false ∧ CarriesOut board m i.narrowed) ∧
    (∀ (p : Prefixes) (b b' : UInt8), b'.toNat / 8 % 8 = b.toNat / 8 % 8 →
      b.toNat / 64 = 0 → b.toNat % 8 = 5 → b'.toNat / 64 = 0 → b'.toNat % 8 = 6 →
      ∀ (d : UInt32) (rest : List UInt8), ∃ place,
        (ModRM.ofByte { p with wideAddress := true } b).run (bytesOfDword d ++ rest) =
          some (place, 4) ∧
        (ModRM.ofByte { p with wideAddress := false } b').run (bytesOfWord (lowWord d) ++ rest) =
          some (place, 2)) ∧
    ∀ opcode ∈ OpcodeMap.impliedAddresses, ∀ (p : Prefixes) (wide : Bool),
      OpcodeMap.primary { p with wideAddress := wide } opcode = OpcodeMap.primary p opcode := by
  refine ⟨h.refused, fun native => ?_, fun p b b' reg mode bare mode' bare' => ?_,
    fun opcode => ?_⟩
  · exact ⟨Operation.wide_narrowed native, h.carriesOut_narrowed⟩
  · exact ModRM.bare_displacement_cut p reg mode bare mode' bare'
  · exact OpcodeMap.primary_of_implied

/-- In segment 2, where a table is looked up through FS and then a byte is loaded
through it; DS is segment 3. -/
def overridden (ip : UInt16) : Registers :=
  { Registers.reset stackTop with cs := 2, ds := 3, ip := ip }

/-- The load is refused, and the table is the one in DS. -/
theorem load_refused_and_table_narrowed :
    ∃ memory : Memory,
      OnlyFaults .bare (⟨overridden 2, memory, ()⟩ : Machine Unit)
        (.unimplementedOpcode ⟨2, 2⟩ "Mov") ∧
      CarriesOut .bare (⟨overridden 0, memory, ()⟩ : Machine Unit) ⟨0, 2, .xlat .ds⟩ := by
  let source : MemoryOperand := { segment := .fs, size := .byte }
  let load : Instruction := ⟨2, 4, .mov (.register (.byte .al)) (.memory source)⟩
  obtain ⟨memory, memory₁, memory₂, added, table, loaded⟩ :
      ∃ memory memory₁ memory₂ : Memory,
      Memory.fresh.addSegment 2 .code [0x64, 0xd7, 0x64, 0xa0, 0x00, 0x00] = .ok memory ∧
      memory.fetch ⟨2, 0⟩ = .ok (⟨0, 2, .xlat .fs⟩, memory₁) ∧
      memory.fetch ⟨2, 2⟩ = .ok (load, memory₂) :=
    ⟨_, _, _, rfl, rfl, rfl⟩
  have reachable : memory.Reachable := .addSegment .fresh added
  have atLoad : AtInstruction .bare (⟨overridden 2, memory, ()⟩ : Machine Unit) load :=
    ⟨reachable, rfl, rfl, memory₂, loaded⟩
  have atTable :
      AtInstruction .bare (⟨overridden 0, memory, ()⟩ : Machine Unit) ⟨0, 2, .xlat .fs⟩ :=
    ⟨reachable, rfl, rfl, memory₁, table⟩
  obtain ⟨e, faults, refused⟩ := (wide_forms_refused_or_narrowed atLoad).1 rfl
  obtain ⟨-, carried⟩ := (wide_forms_refused_or_narrowed atTable).2.1 rfl
  refine ⟨memory, ?_, carried⟩
  rcases refused with rfl | ⟨p, length, access, -⟩
  · exact faults
  · cases access with
    | operand listed address =>
      rcases List.mem_cons.1 listed with same | listed
      · cases same
        cases address
      · cases List.mem_singleton.1 listed
    | pointer named => cases named
    | popped pops => cases pops

/-- A table is looked up through FS, and AL becomes the byte that DS:BX points to. -/
theorem foreign_table_read_in_data_segment :
    ∃ (memory memory₁ : Memory) (m' : Machine Unit),
      memory.fetch ⟨2, 0⟩ = .ok (⟨0, 2, .xlat .fs⟩, memory₁) ∧
      (Operation.xlat .fs).wide = true ∧
      tick .bare ⟨overridden 0, memory, ()⟩ = .ok .executed m' ∧ m'.registers.al = 0x41 :=
  ⟨((Memory.fresh.addSegment 2 .code [0x64, 0xd7]).bind
    (·.addSegment 3 .data [0x41])).toOption.getD .fresh, _, _,
    rfl, rfl, rfl, rfl⟩

end Processor

end RealMode
