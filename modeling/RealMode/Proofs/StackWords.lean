import RealMode.Proofs.MemoryAccess
import RealMode.Proofs.SegmentBytes
import RealMode.Processor.Frames

/-!
# Words on the stack

A word can be stored where its segment is there and it does not run past the end. The stack pointer
wraps inside its segment, so the two words of a far return address need not be neighbours. What has
been pushed is popped again, whatever else the stack holds.
-/

namespace RealMode

theorem toNat_two_mul_ofNat {n : Nat} (few : n < 32768) : (2 * UInt16.ofNat n).toNat = 2 * n := by
  have two : (2 : UInt16).toNat = 2 := rfl
  rw [UInt16.toNat_mul, UInt16.toNat_ofNat', two]
  omega

/-- Words at even distances do not overlap. -/
theorem apart_of_parity {a b : UInt16} (parity : a.toNat % 2 = b.toNat % 2) (different : a ≠ b) :
    a.toNat + 2 ≤ b.toNat ∨ b.toNat + 2 ≤ a.toNat := by
  have values : a.toNat ≠ b.toNat := fun same => different (UInt16.toNat_inj.1 same)
  omega

namespace Memory

variable {m m' : Memory} {p q : FarPtr}

/-- `length` bytes from `p` on lie in a segment that is there. -/
def Maps (m : Memory) (p : FarPtr) (length : Nat) : Prop :=
  m.hasSegment p.segment = true ∧ p.offset.toNat + length ≤ Segment.size

theorem Maps.segmentAt {length : Nat} (maps : m.Maps p length) :
    ∃ s, m.segments.get? p.segment = some s ∧ m.segmentAt p length = .ok s := by
  obtain ⟨s, found⟩ := hasSegment_iff.mp maps.1
  exact ⟨s, found, segmentAt_eq_ok_iff.mpr ⟨found, maps.2⟩⟩

theorem maps_of_segmentAt {length : Nat} {s : Segment} (found : m.segmentAt p length = .ok s) :
    m.Maps p length :=
  ⟨hasSegment_iff.mpr ⟨s, (segmentAt_eq_ok_iff.mp found).1⟩,
    (segmentAt_eq_ok_iff.mp found).2⟩

theorem maps_of_readWord {w : UInt16} (h : m.readWord p = .ok w) : m.Maps p 2 := by
  cases found : m.segmentAt p 2 with
  | ok s => exact maps_of_segmentAt found
  | error e =>
    rw [readWord, found] at h
    cases h

theorem maps_of_writeWord {value : UInt16} (h : m.writeWord p value = .ok m') : m.Maps p 2 := by
  obtain ⟨s, found, fits, _⟩ := writeBytes_eq_ok_iff.mp h
  exact ⟨hasSegment_iff.mpr ⟨s, found⟩, fits⟩

/-- What storing a word makes of a memory. -/
structure WordStored (m : Memory) (p : FarPtr) (value : UInt16) (m' : Memory) : Prop where
  read : m'.readWord p = .ok value
  others : ∀ q : FarPtr,
    q.segment ≠ p.segment ∨ q.offset.toNat + 2 ≤ p.offset.toNat ∨
        p.offset.toNat + 2 ≤ q.offset.toNat →
      m'.readWord q = m.readWord q
  maps : ∀ (q : FarPtr) (length : Nat), m'.Maps q length ↔ m.Maps q length

theorem wordStored_of_writeWord {value : UInt16} (h : m.writeWord p value = .ok m') :
    m.WordStored p value m' := by
  obtain ⟨s, found, fits, rfl⟩ := writeBytes_eq_ok_iff.mp h
  have fits : p.offset.toNat + 2 ≤ Segment.size := fits
  refine ⟨?_, fun q apart => ?_, fun q length => ?_⟩
  · rw [readWord_eq (WordMap.get?_insert_self _ _ _) fits, Segment.wordAt_write s fits]
  · by_cases same : q.segment = p.segment
    · by_cases inside : q.offset.toNat + 2 ≤ Segment.size
      · have clear := apart.resolve_left (fun differ => differ same)
        rw [readWord_eq (s := s.write p.offset (bytesOfWord value)) (by simp [same]) inside,
          readWord_eq (s := s) (by rw [same, found]) inside,
          Segment.wordAt_write_of_apart s fits inside clear]
      · simp [readWord, segmentAt, same, found, Nat.lt_of_not_le inside]
    · simp [readWord, segmentAt, WordMap.get?_insert_of_ne _ _ same]
  · simp only [Maps, hasSegment, WordMap.contains]
    by_cases same : q.segment = p.segment
    · simp [same, found]
    · rw [WordMap.get?_insert_of_ne _ _ same]

theorem exists_writeWord (maps : m.Maps p 2) (value : UInt16) :
    ∃ m', m.writeWord p value = .ok m' := by
  obtain ⟨s, found, _⟩ := maps.segmentAt
  exact ⟨_, writeBytes_eq_ok_iff.mpr ⟨s, found, maps.2, rfl⟩⟩

theorem exists_error_writeWord (unmapped : ¬ m.Maps p 2) (value : UInt16) :
    ∃ e, m.writeWord p value = .error e := by
  cases h : m.writeWord p value with
  | error e => exact ⟨e, rfl⟩
  | ok m' => exact absurd (maps_of_writeWord h) unmapped

/-- A word is its two bytes. -/
theorem readWord_congr (word : p.offset.toNat + 2 ≤ Segment.size)
    (low : m'.readByte p = m.readByte p)
    (high : m'.readByte ⟨p.segment, p.offset + 1⟩ = m.readByte ⟨p.segment, p.offset + 1⟩)
    {w : UInt16} (h : m.readWord p = .ok w) : m'.readWord p = .ok w := by
  obtain ⟨s, found, _⟩ := (maps_of_readWord h).segmentAt
  rw [readByte_eq found] at low
  rw [readByte_eq (p := ⟨p.segment, p.offset + 1⟩) found] at high
  rw [readWord_eq found word] at h
  cases there : m'.segments.get? p.segment with
  | none => simp [readByte, segmentAt, there, Bind.bind, Except.bind] at low
  | some t =>
    rw [readByte_eq there] at low
    rw [readByte_eq (p := ⟨p.segment, p.offset + 1⟩) there] at high
    rw [readWord_eq there word, ← h]
    simp only [Except.ok.injEq] at low high
    rw [Segment.wordAt, Segment.wordAt, low, high]

end Memory

namespace Exec

variable {σ α β : Type} {m m' : Machine σ}

theorem bind_of_ok {x : Exec σ α} {f : α → Exec σ β} {a : α} (first : x m = .ok a m') :
    (x >>= f) m = f a m' := by
  simp only [Bind.bind, EStateM.bind, first]

theorem bind_of_error {x : Exec σ α} {f : α → Exec σ β} {e : Fault}
    (first : x m = .error e m') :
    (x >>= f) m = .error e m' := by
  simp only [Bind.bind, EStateM.bind, first]

theorem of_bind_ok {x : Exec σ α} {f : α → Exec σ β} {b : β}
    (ran : (x >>= f) m = .ok b m') :
    ∃ a m₁, x m = .ok a m₁ ∧ f a m₁ = .ok b m' := by
  cases first : x m with
  | ok a m₁ =>
    rw [bind_of_ok first] at ran
    exact ⟨a, m₁, rfl, ran⟩
  | error e m₁ =>
    rw [bind_of_error first] at ran
    cases ran

theorem registers_eq_ok (m : Machine σ) : registers m = .ok m.registers m := rfl

theorem modifyRegisters_eq_ok (f : Registers → Registers) (m : Machine σ) :
    modifyRegisters f m = .ok () { m with registers := f m.registers } := rfl

theorem push_eq_ok {value : UInt16} {memory : Memory}
    (stored : m.memory.writeWord ⟨m.registers.ss, m.registers.sp - 2⟩ value = .ok memory) :
    push value m =
      .ok () { m with registers :=
        { m.registers with sp := m.registers.sp - 2 }, memory := memory } := by
  have changed : (writeWord ⟨m.registers.ss, m.registers.sp - 2⟩ value : Exec σ Unit)
      { m with registers := { m.registers with sp := m.registers.sp - 2 } } =
      .ok () { m with registers :=
        { m.registers with sp := m.registers.sp - 2 }, memory := memory } := by
    simp only [writeWord, changing, stored]
  exact changed

theorem push_eq_error {value : UInt16} {e : Fault}
    (refused : m.memory.writeWord ⟨m.registers.ss, m.registers.sp - 2⟩ value = .error e) :
    push value m =
      .error e { m with registers := { m.registers with sp := m.registers.sp - 2 } } := by
  have changed : (writeWord ⟨m.registers.ss, m.registers.sp - 2⟩ value : Exec σ Unit)
      { m with registers := { m.registers with sp := m.registers.sp - 2 } } =
      .error e { m with registers := { m.registers with sp := m.registers.sp - 2 } } := by
    simp only [writeWord, changing, refused]
  exact changed

theorem pop_eq_ok {value : UInt16} (stored : m.memory.readWord m.registers.ssSp = .ok value) :
    pop m = .ok value { m with registers := { m.registers with sp := m.registers.sp + 2 } } := by
  have read : (readWord m.registers.ssSp : Exec σ UInt16) m = .ok value m := by
    simp only [readWord, reading, stored]
  have rest := bind_of_ok (f := fun value => do
    modifyRegisters fun r => { r with sp := r.sp + 2 }
    return value) read
  exact rest

end Exec

namespace Processor

open Exec

variable {σ : Type} {m : Machine σ} {p : FarPtr}

/-- There is room for a far return address below the top of the stack. -/
def HasRoom (m : Machine σ) : Prop :=
  m.memory.Maps ⟨m.registers.ss, m.registers.sp - 2⟩ 2 ∧
    m.memory.Maps ⟨m.registers.ss, m.registers.sp - 4⟩ 2

/-- The words at the top of the stack are the far return address `p`. -/
structure ReturnsTo (m : Machine σ) (p : FarPtr) : Prop where
  offset : m.memory.readWord ⟨m.registers.ss, m.registers.sp⟩ = .ok p.offset
  segment : m.memory.readWord ⟨m.registers.ss, m.registers.sp + 2⟩ = .ok p.segment

/-- Returning to the halt sentinel halts; every other return leaves the halt state alone. -/
def returned (r : Registers) (p : FarPtr) (popBytes : UInt16) : Registers :=
  { r with
    cs := p.segment
    ip := p.offset
    sp := r.sp + 4 + popBytes
    halt := r.halt || decide (p = .haltSentinel) }

theorem popAddress_eq_ok (address : ReturnsTo m p) :
    popIp m = .ok ()
      { m with registers := { m.registers with ip := p.offset, sp := m.registers.sp + 2 } } ∧
      popCs { m with registers := { m.registers with ip := p.offset, sp := m.registers.sp + 2 } } =
        .ok () { m with
          registers :=
            { m.registers with
              cs := p.segment
              ip := p.offset
              sp := m.registers.sp + 2 + 2 } } := by
  have offset := pop_eq_ok address.offset
  have segment :
      pop { m with registers := { m.registers with ip := p.offset, sp := m.registers.sp + 2 } } =
      .ok p.segment { m with
        registers := { m.registers with ip := p.offset, sp := m.registers.sp + 2 + 2 } } :=
    pop_eq_ok address.segment
  exact ⟨bind_of_ok offset, bind_of_ok segment⟩

theorem farReturn_eq_ok (address : ReturnsTo m p) (popBytes : UInt16) :
    farReturn popBytes m = .ok () { m with registers := returned m.registers p popBytes } := by
  obtain ⟨ip, cs⟩ := popAddress_eq_ok address
  have four : m.registers.sp + 2 + 2 = m.registers.sp + 4 := by
    rw [UInt16.add_assoc]
    rfl
  rw [farReturn, bind_of_ok ip, bind_of_ok cs, four, drop, bind_of_ok (modifyRegisters_eq_ok _ _),
    modifyRegisters_eq_ok]
  by_cases last : p = .haltSentinel <;> simp [Registers.csIp, returned, last]

end Processor

end RealMode
