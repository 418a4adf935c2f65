import RealMode.Processor
import RealMode.Proofs.FileServices
import RealMode.Proofs.Operands

/-!
# Operands that can be written

What can be read from a register or from memory can be overwritten in the same place, and is then
read again, as long as it is no wider than the operand. Flags have no part in where an operand lies.
-/

namespace RealMode

theorem toUInt16_lowByte {v : UInt16} (narrow : v.toNat < 256) : (lowByte v).toUInt16 = v := by
  apply UInt16.toNat_inj.1
  rw [UInt8.toNat_toUInt16, lowByte, UInt8.toNat_ofNat']
  exact Nat.mod_eq_of_lt narrow

/-- A register or a memory operand, which an instruction can store to. -/
def Operand.isPlace : Operand → Bool
  | register _ => true
  | memory _ => true
  | immediate _ _ => false
  | wide _ => false

namespace Registers

variable {r r' : Registers} {reg : Register} {a v : UInt16}

/-- No operand names the flags. -/
theorem read?_withFlags (r : Registers) (f : Flags) (reg : Register) :
    { r with flags := f }.read? reg = r.read? reg := by
  cases reg with
  | byte b => cases b <;> rfl
  | word w => cases w <;> rfl
  | segment s => cases s <;> rfl
  | dword _ => rfl
  | control _ => rfl
  | debug _ => rfl

theorem readByte_writeByte (r : Registers) (b : ByteRegister) (v : UInt8) :
    (r.writeByte b v).readByte b = v ∧ (r.writeByte b v).flags = r.flags := by
  cases b <;>
    exact ⟨by first | exact lowByte_wordOfBytes _ _ | exact highByte_wordOfBytes _ _, rfl⟩

/-- Every register that can be read can be written, and then holds what was written. -/
theorem exists_write? (there : r.read? reg = some a) (v : UInt16) :
    ∃ r', r.write? reg v = some r' ∧ r'.flags = r.flags ∧
      (v.toNat < (Operand.register reg).width.modulus → r'.read? reg = some v) := by
  cases reg with
  | byte b =>
    obtain ⟨stored, flags⟩ := r.readByte_writeByte b (lowByte v)
    refine ⟨_, rfl, flags, fun narrow => ?_⟩
    rw [read?, stored, toUInt16_lowByte narrow]
  | word w => cases w <;> exact ⟨_, rfl, rfl, fun _ => rfl⟩
  | segment s =>
    cases s with
    | fs | gs => cases there
    | _ => exact ⟨_, rfl, rfl, fun _ => rfl⟩
  | dword _ => cases there
  | control _ => cases there
  | debug _ => cases there

end Registers

namespace Memory

variable {m m' : Memory} {p : FarPtr}

theorem maps_of_readByte {b : UInt8} (read : m.readByte p = .ok b) : m.Maps p 1 := by
  cases found : m.segmentAt p 1 with
  | ok s => exact maps_of_segmentAt found
  | error e =>
    rw [readByte, found] at read
    cases read

theorem readByte_of_writeByte {b : UInt8} (written : m.writeByte p b = .ok m') :
    m'.readByte p = .ok b := by
  obtain ⟨s, found, fits, rfl⟩ := writeBytes_eq_ok_iff.1 written
  have first : p.offset.toNat ≤ p.offset.toNat ∧
      p.offset.toNat < p.offset.toNat + [b].length := by simp
  rw [readByte_eq (WordMap.get?_insert_self _ _ _), Segment.byteAt_write _ _ _ _ fits, if_pos first]
  simp

end Memory

namespace Processor

open Exec

variable {σ : Type} {m m' n : Machine σ} {i : Instruction} {o : Operand}
  {a v : UInt16} {p : FarPtr}

theorem of_readRegister_ok {reg : Register} (read : readRegister i reg m = .ok a m') :
    m' = m ∧ m.registers.read? reg = some a := by
  rw [readRegister, bind_of_ok (registers_eq_ok m)] at read
  cases there : m.registers.read? reg with
  | none =>
    rw [there] at read
    cases read
  | some value =>
    rw [there] at read
    cases read
    exact ⟨rfl, rfl⟩

theorem of_readTerm_ok {reg : Option Register} (read : readTerm i reg m = .ok a m') :
    m' = m ∧ m.registers.term? reg = some a := by
  cases reg with
  | none =>
    cases read
    exact ⟨rfl, rfl⟩
  | some reg => exact of_readRegister_ok read

/-- An address that is found is the sum of registers that are there. -/
theorem of_addressOf_ok {mo : MemoryOperand} (found : addressOf i mo m = .ok p m') :
    m' = m ∧ m.registers.address? mo = some p := by
  obtain ⟨segment, m₁, first, rest⟩ := of_bind_ok found
  obtain ⟨rfl, segmentRead⟩ := of_readRegister_ok first
  obtain ⟨offset, m₂, second, last⟩ := of_bind_ok rest
  obtain ⟨base, m₃, third, terms⟩ := of_bind_ok second
  obtain ⟨rfl, baseRead⟩ := of_readTerm_ok third
  obtain ⟨index, m₄, fourth, sum⟩ := of_bind_ok terms
  obtain ⟨rfl, indexRead⟩ := of_readTerm_ok fourth
  cases sum
  cases last
  refine ⟨rfl, ?_⟩
  rw [Registers.read?] at segmentRead
  rw [Registers.address?, segmentRead, baseRead, indexRead]
  rfl

theorem of_readCell_ok {w : Width} (found : readCell p w m = .ok v m') : m' = m := by
  cases w with
  | byte =>
    obtain ⟨b, m₁, first, last⟩ := of_bind_ok found
    obtain ⟨-, rfl⟩ := of_reading_ok first
    cases last
    rfl
  | word =>
    have first : reading (·.readWord p) m = .ok v m' := found
    exact (of_reading_ok first).2

/-- Reading an operand changes nothing. -/
theorem of_read_ok (found : read i o m = .ok v m') : m' = m := by
  cases o with
  | register reg => exact (of_readRegister_ok found).1
  | memory o =>
    obtain ⟨a, m₁, first, cell⟩ := of_bind_ok found
    obtain ⟨rfl, -⟩ := of_addressOf_ok first
    exact of_readCell_ok cell
  | immediate _ _ =>
    cases found
    rfl
  | wide _ => cases found

/-- A cell that can be read can be written. -/
theorem exists_writeCell {w : Width} (read : readCell p w m = .ok a m) (same : n.memory = m.memory)
    (v : UInt16) :
    ∃ n', writeCell p w v n = .ok () n' ∧ n'.registers = n.registers ∧
      (v.toNat < w.modulus → readCell p w n' = .ok v n') := by
  cases w with
  | byte =>
    obtain ⟨b, m₁, found, last⟩ := of_bind_ok read
    obtain ⟨stored, -⟩ := of_reading_ok found
    rw [← same] at stored
    obtain ⟨memory, written, -⟩ :=
      @Memory.exists_writeBytes _ _ [lowByte v] (Memory.maps_of_readByte stored)
    have stores : (writeByte p (lowByte v) : Exec σ Unit) n = .ok () { n with memory := memory } :=
      changing_eq_ok written
    refine ⟨{ n with memory := memory }, stores, rfl, fun narrow => ?_⟩
    have back : (readByte p : Exec σ UInt8) { n with memory := memory } =
        .ok (lowByte v) { n with memory := memory } :=
      reading_eq_ok (Memory.readByte_of_writeByte written)
    rw [readCell, bind_of_ok back, toUInt16_lowByte narrow]
    rfl
  | word =>
    have found : reading (·.readWord p) m = .ok a m := read
    obtain ⟨stored, -⟩ := of_reading_ok found
    rw [← same] at stored
    obtain ⟨memory, written⟩ := Memory.exists_writeWord (Memory.maps_of_readWord stored) v
    have stores : (writeWord p v : Exec σ Unit) n = .ok () { n with memory := memory } :=
      changing_eq_ok written
    have back : (readWord p : Exec σ UInt16) { n with memory := memory } =
        .ok v { n with memory := memory } :=
      reading_eq_ok (Memory.wordStored_of_writeWord written).read
    exact ⟨{ n with memory := memory }, stores, rfl, fun _ => back⟩

/-- A place that can be read can be written, also where the flags have changed in between. -/
theorem exists_write (place : o.isPlace = true) (there : read i o m = .ok a m)
    (memory : n.memory = m.memory)
    (registers : ∀ reg, n.registers.read? reg = m.registers.read? reg) (v : UInt16) :
    ∃ n', write i o v n = .ok () n' ∧ n'.registers.flags = n.registers.flags ∧
      (v.toNat < o.width.modulus → read i o n' = .ok v n') := by
  cases o with
  | register reg =>
    obtain ⟨-, readable⟩ := of_readRegister_ok there
    obtain ⟨r, written, flags, back⟩ :=
      Registers.exists_write? ((registers reg).trans readable) v
    refine ⟨{ n with registers := r }, ?_, flags,
      fun narrow => readRegister_eq_ok i (back narrow)⟩
    rw [write, writeRegister, bind_of_ok (registers_eq_ok n), written]
    rfl
  | memory mo =>
    obtain ⟨p, m₁, found, cell⟩ := of_bind_ok there
    obtain ⟨rfl, address⟩ := of_addressOf_ok found
    have address' : n.registers.address? mo = some p :=
      (Registers.address?_congr registers mo).trans address
    obtain ⟨n', written, same, back⟩ := exists_writeCell cell memory v
    refine ⟨n', ?_, by rw [same], fun narrow => ?_⟩
    · rw [write, bind_of_ok (addressOf_eq_ok i address'), written]
    · rw [← same] at address'
      rw [read, bind_of_ok (addressOf_eq_ok i address')]
      exact back narrow
  | immediate _ _ => cases place
  | wide _ => cases place

/-- Flags and a value that goes back to a place it was computed from. -/
theorem exists_settle (place : o.isPlace = true) (there : read i o m = .ok a m) (f : Flags)
    (v : UInt16) :
    ∃ m', (setFlags f >>= fun _ => write i o v) m = .ok () m' ∧ m'.registers.flags = f ∧
      (v.toNat < o.width.modulus → read i o m' = .ok v m') := by
  let n : Machine σ := { m with registers := { m.registers with flags := f } }
  have set : setFlags f m = .ok () n := rfl
  obtain ⟨m', written, flags, back⟩ :=
    exists_write (n := n) place there rfl (m.registers.read?_withFlags f) v
  refine ⟨m', ?_, flags, back⟩
  rw [bind_of_ok set, written]

end Processor

end RealMode
