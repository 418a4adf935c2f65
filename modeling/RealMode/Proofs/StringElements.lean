import RealMode.Processor
import RealMode.Proofs.Allocations
import RealMode.Proofs.FatalServices
import RealMode.Proofs.FileServices
import RealMode.Proofs.StackWords

/-!
# The elements of string instructions

What one element of a string instruction comes to where the cells that it looks at are there. A cell
that has been moved is described by where each byte of memory has come from.
-/

namespace RealMode

/-- Where the element `j` is, if the first one is at `p`. -/
def FarPtr.element (p : FarPtr) (stride : UInt16) (j : Nat) : FarPtr :=
  ⟨p.segment, p.offset + UInt16.ofNat j * stride⟩

theorem FarPtr.element_succ (p : FarPtr) (stride : UInt16) (j : Nat) :
    p.element stride (j + 1) = ⟨p.segment, (p.element stride j).offset + stride⟩ := by
  rw [element, element, UInt16.ofNat_add, UInt16.add_mul, ← UInt16.add_assoc]
  exact congrArg (fun offset => (⟨p.segment, p.offset + _ + offset⟩ : FarPtr))
    (UInt16.one_mul stride)

namespace FarPtr

variable {a : FarPtr} {s t : UInt16} {x y length : Nat}

/-- One of the `length` bytes from offset `y` of the segment `t` on. -/
def Within (a : FarPtr) (t : UInt16) (y length : Nat) : Prop :=
  a.segment = t ∧ y ≤ a.offset.toNat ∧ a.offset.toNat < y + length

instance (a : FarPtr) (t : UInt16) (y length : Nat) : Decidable (a.Within t y length) :=
  inferInstanceAs (Decidable (_ ∧ _))

/-- Where the byte at `a` has come from when `length` bytes have been moved from offset `x` of the
segment `s` to offset `y` of the segment `t`. -/
def movedFrom (a : FarPtr) (s : UInt16) (x : Nat) (t : UInt16) (y length : Nat) : FarPtr :=
  if a.Within t y length then ⟨s, UInt16.ofNat (x + (a.offset.toNat - y))⟩ else a

theorem movedFrom_of_within (within : a.Within t y length) :
    a.movedFrom s x t y length = ⟨s, UInt16.ofNat (x + (a.offset.toNat - y))⟩ := if_pos within

theorem movedFrom_of_not_within (apart : ¬ a.Within t y length) :
    a.movedFrom s x t y length = a := if_neg apart

/-- The offset of a byte in its old place. -/
theorem Within.toNat_source (within : a.Within t y length) (fits : x + length ≤ Segment.size) :
    (UInt16.ofNat (x + (a.offset.toNat - y))).toNat = x + (a.offset.toNat - y) := by
  obtain ⟨-, low, high⟩ := within
  apply UInt16.toNat_ofNat_of_lt'
  simp only [UInt16.size, Segment.size] at *
  omega

end FarPtr

/-- The bytes of a value. -/
def Width.bytes (w : Width) (v : UInt16) : List UInt8 :=
  match w with
  | byte => [lowByte v]
  | word => bytesOfWord v

namespace Memory

variable {m : Memory} {p q : FarPtr} {size : Nat}

/-- Bytes that are there can be stored elsewhere. -/
theorem exists_moveBytes (source : m.Maps p size) (destination : m.Maps q size) :
    ∃ bytes m', m.readBytes p size = .ok bytes ∧ m.writeBytes q bytes = .ok m' ∧
      m.SameAllocations m' ∧
      ∀ a : FarPtr, m'.readByte a =
        m.readByte (a.movedFrom p.segment p.offset.toNat q.segment q.offset.toNat size) := by
  obtain ⟨s, found, -⟩ := source.segmentAt
  obtain ⟨t, there, -⟩ := destination.segmentAt
  have fits := source.2
  have space : q.offset.toNat + (s.slice p.offset.toNat size).length ≤ Segment.size := by
    rw [Segment.length_slice]
    exact destination.2
  let m' := { m with
    segments := m.segments.insert q.segment (t.write q.offset (s.slice p.offset.toNat size))
    journal :=
      m.journal.map (⟨q, t.slice q.offset.toNat (s.slice p.offset.toNat size).length⟩ :: ·) }
  have written : m.writeBytes q (s.slice p.offset.toNat size) = .ok m' :=
    writeBytes_eq_ok_iff.mpr ⟨t, there, space, rfl⟩
  refine ⟨_, m', readBytes_eq found fits, written, .of_writeBytes written, ?_⟩
  intro a
  by_cases here : a.segment = q.segment
  · have stored : m'.readByte a =
        .ok ((t.write q.offset (s.slice p.offset.toNat size)).byteAt a.offset) :=
      readByte_eq (by simp [m', here])
    rw [stored, Segment.byteAt_write _ _ _ _ space, Segment.length_slice]
    by_cases inside : q.offset.toNat ≤ a.offset.toNat ∧ a.offset.toNat < q.offset.toNat + size
    · have moved (offset : UInt16) : m.readByte ⟨p.segment, offset⟩ = .ok (s.byteAt offset) :=
        readByte_eq found
      rw [if_pos inside, FarPtr.movedFrom_of_within ⟨here, inside⟩, moved,
        List.getD_eq_getElem?_getD, Segment.getElem?_slice, if_pos (by omega), Option.getD_some]
    · rw [if_neg inside, FarPtr.movedFrom_of_not_within fun within => inside within.2,
        readByte_eq (s := t) (by rw [here, there])]
  · rw [FarPtr.movedFrom_of_not_within fun within => here within.1]
    simp only [readByte, segmentAt, m', WordMap.get?_insert_of_ne _ _ here]

end Memory

namespace Processor

open Exec

variable {σ : Type} {m : Machine σ} {w : Width} {segment a b : UInt16}

theorem exists_readCell {p : FarPtr} {bytes : List UInt8}
    (read : m.memory.readBytes p w.size = .ok bytes) :
    ∃ v, readCell p w m = .ok v m ∧ w.bytes v = bytes := by
  obtain ⟨s, found, fits, rfl⟩ := Memory.readBytes_eq_ok_iff.1 read
  cases w with
  | byte =>
    have stored : (readByte p : Exec σ UInt8) m = .ok (s.byteAt p.offset) m :=
      reading_eq_ok (Memory.readByte_eq found)
    refine ⟨(s.byteAt p.offset).toUInt16, ?_, ?_⟩
    · rw [readCell, bind_of_ok stored]
      rfl
    · simp [Width.bytes, Segment.slice, Width.size, lowByte]
  | word =>
    have stored : reading (·.readWord p) m = .ok (s.wordAt p.offset) m :=
      reading_eq_ok (Memory.readWord_eq found fits)
    refine ⟨s.wordAt p.offset, stored, ?_⟩
    simp [Width.bytes, Segment.slice, Width.size, Segment.wordAt, bytesOfWord, List.range_succ]

/-- An element is moved, and both index registers move on. -/
theorem exists_stringElement_movs (source : m.memory.Maps ⟨segment, m.registers.si⟩ w.size)
    (destination : m.memory.Maps ⟨m.registers.es, m.registers.di⟩ w.size) :
    ∃ memory, m.memory.SameAllocations memory ∧
      (∀ a : FarPtr, memory.readByte a = m.memory.readByte
        (a.movedFrom segment m.registers.si.toNat m.registers.es m.registers.di.toNat w.size)) ∧
      stringElement .movs w segment m =
        .ok () ⟨{ m.registers with
          si := m.registers.si + m.registers.stride w
          di := m.registers.di + m.registers.stride w }, memory, m.host⟩ := by
  obtain ⟨bytes, memory, read, written, same, origin⟩ :=
    Memory.exists_moveBytes source destination
  obtain ⟨v, found, whole⟩ := exists_readCell read
  refine ⟨memory, same, origin, ?_⟩
  have stored : writeCell ⟨m.registers.es, m.registers.di⟩ w v m =
      .ok () { m with memory := memory } := by
    rw [← whole] at written
    have changed : changing (·.writeBytes ⟨m.registers.es, m.registers.di⟩ (w.bytes v)) m =
        .ok () { m with memory := memory } := changing_eq_ok written
    cases w with
    | byte => exact changed
    | word => exact changed
  rw [stringElement, bind_of_ok (registers_eq_ok m)]
  dsimp only
  rw [bind_of_ok found, bind_of_ok stored]
  rfl

/-- Two elements are compared, and both index registers move on. -/
theorem stringElement_cmps (left : readCell ⟨segment, m.registers.si⟩ w m = .ok a m)
    (right : readCell ⟨m.registers.es, m.registers.di⟩ w m = .ok b m) :
    stringElement .cmps w segment m =
      .ok () { m with
        registers := { m.registers with
          si := m.registers.si + m.registers.stride w
          di := m.registers.di + m.registers.stride w
          flags := (Alu.sub m.registers.flags w a b false).flags } } := by
  rw [stringElement, bind_of_ok (registers_eq_ok m)]
  dsimp only
  rw [bind_of_ok left, bind_of_ok right]
  rfl

/-- The accumulator is compared with an element. -/
theorem stringElement_scas (right : readCell ⟨m.registers.es, m.registers.di⟩ w m = .ok b m)
    (segment : UInt16) :
    stringElement .scas w segment m =
      .ok () { m with
        registers := { m.registers with
          di := m.registers.di + m.registers.stride w
          flags := (Alu.sub m.registers.flags w (m.registers.accumulator w) b false).flags } } := by
  rw [stringElement, bind_of_ok (registers_eq_ok m)]
  dsimp only
  rw [bind_of_ok right]
  rfl

end Processor

end RealMode
