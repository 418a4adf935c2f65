import RealMode.Proofs.AlikeMachines
import RealMode.Proofs.StringElements

/-!
# Repeated moves are block copies

A repeated MOVS moves one element after the other, so where the blocks overlap it may read bytes
that it has written. Each byte that it leaves has come from some byte that was there before, and
that one is found by going back through the elements. If no element is read after it has been
written, it is as if the block had been moved at once. If single bytes go up over their own source,
the bytes from the source to the destination repeat.
-/

namespace RealMode

/-- Elements that are moved one after the other. -/
structure BlockCopy where
  width : Width
  /-- The elements go down from the first one. -/
  down : Bool
  source : FarPtr
  destination : FarPtr
  count : Nat

/-- What a repeated MOVS moves. -/
def Registers.blockCopy (r : Registers) (w : Width) (source : SegmentRegister) : BlockCopy where
  width := w
  down := r.flags.direction
  source := ⟨(r.readSegment? source).getD r.ds, r.si⟩
  destination := ⟨r.es, r.di⟩
  count := r.cx.toNat

namespace BlockCopy

/-- The lowest offset of the first `j` elements, if the first of all is at `p`. -/
def lowestOf (c : BlockCopy) (p : FarPtr) (j : Nat) : Nat :=
  if c.down then p.offset.toNat + c.width.size - j * c.width.size else p.offset.toNat

def lowest (c : BlockCopy) (p : FarPtr) : Nat := c.lowestOf p c.count

/-- The number of bytes. -/
def length (c : BlockCopy) : Nat := c.count * c.width.size

/-- The block of which the first element is at `p` does not run past an end of its segment. -/
def Inside (c : BlockCopy) (p : FarPtr) : Prop :=
  (c.down = true → c.length ≤ p.offset.toNat + c.width.size) ∧
    c.lowest p + c.length ≤ Segment.size

/-- The bytes of the block of which the first element is at `p`, from the lowest on. -/
def byte (c : BlockCopy) (p : FarPtr) (x : Nat) : FarPtr :=
  ⟨p.segment, UInt16.ofNat (c.lowest p + x)⟩

/-- The offset behind the last element, in the direction of the copy. -/
def behind (c : BlockCopy) (p : FarPtr) : UInt16 :=
  if c.down then p.offset - UInt16.ofNat c.length else p.offset + UInt16.ofNat c.length

/-- No element is read after it has been written. -/
def Safe (c : BlockCopy) : Prop :=
  c.source.segment ≠ c.destination.segment ∨
    c.lowest c.source + c.length ≤ c.lowest c.destination ∨
    c.lowest c.destination + c.length ≤ c.lowest c.source ∨
    if c.down then c.source.offset ≤ c.destination.offset
    else c.destination.offset ≤ c.source.offset

/-- Single bytes go up over their own source. -/
def Overruns (c : BlockCopy) : Prop :=
  c.width = .byte ∧ c.down = false ∧ c.source.segment = c.destination.segment ∧
    c.source.offset < c.destination.offset ∧
    c.destination.offset.toNat < c.source.offset.toNat + c.count

/-- Each byte of the destination block is the one that was at some place of the source block, and no
other byte has changed. -/
structure Fills (c : BlockCopy) (place : Nat → Nat) (m m' : Memory) : Prop where
  block : ∀ x < c.length,
    m'.readByte (c.byte c.destination x) = m.readByte (c.byte c.source (place x))
  rest : ∀ a : FarPtr, ¬ a.Within c.destination.segment (c.lowest c.destination) c.length →
    m'.readByte a = m.readByte a

/-- How far it is from one element to the next. -/
def stride (c : BlockCopy) : UInt16 :=
  if c.down then 0 - UInt16.ofNat c.width.size else UInt16.ofNat c.width.size

/-- Where the byte at `a` has come from when `j` elements have been moved. -/
def origin (c : BlockCopy) : Nat → FarPtr → FarPtr
  | 0, a => a
  | j + 1, a =>
    c.origin j (a.movedFrom c.source.segment (c.source.element c.stride j).offset.toNat
      c.destination.segment (c.destination.element c.stride j).offset.toNat c.width.size)

variable {c : BlockCopy} {p : FarPtr} {j : Nat}

theorem succ_mul_le_length (few : j < c.count) : j * c.width.size + c.width.size ≤ c.length := by
  rw [← Nat.succ_mul]
  exact Nat.mul_le_mul_right _ few

theorem offset_element (c : BlockCopy) (p : FarPtr) (j : Nat) :
    (p.element c.stride j).offset =
      if c.down then p.offset - UInt16.ofNat (j * c.width.size)
      else p.offset + UInt16.ofNat (j * c.width.size) := by
  cases direction : c.down with
  | false =>
    rw [FarPtr.element, stride, direction, if_neg Bool.false_ne_true, if_neg Bool.false_ne_true,
      UInt16.ofNat_mul]
  | true =>
    rw [FarPtr.element, stride, direction, if_pos rfl, if_pos rfl, UInt16.mul_sub, UInt16.mul_zero,
      UInt16.zero_sub, UInt16.sub_eq_add_neg, UInt16.ofNat_mul]

/-- Elements that go up. -/
theorem toNat_element_of_up (up : c.down = false) (inside : c.Inside p) (few : j < c.count) :
    (p.element c.stride j).offset.toNat = p.offset.toNat + j * c.width.size := by
  have below := succ_mul_le_length few
  have fits := inside.2
  have some : 0 < c.width.size := by cases c.width <;> decide
  rw [lowest, lowestOf, up, if_neg Bool.false_ne_true, Segment.size] at fits
  rw [offset_element, up, if_neg Bool.false_ne_true, UInt16.toNat_add, UInt16.toNat_ofNat']
  omega

/-- Elements that go down. -/
theorem toNat_element_of_down (down : c.down = true) (inside : c.Inside p) (few : j < c.count) :
    (p.element c.stride j).offset.toNat + j * c.width.size = p.offset.toNat := by
  have below := succ_mul_le_length few
  have room := inside.1 down
  have bound := p.offset.toNat_lt
  rw [offset_element, down, if_pos rfl, UInt16.toNat_sub, UInt16.toNat_ofNat']
  omega

/-- Each element lies in its segment. -/
theorem element_fits (inside : c.Inside p) (few : j < c.count) :
    (p.element c.stride j).offset.toNat + c.width.size ≤ Segment.size := by
  have below := succ_mul_le_length few
  obtain ⟨room, fits⟩ := inside
  cases direction : c.down with
  | false =>
    rw [toNat_element_of_up direction ⟨room, fits⟩ few]
    rw [lowest, lowestOf, direction, if_neg Bool.false_ne_true] at fits
    omega
  | true =>
    have place := toNat_element_of_down direction ⟨room, fits⟩ few
    have whole : c.count * c.width.size = c.length := rfl
    have enough := room direction
    rw [lowest, lowestOf, direction, if_pos rfl, whole] at fits
    omega

end BlockCopy

namespace FarPtr

variable {a : FarPtr} {s t : UInt16} {x y length more : Nat}

/-- A block and what comes behind it, which has not been overwritten. -/
theorem movedFrom_append (apart : s ≠ t ∨ x + length + more ≤ y ∨ y ≤ x)
    (fits : x + length + more ≤ Segment.size) :
    (a.movedFrom s (x + length) t (y + length) more).movedFrom s x t y length =
      a.movedFrom s x t y (length + more) := by
  by_cases last : a.Within t (y + length) more
  · have offset := last.toNat_source fits
    have whole : a.Within t y (length + more) :=
      ⟨last.1, by have := last.2.1; omega, by have := last.2.2; omega⟩
    have same : x + length + (a.offset.toNat - (y + length)) = x + (a.offset.toNat - y) := by
      have := last.2.1
      omega
    rw [same] at offset
    rw [movedFrom_of_within last, movedFrom_of_within whole, same, movedFrom_of_not_within]
    rintro ⟨here, low, high⟩
    rw [offset] at low high
    obtain ⟨-, above, below⟩ := last
    rcases apart with differ | apart | apart
    · exact differ here
    · omega
    · omega
  · rw [movedFrom_of_not_within last]
    by_cases before : a.Within t y length
    · have whole : a.Within t y (length + more) :=
        ⟨before.1, before.2.1, by have := before.2.2; omega⟩
      rw [movedFrom_of_within before, movedFrom_of_within whole]
    · rw [movedFrom_of_not_within before, movedFrom_of_not_within]
      rintro ⟨here, low, high⟩
      by_cases short : a.offset.toNat < y + length
      · exact before ⟨here, low, short⟩
      · exact last ⟨here, by omega, by omega⟩

/-- A block and what comes before it, which has not been overwritten. -/
theorem movedFrom_prepend (apart : s ≠ t ∨ y + more + length ≤ x ∨ x ≤ y)
    (fits : x + more + length ≤ Segment.size) :
    (a.movedFrom s x t y more).movedFrom s (x + more) t (y + more) length =
      a.movedFrom s x t y (length + more) := by
  by_cases last : a.Within t y more
  · have offset := last.toNat_source (x := x) (by omega)
    have whole : a.Within t y (length + more) := ⟨last.1, last.2.1, by have := last.2.2; omega⟩
    rw [movedFrom_of_within last, movedFrom_of_within whole, movedFrom_of_not_within]
    rintro ⟨here, low, high⟩
    rw [offset] at low high
    obtain ⟨-, above, below⟩ := last
    rcases apart with differ | apart | apart
    · exact differ here
    · omega
    · omega
  · rw [movedFrom_of_not_within last]
    by_cases behind : a.Within t (y + more) length
    · obtain ⟨here, low, high⟩ := behind
      have whole : a.Within t y (length + more) := ⟨here, by omega, by omega⟩
      have same : x + more + (a.offset.toNat - (y + more)) = x + (a.offset.toNat - y) := by omega
      rw [movedFrom_of_within ⟨here, low, high⟩, movedFrom_of_within whole, same]
    · rw [movedFrom_of_not_within behind, movedFrom_of_not_within]
      rintro ⟨here, low, high⟩
      by_cases short : a.offset.toNat < y + more
      · exact last ⟨here, low, short⟩
      · exact behind ⟨here, by omega, by omega⟩

end FarPtr

namespace BlockCopy

variable {c : BlockCopy} {p : FarPtr} {j : Nat}

/-- If no element is read after it has been written, it is as if all had been moved at once. -/
theorem origin_of_safe (source : c.Inside c.source) (destination : c.Inside c.destination)
    (safe : c.Safe) (few : j ≤ c.count) (a : FarPtr) :
    c.origin j a = a.movedFrom c.source.segment (c.lowestOf c.source j) c.destination.segment
      (c.lowestOf c.destination j) (j * c.width.size) := by
  induction j generalizing a with
  | zero =>
    rw [FarPtr.movedFrom_of_not_within]
    · rfl
    · rintro ⟨-, low, high⟩
      omega
  | succ j ih =>
    have below := succ_mul_le_length few
    rw [origin, ih (Nat.le_of_succ_le few), Nat.succ_mul]
    have fitsS := source.2
    have fitsD := destination.2
    rw [Safe] at safe
    cases direction : c.down with
    | false =>
      rw [toNat_element_of_up direction source few, toNat_element_of_up direction destination few]
      simp only [lowest, lowestOf, direction, Bool.false_eq_true, if_false, UInt16.le_iff_toNat_le]
        at safe fitsS fitsD ⊢
      apply FarPtr.movedFrom_append
      · rcases safe with differ | apart | apart | upwards
        · exact .inl differ
        · exact .inr (.inl (by omega))
        · exact .inr (.inr (by omega))
        · exact .inr (.inr upwards)
      · omega
    | true =>
      have s := toNat_element_of_down direction source few
      have d := toNat_element_of_down direction destination few
      have roomS := source.1 direction
      have roomD := destination.1 direction
      have wholeLength : c.length = c.count * c.width.size := rfl
      simp only [lowest, lowestOf, direction, if_true,
        UInt16.le_iff_toNat_le] at safe fitsS fitsD ⊢
      generalize (c.source.element c.stride j).offset.toNat = x at s ⊢
      generalize (c.destination.element c.stride j).offset.toNat = y at d ⊢
      have lowS : c.source.offset.toNat + c.width.size - (j + 1) * c.width.size = x := by
        rw [Nat.succ_mul]
        omega
      have lowD : c.destination.offset.toNat + c.width.size - (j + 1) * c.width.size = y := by
        rw [Nat.succ_mul]
        omega
      have nextS : c.source.offset.toNat + c.width.size - j * c.width.size = x + c.width.size := by
        omega
      have nextD : c.destination.offset.toNat + c.width.size - j * c.width.size =
          y + c.width.size := by omega
      rw [lowS, lowD, nextS, nextD]
      apply FarPtr.movedFrom_prepend
      · rcases safe with differ | apart | apart | downwards
        · exact .inl differ
        · exact .inr (.inr (by omega))
        · exact .inr (.inl (by omega))
        · exact .inr (.inr (by omega))
      · omega

/-- Bytes that go up over their own source have come from the bytes before the
destination, again and again. -/
theorem origin_of_overruns (source : c.Inside c.source) (destination : c.Inside c.destination)
    (onto : c.Overruns) (few : j ≤ c.count) (a : FarPtr) :
    c.origin j a =
      if a.Within c.destination.segment c.destination.offset.toNat j then
        ⟨c.source.segment,
          UInt16.ofNat (c.source.offset.toNat +
            (a.offset.toNat - c.destination.offset.toNat) %
              (c.destination.offset.toNat - c.source.offset.toNat))⟩
      else a := by
  obtain ⟨byte, up, same, before, -⟩ := onto
  have size : c.width.size = 1 := by rw [byte]; rfl
  have distance : 0 < c.destination.offset.toNat - c.source.offset.toNat :=
    Nat.sub_pos_of_lt (UInt16.lt_iff_toNat_lt.1 before)
  induction j generalizing a with
  | zero =>
    rw [if_neg]
    · rfl
    · rintro ⟨-, low, high⟩
      omega
  | succ j ih =>
    have earlier := ih (Nat.le_of_succ_le few)
    have below := succ_mul_le_length few
    have fits := source.2
    rw [lowest, lowestOf, up, if_neg Bool.false_ne_true] at fits
    rw [size, Nat.mul_one] at below
    rw [origin, toNat_element_of_up up source few, toNat_element_of_up up destination few,
      size, Nat.mul_one]
    by_cases last : a.Within c.destination.segment (c.destination.offset.toNat + j) 1
    · have offset := last.toNat_source (x := c.source.offset.toNat + j) (by omega)
      have index : a.offset.toNat - (c.destination.offset.toNat + j) = 0 := by
        have := last.2
        omega
      have place : a.offset.toNat - c.destination.offset.toNat = j := by
        have := last.2
        omega
      have whole : a.Within c.destination.segment c.destination.offset.toNat (j + 1) :=
        ⟨last.1, by have := last.2.1; omega, by have := last.2.2; omega⟩
      rw [index, Nat.add_zero] at offset
      rw [FarPtr.movedFrom_of_within last, earlier, if_pos whole, place, index, Nat.add_zero]
      by_cases first : j < c.destination.offset.toNat - c.source.offset.toNat
      · rw [if_neg, Nat.mod_eq_of_lt first]
        rintro ⟨-, low, -⟩
        rw [offset] at low
        omega
      · have again : c.source.offset.toNat + j - c.destination.offset.toNat =
            j - (c.destination.offset.toNat - c.source.offset.toNat) := by omega
        rw [if_pos ⟨same, by rw [offset]; omega, by rw [offset]; omega⟩, offset, again,
          ← Nat.mod_eq_sub_mod (Nat.le_of_not_lt first)]
    · rw [FarPtr.movedFrom_of_not_within last, earlier]
      congr 1
      apply propext
      constructor
      · rintro ⟨here, low, high⟩
        exact ⟨here, low, by omega⟩
      · rintro ⟨here, low, high⟩
        refine ⟨here, low, ?_⟩
        by_cases short : a.offset.toNat < c.destination.offset.toNat + j
        · exact short
        · exact absurd ⟨here, by omega, by omega⟩ last

/-- The bytes of a block that does not run past its segment are at the offsets
that they should be at. -/
theorem toNat_byte (inside : c.Inside p) {x : Nat} (short : x < c.length) :
    (c.byte p x).offset.toNat = c.lowest p + x := by
  have fits := inside.2
  apply UInt16.toNat_ofNat_of_lt'
  simp only [UInt16.size, Segment.size] at *
  omega

variable {m m' : Memory}

theorem fills_of_safe (source : c.Inside c.source) (destination : c.Inside c.destination)
    (safe : c.Safe) (bytes : ∀ a, m'.readByte a = m.readByte (c.origin c.count a)) :
    c.Fills id m m' := by
  constructor
  case block =>
    intro x short
    have offset := toNat_byte destination short
    have within :
        (c.byte c.destination x).Within c.destination.segment (c.lowest c.destination) c.length :=
      ⟨rfl, by omega, by omega⟩
    rw [bytes, origin_of_safe source destination safe (Nat.le_refl _)]
    change m.readByte
      ((c.byte c.destination x).movedFrom _ (c.lowest c.source)
        _ (c.lowest c.destination) c.length) = _
    rw [FarPtr.movedFrom_of_within within, offset, Nat.add_sub_cancel_left]
    rfl
  case rest =>
    intro a outside
    rw [bytes, origin_of_safe source destination safe (Nat.le_refl _)]
    exact congrArg m.readByte (FarPtr.movedFrom_of_not_within outside)

theorem fills_of_overruns (source : c.Inside c.source) (destination : c.Inside c.destination)
    (onto : c.Overruns) (bytes : ∀ a, m'.readByte a = m.readByte (c.origin c.count a)) :
    c.Fills (· % (c.destination.offset.toNat - c.source.offset.toNat)) m m' := by
  have lowest (p : FarPtr) : c.lowest p = p.offset.toNat := by
    rw [BlockCopy.lowest, lowestOf, onto.2.1, if_neg Bool.false_ne_true]
  have length : c.length = c.count := by
    rw [BlockCopy.length, onto.1]
    exact Nat.mul_one _
  constructor
  case block =>
    intro x short
    have offset := toNat_byte destination short
    rw [lowest] at offset
    rw [bytes, origin_of_overruns source destination onto (Nat.le_refl _), if_pos, offset,
      Nat.add_sub_cancel_left, byte, lowest]
    refine ⟨rfl, by omega, by omega⟩
  case rest =>
    intro a outside
    rw [lowest, length] at outside
    rw [bytes, origin_of_overruns source destination onto (Nat.le_refl _), if_neg outside]

end BlockCopy

namespace Processor

open Exec BlockCopy

variable {σ : Type} {board : Board σ} {m n : Machine σ} {i : Instruction} {w : Width}
  {source : SegmentRegister}
  {again : Repeat} {c : BlockCopy} {j : Nat}

/-- What the machine has become when `j` elements have been moved. -/
structure Moved (c : BlockCopy) (m : Machine σ) (j : Nat) (n : Machine σ) : Prop where
  registers : n.registers = { m.registers with
    cx := m.registers.cx - UInt16.ofNat j
    si := (c.source.element c.stride j).offset
    di := (c.destination.element c.stride j).offset }
  host : n.host = m.host
  bytes : ∀ a, n.memory.readByte a = m.memory.readByte (c.origin j a)
  allocations : m.memory.SameAllocations n.memory

/-- One more element. -/
theorem Moved.next (copies : c = m.registers.blockCopy w source) (moved : Moved c m j n)
    (reads : m.memory.Maps (c.source.element c.stride j) w.size)
    (writes : m.memory.Maps (c.destination.element c.stride j) w.size) :
    ∃ n', stringElement .movs w c.source.segment n = .ok () n' ∧
      Moved c m (j + 1)
        { n' with registers := { n'.registers with cx := n'.registers.cx - 1 } } := by
  have si : n.registers.si = (c.source.element c.stride j).offset :=
    congrArg Registers.si moved.registers
  have di : n.registers.di = (c.destination.element c.stride j).offset :=
    congrArg Registers.di moved.registers
  have es : n.registers.es = c.destination.segment := by
    rw [moved.registers, copies]
    rfl
  have stride : n.registers.stride w = c.stride := by
    rw [moved.registers, copies]
    rfl
  have width : c.width = w := by
    rw [copies]
    rfl
  obtain ⟨memory, same, bytes, ran⟩ := @exists_stringElement_movs σ n w c.source.segment
    (by rw [si]; exact moved.allocations.maps reads)
      (by rw [es, di]; exact moved.allocations.maps writes)
  refine ⟨_, ran, ?_, moved.host, ?_, moved.allocations.trans same⟩
  · have count : m.registers.cx - UInt16.ofNat j - 1 = m.registers.cx - UInt16.ofNat (j + 1) := by
      have next : UInt16.ofNat (j + 1) = UInt16.ofNat j + 1 := UInt16.ofNat_add j 1
      rw [next, UInt16.sub_eq_add_neg, UInt16.sub_eq_add_neg, UInt16.sub_eq_add_neg, UInt16.neg_add,
        UInt16.add_assoc, UInt16.sub_eq_add_neg]
    dsimp only
    rw [stride, si, di, moved.registers, FarPtr.element_succ, FarPtr.element_succ, ← count]
  · intro a
    rw [bytes, moved.bytes, si, di, es, ← width]
    rfl

/-- All elements, if each of them lies in its segment. -/
theorem Moved.all (copies : c = m.registers.blockCopy w source) (again : Repeat)
    (reads : ∀ j < c.count, m.memory.Maps (c.source.element c.stride j) w.size)
    (writes : ∀ j < c.count, m.memory.Maps (c.destination.element c.stride j) w.size) {left : Nat}
    (moved : Moved c m j n) (sum : j + left = c.count) :
    ∃ n', stringRepeat .movs w c.source.segment again left n = .ok () n' ∧
      Moved c m c.count n' := by
  induction left generalizing j n with
  | zero =>
    obtain rfl : j = c.count := sum
    exact ⟨n, rfl, moved⟩
  | succ left ih =>
    have few : j < c.count := by omega
    obtain ⟨n₁, ran, next⟩ := moved.next copies (reads j few) (writes j few)
    obtain ⟨n', rest, all⟩ := ih next (by omega)
    refine ⟨n', ?_, all⟩
    have goesOn (f : Flags) : again.goesOn .movs f = true := by cases again <;> rfl
    have body : stringRepeat .movs w c.source.segment again (left + 1) n =
        (if again.goesOn .movs n₁.registers.flags then
          stringRepeat .movs w c.source.segment again left else pure ())
          { n₁ with registers := { n₁.registers with cx := n₁.registers.cx - 1 } } := by
      rw [stringRepeat, bind_of_ok ran]
      rfl
    rw [body, goesOn, if_pos rfl, rest]

/-- Before the first element. -/
theorem moved_zero (copies : c = m.registers.blockCopy w source) : Moved c m 0 m := by
  have start (p : FarPtr) : (p.element c.stride 0).offset = p.offset := by simp [FarPtr.element]
  constructor
  case registers =>
    rw [start, start, copies]
    simp [Registers.blockCopy]
  case host => rfl
  case bytes => exact fun _ => rfl
  case allocations => exact .refl _

theorem execute_repeated_movs (board : Board σ)
    (asked : i.operation = .string .movs w source (some again))
    (copies : c = m.registers.blockCopy w source) :
    execute board i m = stringRepeat .movs w c.source.segment again c.count m := by
  rw [execute, asked, copies]
  rfl

theorem blockCopy_past (r : Registers) (i : Instruction) (w : Width) (source : SegmentRegister) :
    (r.past i).blockCopy w source = r.blockCopy w source := by
  cases source <;> rfl

/-- A repeated MOVS is a block copy. It leaves CX zero and the index registers behind the blocks,
and it touches no other register and no flag. If no element is read after it has been written, the
destination block is the old source block. If single bytes go up over their own source, the bytes
before the destination repeat. In both cases no other byte has changed. With zero in CX there is
nothing to move, wherever the index registers point. -/
theorem repeated_moves_copy_block (h : AtInstruction board m i)
    (asked : i.operation = .string .movs w source (some again)) :
    let c := m.registers.blockCopy w source
    (m.registers.cx = 0 → TicksTo board m { m with registers := m.registers.past i }) ∧
    (m.memory.hasSegment c.source.segment = true →
      m.memory.hasSegment c.destination.segment = true →
      c.Inside c.source → c.Inside c.destination →
      ∃ left, TicksTo board m left ∧
        left.registers =
          { m.registers.past i with
            cx := 0, si := c.behind c.source, di := c.behind c.destination } ∧
        left.host = m.host ∧ m.memory.SameAllocations left.memory ∧
        (c.Safe → c.Fills id m.memory left.memory) ∧
        (c.Overruns →
          c.Fills (· % (c.destination.offset.toNat - c.source.offset.toNat)) m.memory
            left.memory)) := by
  intro c
  have past (opened : Machine σ) (registers : opened.registers = m.registers.past i) :
      c = opened.registers.blockCopy w source := by rw [registers, blockCopy_past]
  constructor
  · intro nothing
    apply h.ticksTo
    · exact h.running
    · intro opened alike
      have none : c.count = 0 := congrArg UInt16.toNat nothing
      refine ⟨opened, ?_, alike⟩
      rw [execute_repeated_movs board asked (past opened alike.registers), none]
      rfl
  · intro reads writes source destination
    apply h.exists_ticksTo
    intro opened alike
    have copies := past opened alike.registers
    have there {p : FarPtr} (mapped : m.memory.hasSegment p.segment = true) (inside : c.Inside p) :
        ∀ j < c.count, opened.memory.Maps (p.element c.stride j) w.size := by
      intro j few
      exact ⟨(alike.allocations.hasSegment _).trans mapped, element_fits inside few⟩
    obtain ⟨left, ran, moved⟩ :=
      Moved.all copies again (there reads source) (there writes destination)
      (moved_zero copies) (Nat.zero_add c.count)
    have registers : left.registers =
        { m.registers.past i with
          cx := 0, si := c.behind c.source, di := c.behind c.destination } := by
      have done : m.registers.cx - UInt16.ofNat c.count = 0 := by
        change m.registers.cx - UInt16.ofNat m.registers.cx.toNat = 0
        rw [UInt16.ofNat_toNat, UInt16.sub_self]
      rw [moved.registers, alike.registers, offset_element, offset_element]
      exact congrArg
        (fun cx => { m.registers.past i with
          cx := cx, si := c.behind c.source, di := c.behind c.destination }) done
    have bytes (a : FarPtr) : left.memory.readByte a = m.memory.readByte (c.origin c.count a) :=
      (moved.bytes a).trans (alike.bytes _)
    have halt : left.registers.halt = false := by
      rw [registers]
      exact h.running
    refine ⟨left, ?_, halt, registers, moved.host.trans alike.host,
      alike.allocations.trans moved.allocations, ?_, ?_⟩
    · rw [execute_repeated_movs board asked copies, ran]
    · intro safe
      exact fills_of_safe source destination safe bytes
    · intro onto
      exact fills_of_overruns source destination onto bytes

/-- REP MOVSB, REP MOVSW and eight bytes to move -/
def movesCode : List UInt8 := [0xf3, 0xa4, 0xf3, 0xa5, 1, 2, 3, 4, 5, 6, 7, 8]

/-- Code and data are in segment 2. -/
def copying (ip si di cx : UInt16) (down : Bool) : Registers :=
  { Registers.reset 0 with
    cs := 2, ds := 2, es := 2, ip := ip, si := si, di := di, cx := cx,
      flags := { direction := down } }

/-- Five bytes, two places up. -/
def bytesUp : BlockCopy := ⟨.byte, false, ⟨2, 4⟩, ⟨2, 6⟩, 5⟩

/-- Two words, one place up, the upper one first. -/
def wordsDown : BlockCopy := ⟨.word, true, ⟨2, 6⟩, ⟨2, 8⟩, 2⟩

/-- The five bytes repeat the first two of them. The two words stay what they were. -/
theorem overlapping_blocks_copied :
    ∃ memory : Memory,
      let before (ip si di cx : UInt16) (down : Bool) : Machine Unit :=
  ⟨copying ip si di cx down, memory, ()⟩
      (∃ left, TicksTo .bare (before 0 4 6 5 false) left ∧
        left.registers = copying 2 9 11 0 false ∧
        left.memory.readByte ⟨2, 10⟩ = .ok 1 ∧ left.memory.readByte ⟨2, 11⟩ = .ok 8) ∧
      (∃ left, TicksTo .bare (before 2 6 8 2 true) left ∧
        left.registers = copying 4 2 4 0 true ∧
        left.memory.readByte ⟨2, 6⟩ = .ok 1 ∧ left.memory.readByte ⟨2, 9⟩ = .ok 4) ∧
      TicksTo .bare (before 0 4 6 0 false) (before 2 4 6 0 false) := by
  let bytes : Instruction := ⟨0, 2, .string .movs .byte .ds (some .whileEqual)⟩
  let words : Instruction := ⟨2, 2, .string .movs .word .ds (some .whileEqual)⟩
  obtain ⟨memory, memory₁, memory₂, added, fetched, fetched₂, mapped, one, four, eight⟩ :
      ∃ memory memory₁ memory₂, Memory.fresh.addSegment 2 .code movesCode = .ok memory ∧
        memory.fetch ⟨2, 0⟩ = .ok (bytes, memory₁) ∧
        memory.fetch ⟨2, 2⟩ = .ok (words, memory₂) ∧
        memory.hasSegment 2 = true ∧ memory.readByte ⟨2, 4⟩ = .ok 1 ∧
        memory.readByte ⟨2, 7⟩ = .ok 4 ∧ memory.readByte ⟨2, 11⟩ = .ok 8 :=
    ⟨_, _, _, rfl, rfl, rfl, rfl, rfl, rfl, rfl⟩
  refine ⟨memory, ?_⟩
  intro before
  have reachable : memory.Reachable := .addSegment .fresh added
  have atBytes (cx : UInt16) : AtInstruction .bare (before 0 4 6 cx false) bytes :=
    ⟨reachable, rfl, rfl, memory₁, fetched⟩
  have atWords : AtInstruction .bare (before 2 6 8 2 true) words :=
    ⟨reachable, rfl, rfl, memory₂, fetched₂⟩
  refine ⟨?_, ?_, ?_⟩
  · have source : bytesUp.Inside bytesUp.source := ⟨nofun, by decide⟩
    have destination : bytesUp.Inside bytesUp.destination := ⟨nofun, by decide⟩
    have onto : bytesUp.Overruns := ⟨rfl, rfl, rfl, by decide, by decide⟩
    have outside : ¬ FarPtr.Within ⟨2, 11⟩ 2 (bytesUp.lowest bytesUp.destination)
        bytesUp.length := by decide
    obtain ⟨left, ticks, registers, -, -, -, repeats⟩ :=
      (repeated_moves_copy_block (atBytes 5) rfl).2 mapped mapped source destination
    obtain ⟨block, rest⟩ : bytesUp.Fills (· % 2) memory left.memory := repeats onto
    exact ⟨left, ticks, registers, (block 4 (by decide)).trans one,
      (rest _ outside).trans eight⟩
  · have source : wordsDown.Inside wordsDown.source := ⟨by decide, by decide⟩
    have destination : wordsDown.Inside wordsDown.destination := ⟨by decide, by decide⟩
    have safe : wordsDown.Safe := .inr (.inr (.inr (by decide)))
    have final : { copying 4 6 8 2 true with
        cx := 0
        si := wordsDown.behind wordsDown.source
        di := wordsDown.behind wordsDown.destination } = copying 4 2 4 0 true := by decide
    obtain ⟨left, ticks, registers, -, -, moves, -⟩ :=
      (repeated_moves_copy_block atWords rfl).2 mapped mapped source destination
    obtain ⟨block, -⟩ : wordsDown.Fills id memory left.memory := moves safe
    exact ⟨left, ticks, registers.trans final, (block 0 (by decide)).trans one,
      (block 3 (by decide)).trans four⟩
  · exact (repeated_moves_copy_block (atBytes 0) rfl).1 rfl

end Processor

end RealMode
