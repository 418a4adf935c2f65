import Mathlib.Data.List.GetD
import Mathlib.Data.Nat.Digits.Defs
import RealMode.Proofs.Allocations

/-!
# Memory as bytes in segments

Every access goes to bytes of one segment. It succeeds if the segment is there and the bytes lie
inside it, whatever is done to them. A write lays its bytes over those that are there, and every
later read shows that; nothing else about memory changes. Words, double words and far pointers are
numbers written in bytes, the lowest byte first.
-/

namespace RealMode

/-- The bytes `old`, which begin at `first`, where `new` is laid over them from `start` on. -/
def overlaid (old : List UInt8) (first : Nat) (new : List UInt8) (start : Nat) : List UInt8 :=
  old.mapIdx fun i b => if start ≤ first + i then new.getD (first + i - start) b else b

namespace Segment

variable {s : Segment} {first length : Nat}

theorem slice_write_eq_overlaid {start : UInt16} {new : List UInt8}
    (fits : start.toNat + new.length ≤ size) (inside : first + length ≤ size) :
    (s.write start new).slice first length =
      overlaid (s.slice first length) first new start.toNat := by
  apply List.ext_getElem?
  intro k
  rw [overlaid, List.getElem?_mapIdx, getElem?_slice, getElem?_slice]
  by_cases within : k < length
  · have place : (UInt16.ofNat (first + k)).toNat = first + k := toNat_ofNat_of_lt (by omega)
    rw [if_pos within, if_pos within, Option.map_some, byteAt_write _ _ _ _ fits, place]
    congr 1
    by_cases covered : start.toNat ≤ first + k ∧ first + k < start.toNat + new.length
    · have bound : first + k - start.toNat < new.length := by omega
      rw [if_pos covered, if_pos covered.1, List.getD_eq_getElem _ _ bound,
        List.getD_eq_getElem _ _ bound]
    · rw [if_neg covered]
      split
      · rw [List.getD_eq_default _ _ (by omega)]
      · rfl
  · rw [if_neg within, if_neg within, Option.map_none]

end Segment

section Values

/-- The number that bytes make up, the lowest byte first. -/
def littleEndian (bytes : List UInt8) : Nat := Nat.ofDigits 256 (bytes.map UInt8.toNat)

def byteOf (bytes : List UInt8) : UInt8 := UInt8.ofNat (littleEndian bytes)

def wordOf (bytes : List UInt8) : UInt16 := UInt16.ofNat (littleEndian bytes)

def dwordOf (bytes : List UInt8) : UInt32 := UInt32.ofNat (littleEndian bytes)

/-- The word of the offset comes first. -/
def pointerOf (bytes : List UInt8) : FarPtr := ⟨wordOf (bytes.drop 2), wordOf (bytes.take 2)⟩

theorem byteOf_singleton (a : UInt8) : byteOf [a] = a := by
  simp [byteOf, littleEndian]

theorem wordOf_pair (a b : UInt8) : wordOf [a, b] = wordOfBytes a b := by
  simp [wordOf, littleEndian, Nat.ofDigits_cons, wordOfBytes]

theorem dwordOf_four (a b c d : UInt8) :
    dwordOf [a, b, c, d] = dwordOfWords (wordOfBytes a b) (wordOfBytes c d) := by
  have ha := a.toNat_lt
  have hb := b.toNat_lt
  have hc := c.toNat_lt
  have hd := d.toNat_lt
  apply UInt32.toNat_inj.mp
  simp only [dwordOf, littleEndian, List.map_cons, List.map_nil, Nat.ofDigits_cons,
    Nat.ofDigits_nil, dwordOfWords, wordOfBytes, UInt32.toNat_ofNat', UInt16.toNat_ofNat']
  omega

theorem pointerOf_four (a b c d : UInt8) :
    pointerOf [a, b, c, d] = ⟨wordOfBytes c d, wordOfBytes a b⟩ := by
  simp only [pointerOf, List.drop_succ_cons, List.drop_zero, List.take_succ_cons,
    List.take_zero, wordOf_pair]

end Values

namespace Memory

variable {m m' : Memory} {p : FarPtr} {length : Nat} {α β : Type}

/-- How an access to `length` bytes at `p` comes out: a missing segment is
noticed before an overrun. -/
structure Access (m : Memory) (p : FarPtr) (length : Nat) (x : Except Fault α) : Prop where
  inside : m.hasSegment p.segment = true → p.offset.toNat + length ≤ 65536 → ∃ a, x = .ok a
  overruns : m.hasSegment p.segment = true → 65536 < p.offset.toNat + length →
    x = .error (.offsetOutOfRange p length)
  missing : m.hasSegment p.segment = false → x = .error (.segmentNotFound p.segment)

theorem access_segmentAt (m : Memory) (p : FarPtr) (length : Nat) :
    m.Access p length (m.segmentAt p length) where
  inside mapped fits := by
    obtain ⟨s, -, found⟩ := Maps.segmentAt ⟨mapped, fits⟩
    exact ⟨s, found⟩
  overruns mapped beyond := segmentAt_eq_error_iff.2 (.inr ⟨mapped, beyond, rfl⟩)
  missing unmapped := segmentAt_eq_error_iff.2 (.inl ⟨unmapped, rfl⟩)

theorem Access.map {x : Except Fault α} (access : m.Access p length x) (f : α → β) :
    m.Access p length (x.map f) where
  inside mapped fits := by
    obtain ⟨a, done⟩ := access.inside mapped fits
    exact ⟨f a, by rw [done]; rfl⟩
  overruns mapped beyond := by
    rw [access.overruns mapped beyond]
    rfl
  missing unmapped := by
    rw [access.missing unmapped]
    rfl

theorem readBytes_eq_map (m : Memory) (p : FarPtr) (length : Nat) :
    m.readBytes p length = (m.segmentAt p length).map (·.slice p.offset.toNat length) := by
  rw [readBytes]
  cases m.segmentAt p length <;> rfl

/-- What a look at the segment finds in some bytes of it is what a read of these bytes finds in
them. -/
theorem map_readBytes {f : Segment → α} {value : List UInt8 → α}
    (same : ∀ s, f s = value (s.slice p.offset.toNat length)) :
    (do let s ← m.segmentAt p length; return f s) = (m.readBytes p length).map value := by
  rw [readBytes_eq_map]
  cases m.segmentAt p length with
  | error e => rfl
  | ok s => exact congrArg Except.ok (same s)

theorem access_readBytes (m : Memory) (p : FarPtr) (length : Nat) :
    m.Access p length (m.readBytes p length) := by
  rw [readBytes_eq_map]
  exact (m.access_segmentAt p length).map _

theorem access_writeBytes (m : Memory) (p : FarPtr) (bytes : List UInt8) :
    m.Access p bytes.length (m.writeBytes p bytes) := by
  have stored : m.writeBytes p bytes = (m.segmentAt p bytes.length).map fun s =>
      { m with
        segments := m.segments.insert p.segment (s.write p.offset bytes)
        journal := m.journal.map (⟨p, s.slice p.offset.toNat bytes.length⟩ :: ·) } := by
    rw [writeBytes]
    cases m.segmentAt p bytes.length <;> rfl
  rw [stored]
  exact (m.access_segmentAt p bytes.length).map _

/-- What is read after a write: the old bytes with the new ones laid over them, in the
segment of the write alone. -/
theorem readBytes_writeBytes {bytes : List UInt8} (written : m.writeBytes p bytes = .ok m')
    (q : FarPtr) (length : Nat) :
    m'.readBytes q length =
      if q.segment = p.segment then
        (m.readBytes q length).map (overlaid · q.offset.toNat bytes p.offset.toNat)
      else m.readBytes q length := by
  obtain ⟨s, found, fits, rfl⟩ := writeBytes_eq_ok_iff.1 written
  simp only [readBytes_eq_map, segmentAt]
  by_cases same : q.segment = p.segment
  · rw [if_pos same, same, WordMap.get?_insert_self, found]
    by_cases beyond : Segment.size < q.offset.toNat + length
    · simp only [if_pos beyond]
      rfl
    · simp only [if_neg beyond]
      exact congrArg Except.ok (Segment.slice_write_eq_overlaid fits (Nat.le_of_not_lt beyond))
  · rw [if_neg same, WordMap.get?_insert_of_ne _ _ same]

theorem readString_eq_map (m : Memory) (p : FarPtr) :
    m.readString p = (m.readBytes p (65536 - p.offset.toNat)).map (·.takeWhile (· ≠ 0)) := by
  have below := p.offset.toNat_lt
  rw [readBytes_eq_map, readString, readText, segmentAt, segmentAt]
  cases m.segments.get? p.segment with
  | none => rfl
  | some s =>
    dsimp only
    rw [if_neg (by simp only [Segment.size]; omega), if_neg (by simp only [Segment.size]; omega)]
    exact congrArg Except.ok (s.textAt_eq_takeWhile 0 p.offset.toNat)

/-- Reading and writing at a pointer is reading and writing `length` bytes that have this value. -/
structure Views (m : Memory) (length : Nat) (value : List UInt8 → α)
    (read : FarPtr → Except Fault α) (write : FarPtr → α → Except Fault Memory) : Prop where
  looks : ∀ p, read p = (m.readBytes p length).map value
  stores : ∀ p a, ∃ bytes, bytes.length = length ∧ value bytes = a ∧
    write p a = m.writeBytes p bytes
  reads : ∀ p, m.Access p length (read p)
  writes : ∀ p a, m.Access p length (write p a)

theorem views_of {value : List UInt8 → α} {read : FarPtr → Except Fault α}
    {write : FarPtr → α → Except Fault Memory}
    (looks : ∀ p, read p = (m.readBytes p length).map value)
    (stores : ∀ p a, ∃ bytes, bytes.length = length ∧ value bytes = a ∧
      write p a = m.writeBytes p bytes) :
    m.Views length value read write := by
  refine ⟨looks, stores, fun p => ?_, fun p a => ?_⟩
  · rw [looks]
    exact (m.access_readBytes p length).map value
  · obtain ⟨bytes, rfl, -, same⟩ := stores p a
    rw [same]
    exact m.access_writeBytes p bytes

theorem views_byte (m : Memory) : m.Views 1 byteOf m.readByte m.writeByte := by
  apply views_of
  · intro p
    refine map_readBytes fun s => ?_
    have bytes : s.slice p.offset.toNat 1 = [s.byteAt p.offset] := by simp [Segment.slice]
    rw [bytes, byteOf_singleton]
  · intro p a
    exact ⟨[a], rfl, byteOf_singleton a, rfl⟩

theorem views_word (m : Memory) : m.Views 2 wordOf m.readWord m.writeWord := by
  apply views_of
  · intro p
    refine map_readBytes fun s => ?_
    rw [s.slice_two, wordOf_pair, Segment.wordAt]
  · intro p a
    refine ⟨bytesOfWord a, rfl, ?_, rfl⟩
    rw [bytesOfWord, wordOf_pair, wordOfBytes_low_high]

theorem views_dword (m : Memory) : m.Views 4 dwordOf m.readDword m.writeDword := by
  apply views_of
  · intro p
    refine map_readBytes fun s => ?_
    rw [s.slice_four, dwordOf_four, Segment.wordAt, Segment.wordAt]
  · intro p a
    refine ⟨bytesOfDword a, rfl, ?_, rfl⟩
    have bytes : bytesOfDword a =
        [lowByte (lowWord a), highByte (lowWord a), lowByte (highWord a), highByte (highWord a)] :=
          rfl
    rw [bytes, dwordOf_four, wordOfBytes_low_high, wordOfBytes_low_high, dwordOfWords_low_high]

theorem views_pointer (m : Memory) : m.Views 4 pointerOf m.readPointer m.writePointer := by
  apply views_of
  · intro p
    refine map_readBytes fun s => ?_
    rw [s.slice_four, pointerOf_four, Segment.wordAt, Segment.wordAt]
  · intro p a
    refine ⟨a.toBytes, rfl, ?_, rfl⟩
    have bytes : a.toBytes =
        [lowByte a.offset, highByte a.offset, lowByte a.segment, highByte a.segment] := rfl
    rw [bytes, pointerOf_four, wordOfBytes_low_high, wordOfBytes_low_high]

/-- Reading and writing any number of bytes at any place: what succeeds, how it fails, what is read
after a write and what a write leaves alone. Bytes, words, double words and far pointers are views
of these bytes, and a text is what stands in front of the first NUL or of the end of the segment. -/
theorem segments_hold_bytes {σ : Type} (m : Memory) :
    (∀ p length, m.Access p length (m.readBytes p length) ∧
      ∀ bytes, m.readBytes p length = .ok bytes → bytes.length = length) ∧
    (∀ p bytes, m.Access p bytes.length (m.writeBytes p bytes) ∧
      (∀ m', m.writeBytes p bytes = .ok m' →
        (∀ q length, m'.readBytes q length =
          if q.segment = p.segment then
            (m.readBytes q length).map (overlaid · q.offset.toNat bytes p.offset.toNat)
          else m.readBytes q length) ∧
        (∀ ordinal, m'.kind? ordinal = m.kind? ordinal) ∧
        (∀ ordinal, m'.hasSegment ordinal = m.hasSegment ordinal) ∧
        m'.variableTable = m.variableTable ∧ m'.nextVariable = m.nextVariable) ∧
      ∀ e, m.writeBytes p bytes = .error e → ∀ x : Machine σ, x.memory = m →
        Exec.changing (·.writeBytes p bytes) x = .error e x) ∧
    (m.Views 1 byteOf m.readByte m.writeByte ∧ m.Views 2 wordOf m.readWord m.writeWord ∧
      m.Views 4 dwordOf m.readDword m.writeDword ∧
      m.Views 4 pointerOf m.readPointer m.writePointer) ∧
    ∀ p, m.readString p =
      (m.readBytes p (65536 - p.offset.toNat)).map (·.takeWhile (· ≠ 0)) := by
  refine ⟨fun p length => ⟨m.access_readBytes p length, fun bytes read => ?_⟩,
    fun p bytes => ⟨?_, ?_, ?_⟩, ?_, ?_⟩
  · exact length_of_readBytes read
  · exact m.access_writeBytes p bytes
  · intro m' written
    have same := SameAllocations.of_writeBytes written
    exact ⟨readBytes_writeBytes written, same.kinds, same.hasSegment, same.table, same.next⟩
  · rintro e refused x rfl
    rw [Exec.changing, refused]
  · exact ⟨m.views_byte, m.views_word, m.views_dword, m.views_pointer⟩
  · exact m.readString_eq_map

/-- The last three bytes of the stack segment are written. One byte further on there is no room, and
elsewhere no segment. -/
theorem last_bytes_overlaid :
    ∃ m', fresh.writeBytes ⟨stackSegment, 0xfffd⟩ [1, 2, 3] = .ok m' ∧
      m'.readBytes ⟨stackSegment, 0xfffb⟩ 5 = .ok [0, 0, 1, 2, 3] ∧
      m'.readBytes ⟨variablesSegment, 0xfffb⟩ 5 = .ok [0, 0, 0, 0, 0] ∧
      m'.readWord ⟨stackSegment, 0xfffd⟩ = .ok 0x0201 ∧
      fresh.writeWord ⟨stackSegment, 0xffff⟩ 0x0201 =
        .error (.offsetOutOfRange ⟨stackSegment, 0xffff⟩ 2) ∧
      fresh.writeBytes ⟨0x4444, 0xfffe⟩ [1, 2, 3] = .error (.segmentNotFound 0x4444) := by
  obtain ⟨-, writes, ⟨-, words, -, -⟩, -⟩ := segments_hold_bytes (σ := Unit) fresh
  obtain ⟨access, stored, -⟩ := writes ⟨stackSegment, 0xfffd⟩ [1, 2, 3]
  obtain ⟨m', written⟩ := access.inside rfl (by decide)
  obtain ⟨overlay, -⟩ := stored m' written
  obtain ⟨-, -, ⟨-, stacked, -, -⟩, -⟩ := segments_hold_bytes (σ := Unit) m'
  refine ⟨m', written, ?_, ?_, ?_, (words.writes _ _).overruns rfl (by decide),
    (writes _ _).1.missing rfl⟩
  · rw [overlay]
    rfl
  · rw [overlay]
    rfl
  · rw [stacked.looks, overlay]
    rfl

end Memory

end RealMode
