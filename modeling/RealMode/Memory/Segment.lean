import RealMode.Instruction.Decode
import RealMode.WordMap

/-!
# Segments

A segment is 65536 bytes; those never written are zero. Beside the bytes it keeps the instructions
that have been decoded from them. Code is decoded from end to end when the segment is made, data as
it is executed. A write drops every decoding that may have looked at the bytes it changes.
-/

namespace RealMode

inductive SegmentKind where
  | code
  | data
deriving DecidableEq, Inhabited

structure Segment where
  kind : SegmentKind
  bytes : WordMap UInt8
  decoded : WordMap Instruction

namespace Segment

def size : Nat := 65536

def byteAt (s : Segment) (offset : UInt16) : UInt8 := (s.bytes.get? offset).getD 0

def wordAt (s : Segment) (offset : UInt16) : UInt16 :=
  wordOfBytes (s.byteAt offset) (s.byteAt (offset + 1))

/-- The `length` bytes from `start` on. -/
def slice (s : Segment) (start length : Nat) : List UInt8 :=
  (List.range length).map fun i => s.byteAt (UInt16.ofNat (start + i))

/-- Where the byte `stop` first stands among the `length` bytes from `start` on;
their end if it does not. -/
def indexFrom (s : Segment) (stop : UInt8) (length start : Nat) : Nat :=
  match length with
  | 0 => start
  | n + 1 => if s.byteAt (UInt16.ofNat start) = stop then start else indexFrom s stop n (start + 1)

/-- The bytes from `start` up to the byte `stop` or the end of the segment. -/
def textAt (s : Segment) (stop : UInt8) (start : Nat) : List UInt8 :=
  s.slice start (s.indexFrom stop (size - start) start - start)

def store (bytes : WordMap UInt8) (offset : UInt16) : List UInt8 → WordMap UInt8
  | [] => bytes
  | b :: bs => store (bytes.insert offset b) (offset + 1) bs

def eraseRange (decoded : WordMap Instruction) (first : Nat) : Nat → WordMap Instruction
  | 0 => decoded
  | n + 1 => eraseRange (decoded.erase (UInt16.ofNat first)) (first + 1) n

/-- Drops the decodings that can reach the `length` bytes from `start` on. -/
def forget (decoded : WordMap Instruction) (start length : Nat) : WordMap Instruction :=
  if length = 0 then decoded else
    let first := start - (maxInstructionLength - 1)
    eraseRange decoded first (start + length - first)

/-- Overwrites the bytes from `start` on. The caller has seen to it that they fit. -/
def write (s : Segment) (start : UInt16) (new : List UInt8) : Segment :=
  { s with
    bytes := store s.bytes start new
    decoded := forget s.decoded start.toNat new.length }

/-- Decodes from end to end, passing over `skip` bytes first. Where no instruction begins,
one byte is passed over. -/
def sweep (decoded : WordMap Instruction) (offset : UInt16) (skip : Nat) :
    List UInt8 → WordMap Instruction
  | [] => decoded
  | b :: bs =>
    match skip with
    | n + 1 => sweep decoded (offset + 1) n bs
    | 0 =>
      match Instruction.decode offset (b :: bs) with
      | none => sweep decoded (offset + 1) 0 bs
      | some i => sweep (decoded.insert offset i) (offset + 1) (i.length - 1) bs

/-- A segment that begins with `contents`, which fit. -/
def ofContents (kind : SegmentKind) (contents : List UInt8) : Segment where
  kind := kind
  bytes := store .empty 0 contents
  decoded :=
    match kind with
    | .code => sweep .empty 0 0 contents
    | .data => .empty

/-- The bytes that an instruction at `offset` may be made of. -/
def instructionBytes (s : Segment) (offset : UInt16) : List UInt8 :=
  s.slice offset.toNat (min maxInstructionLength (size - offset.toNat))

/-- The instruction at `offset`, and the segment that remembers it. -/
def fetch (s : Segment) (offset : UInt16) : Option (Instruction × Segment) :=
  match s.decoded.get? offset with
  | some i => some (i, s)
  | none =>
    (Instruction.decode offset (s.instructionBytes offset)).map fun i =>
      (i, { s with decoded := s.decoded.insert offset i })

@[simp] theorem length_slice (s : Segment) (start length : Nat) :
    (s.slice start length).length = length := by simp [slice]

@[simp] theorem kind_write (s : Segment) (start : UInt16) (new : List UInt8) :
    (s.write start new).kind = s.kind := rfl

/-- Reading after `store`, for bytes that do not run past the last offset. -/
theorem get?_store (bytes : WordMap UInt8) (start j : UInt16) (new : List UInt8)
    (fits : start.toNat + new.length ≤ size) :
    (store bytes start new).get? j =
      if start.toNat ≤ j.toNat ∧ j.toNat < start.toNat + new.length then
        new[j.toNat - start.toNat]?
      else bytes.get? j := by
  induction new generalizing bytes start with
  | nil => simp only [store, List.length_nil]; rw [if_neg (by omega)]
  | cons b bs ih =>
    have hj := j.toNat_lt
    simp only [size, List.length_cons] at fits
    by_cases last : bs = []
    · subst last
      simp only [store, WordMap.get?_insert, ← UInt16.toNat_inj, List.length_cons,
        List.length_nil]
      by_cases same : j.toNat = start.toNat
      · simp [same]
      · rw [if_neg same, if_neg (by omega)]
    · have more : 0 < bs.length := List.length_pos_iff.mpr last
      have next : (start + 1).toNat = start.toNat + 1 := by
        rw [UInt16.toNat_add]
        exact Nat.mod_eq_of_lt (by simp; omega)
      rw [store, ih _ _ (by simp only [size]; omega), next, List.length_cons]
      simp only [WordMap.get?_insert, ← UInt16.toNat_inj]
      by_cases same : j.toNat = start.toNat
      · rw [if_neg (by omega), if_pos same, if_pos (by omega), same]
        simp
      · rw [if_neg same]
        by_cases inside : start.toNat ≤ j.toNat ∧ j.toNat < start.toNat + (bs.length + 1)
        · rw [if_pos (by omega), if_pos inside]
          have shift : j.toNat - start.toNat = (j.toNat - (start.toNat + 1)) + 1 := by omega
          rw [shift, List.getElem?_cons_succ]
        · rw [if_neg (by omega), if_neg inside]

/-- A write changes exactly the bytes it covers. -/
theorem byteAt_write (s : Segment) (start j : UInt16) (new : List UInt8)
    (fits : start.toNat + new.length ≤ size) :
    (s.write start new).byteAt j =
      if start.toNat ≤ j.toNat ∧ j.toNat < start.toNat + new.length then
        new.getD (j.toNat - start.toNat) 0
      else s.byteAt j := by
  simp only [byteAt, write, get?_store _ _ _ _ fits]
  split <;> simp [List.getD_eq_getElem?_getD]

end Segment

end RealMode
