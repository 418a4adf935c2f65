import RealMode.Text.Hex
import RealMode.LittleEndian

/-!
# Far pointers

A `segment:offset` address. Two pointers that reach one byte of linear memory through different
pairs are different values, and the order is by segment first. In memory the offset comes before the
segment; in a double word the segment is the high half.
-/

namespace RealMode

structure FarPtr where
  segment : UInt16
  offset : UInt16
deriving DecidableEq, Inhabited

namespace FarPtr

def null : FarPtr := ⟨0, 0⟩

/-- Returning here ends a run. -/
def haltSentinel : FarPtr := ⟨0xffff, 0xffff⟩

def ofDword (d : UInt32) : FarPtr := ⟨highWord d, lowWord d⟩

def toDword (p : FarPtr) : UInt32 := dwordOfWords p.offset p.segment

/-- Offsets wrap inside the segment. -/
def advance (p : FarPtr) (delta : UInt16) : FarPtr := { p with offset := p.offset + delta }

def toBytes (p : FarPtr) : List UInt8 := bytesOfWord p.offset ++ bytesOfWord p.segment

def ofBytes (b0 b1 b2 b3 : UInt8) : FarPtr := ⟨wordOfBytes b2 b3, wordOfBytes b0 b1⟩

instance : Ord FarPtr :=
  ⟨fun p q => (compare p.segment q.segment).then (compare p.offset q.offset)⟩

instance : ToString FarPtr :=
  ⟨fun p => Text.Hex.upper 4 p.segment.toNat ++ ":" ++ Text.Hex.upper 4 p.offset.toNat⟩

@[simp] theorem ofDword_toDword (p : FarPtr) : ofDword p.toDword = p := by
  simp [ofDword, toDword]

@[simp] theorem toDword_ofDword (d : UInt32) : (ofDword d).toDword = d := by
  simp [ofDword, toDword]

@[simp] theorem length_toBytes (p : FarPtr) : p.toBytes.length = 4 := rfl

theorem ofBytes_toBytes (p : FarPtr) :
    ofBytes (lowByte p.offset) (highByte p.offset) (lowByte p.segment) (highByte p.segment) =
      p := by
  simp [ofBytes]

end FarPtr

end RealMode
