import RealMode.Instruction.Masked.FirstMap
import RealMode.Instruction.Masked.HalfPrecision
import RealMode.Instruction.Masked.SecondMap
import RealMode.Instruction.Masked.ThirdMap
import RealMode.Instruction.Vector.ExtendedMap
import RealMode.Instruction.Vector.FirstMap
import RealMode.Instruction.Vector.SecondMap

/-!
# Maps behind vector prefixes

Readers for the four forms of a vector prefix. Each takes the byte behind the opening opcode, which
has already been seen to belong to a prefix.
-/

namespace RealMode.VectorMap

open ByteReader

/-- The maps of the short prefixes by number. -/
def vectorTable (map : Nat) : List VectorOperation :=
  match map with
  | 1 => VectorOperation.firstMap
  | 2 => VectorOperation.secondMap
  | 3 => VectorOperation.thirdMap
  | _ => VectorOperation.extendedMap map

def maskedTable (map : Nat) : List MaskedOperation :=
  match map with
  | 1 => MaskedOperation.firstMap
  | 2 => MaskedOperation.secondMap
  | 3 => MaskedOperation.thirdMap
  | 5 => MaskedOperation.halfFirst
  | 6 => MaskedOperation.halfSecond
  | _ => []

/-- The operation that clears vector registers is the only one without an operand byte. -/
def clears (v : VectorPrefix) (opcode : UInt8) : Bool :=
  v.map == 1 && v.selector == .plain && opcode.toNat == 0x77

def operation (p : Prefixes) (v : VectorPrefix) : ByteReader Operation := do
  let opcode ← byte
  if clears v opcode then
    if v.further == 0 then
      return .unsupported (if v.long then "Vzeroall" else "Vzeroupper")
    else
      .fail
  else
    VectorOperation.read (vectorTable v.map) p v opcode

/-- Behind `C5`: one prefix byte, always the first map. -/
def two (p : Prefixes) (b : UInt8) : ByteReader Operation :=
  if p.allowVector then operation p (.ofByte 1 false b) else .fail

/-- Behind `C4` and `8F`: the byte with the map and one more. -/
def three (p : Prefixes) (b : UInt8) : ByteReader Operation := do
  let c ← byte
  if p.allowVector then operation p (.ofByte (b.toNat % 32) (c.toNat / 128 == 1) c) else .fail

/-- Behind `62`: three prefix bytes. -/
def masked (p : Prefixes) (a : UInt8) : ByteReader Operation := do
  let b ← byte
  let c ← byte
  match MaskedPrefix.ofBytes? a b c with
  | none => .fail
  | some v =>
    let opcode ← byte
    if p.allowVector then MaskedOperation.read (maskedTable v.map) p v opcode else .fail

end RealMode.VectorMap
