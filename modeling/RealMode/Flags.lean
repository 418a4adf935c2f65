/-!
# The FLAGS word

Nine flags; the other bits of the word do not exist. `toWord` and `ofWord` place them, and `pushed`
is the word as the stack and AH see it, with bit 1 always set.
-/

namespace RealMode

structure Flags where
  carry : Bool := false
  parity : Bool := false
  auxCarry : Bool := false
  zero : Bool := false
  sign : Bool := false
  trap : Bool := false
  interrupt : Bool := false
  direction : Bool := false
  overflow : Bool := false
deriving DecidableEq, Inhabited

namespace Flags

private def place (b : Bool) (mask : UInt16) : UInt16 := if b then mask else 0

def toWord (f : Flags) : UInt16 :=
  place f.carry 0x0001 ||| place f.parity 0x0004 ||| place f.auxCarry 0x0010
    ||| place f.zero 0x0040 ||| place f.sign 0x0080 ||| place f.trap 0x0100
    ||| place f.interrupt 0x0200 ||| place f.direction 0x0400 ||| place f.overflow 0x0800

/-- Bits that are not flags are dropped. -/
def ofWord (w : UInt16) : Flags where
  carry := w &&& 0x0001 != 0
  parity := w &&& 0x0004 != 0
  auxCarry := w &&& 0x0010 != 0
  zero := w &&& 0x0040 != 0
  sign := w &&& 0x0080 != 0
  trap := w &&& 0x0100 != 0
  interrupt := w &&& 0x0200 != 0
  direction := w &&& 0x0400 != 0
  overflow := w &&& 0x0800 != 0

/-- The word that PUSHF and INT store. -/
def pushed (f : Flags) : UInt16 := f.toWord ||| 0x0002

/-- Every flag of `mask` is set. -/
def contains (f : Flags) (mask : UInt16) : Bool :=
  let m := (ofWord mask).toWord
  f.toWord &&& m == m

/-- Sets or clears every flag of `mask`. -/
def assign (f : Flags) (mask : UInt16) (value : Bool) : Flags :=
  if value then ofWord (f.toWord ||| mask) else ofWord (f.toWord &&& ~~~mask)

/-- The flags that SAHF loads from AH; the others stay. -/
def withLowByte (f : Flags) (ah : UInt8) : Flags :=
  let new := ofWord ah.toUInt16
  { f with
    carry := new.carry
    parity := new.parity
    auxCarry := new.auxCarry
    zero := new.zero
    sign := new.sign }

theorem ofWord_toWord (f : Flags) : ofWord f.toWord = f := by
  obtain ⟨c, p, a, z, s, t, i, d, o⟩ := f
  revert c p a z s t i d o
  decide +kernel

private theorem or_two_and {mask : UInt16} (h : 2 &&& mask = 0) (w : UInt16) :
    (w ||| 2) &&& mask = w &&& mask := by
  apply UInt16.toBitVec_inj.1
  have none : (2 : UInt16).toBitVec &&& mask.toBitVec = 0 := congrArg UInt16.toBitVec h
  simp only [UInt16.toBitVec_and, UInt16.toBitVec_or]
  rw [BitVec.and_or_distrib_right, none]
  exact BitVec.or_zero

/-- Bit 1 is no flag. -/
theorem ofWord_or_two (w : UInt16) : ofWord (w ||| 2) = ofWord w := by
  simp (disch := decide) only [ofWord, or_two_and]

theorem ofWord_pushed (f : Flags) : ofWord f.pushed = f :=
  (ofWord_or_two f.toWord).trans (ofWord_toWord f)

end Flags

end RealMode
