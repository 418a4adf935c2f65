import RealMode.Flags
import RealMode.Width

/-!
# Arithmetic and flags

Each operation takes the flags and operands of one width and gives the result with the new
flags. Results are computed on the numbers that the operands stand for; carries and borrows
are read off those numbers.
-/

namespace RealMode.Alu

/-- A value of the operation's width and the flags it leaves. -/
structure Result where
  value : UInt16
  flags : Flags
deriving DecidableEq

/-- The number of ones among the low eight bits is even. -/
def evenParity (n : Nat) : Bool :=
  ((List.range 8).filter n.testBit).length % 2 == 0

/-- Zero, Sign and Parity follow the result. -/
def withResult (f : Flags) (w : Width) (n : Nat) : Flags :=
  { f with
    zero := n % w.modulus == 0
    sign := w.isNegative n
    parity := evenParity n }

def add (f : Flags) (w : Width) (a b : UInt16) (carryIn : Bool) : Result :=
  let x := w.trunc a
  let y := w.trunc b
  let full := x + y + carryIn.toNat
  let n := full % w.modulus
  { value := UInt16.ofNat n
    flags := withResult
      { f with
        carry := w.modulus ≤ full
        overflow := w.isNegative x == w.isNegative y && w.isNegative n != w.isNegative x
        auxCarry := 16 ≤ x % 16 + y % 16 + carryIn.toNat } w n }

/-- Also CMP, which drops the value. -/
def sub (f : Flags) (w : Width) (a b : UInt16) (borrowIn : Bool) : Result :=
  let x := w.trunc a
  let y := w.trunc b
  let n := (x + w.modulus - (y + borrowIn.toNat)) % w.modulus
  { value := UInt16.ofNat n
    flags := withResult
      { f with
        carry := x < y + borrowIn.toNat
        overflow := w.isNegative x != w.isNegative y && w.isNegative n != w.isNegative x
        auxCarry := x % 16 < y % 16 + borrowIn.toNat } w n }

/-- The flags of AND, OR, XOR and TEST for a result the caller has computed. -/
def logic (f : Flags) (w : Width) (result : UInt16) : Result :=
  let n := w.trunc result
  { value := UInt16.ofNat n
    flags := withResult { f with carry := false, overflow := false, auxCarry := false } w n }

/-- Carry is left alone. -/
def inc (f : Flags) (w : Width) (a : UInt16) : Result :=
  let r := add f w a 1 false
  { r with flags := { r.flags with carry := f.carry } }

/-- Carry is left alone. -/
def dec (f : Flags) (w : Width) (a : UInt16) : Result :=
  let r := sub f w a 1 false
  { r with flags := { r.flags with carry := f.carry } }

def neg (f : Flags) (w : Width) (a : UInt16) : Result := sub f w 0 a false

end RealMode.Alu
