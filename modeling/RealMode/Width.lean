/-!
# Operand widths

An operand is a byte or a word. A value of either width travels in a `UInt16`; `trunc` is the number
it stands for at the width, and bits above the width never count.
-/

namespace RealMode

inductive Width where
  | byte
  | word
deriving DecidableEq, Inhabited

namespace Width

def bits : Width → Nat
  | byte => 8
  | word => 16

/-- One past the largest value. -/
def modulus (w : Width) : Nat := 1 <<< w.bits

def mask (w : Width) : Nat := w.modulus - 1

def signBit (w : Width) : Nat := 1 <<< (w.bits - 1)

/-- Size in bytes. -/
def size : Width → Nat
  | byte => 1
  | word => 2

def trunc (w : Width) (v : UInt16) : Nat := v.toNat % w.modulus

def isNegative (w : Width) (n : Nat) : Bool := w.signBit ≤ n % w.modulus

/-- The two's complement reading of the low bits. -/
def signed (w : Width) (v : UInt16) : Int :=
  if w.signBit ≤ w.trunc v then (w.trunc v : Int) - w.modulus else w.trunc v

theorem trunc_lt (w : Width) (v : UInt16) : w.trunc v < w.modulus :=
  Nat.mod_lt _ (by cases w <;> decide)

end Width

end RealMode
