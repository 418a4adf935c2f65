import RealMode.Alu

/-!
# Shifts and rotates

Only the low five bits of the count matter, and a count of zero changes nothing. SHL, SHR and SAR
set Zero, Sign and Parity; rotates change Carry and Overflow alone. Rotating through Carry is a
repeated single step on the value extended by the carry bit.
-/

namespace RealMode.Alu

inductive ShiftOp where
  | rol | ror | rcl | rcr | shl | shr | sar
deriving DecidableEq, Inhabited

namespace Shift

/-- Value and carry during a rotation through Carry. -/
structure Ring where
  value : Nat
  carry : Bool

def Ring.left (w : Width) (r : Ring) : Ring :=
  { value := (2 * r.value + r.carry.toNat) % w.modulus
    carry := w.isNegative r.value }

def Ring.right (w : Width) (r : Ring) : Ring :=
  { value := r.value / 2 + (if r.carry then w.signBit else 0)
    carry := r.value % 2 == 1 }

def Ring.turn (step : Ring → Ring) : Nat → Ring → Ring
  | 0, r => r
  | n + 1, r => turn step n (step r)

def shl (f : Flags) (w : Width) (n count : Nat) : Result :=
  let result := (n <<< count) % w.modulus
  let carry := decide (count ≤ w.bits) && n.testBit (w.bits - count)
  { value := UInt16.ofNat result
    flags :=
      withResult { f with carry := carry, overflow := w.isNegative result != carry } w result }

/-- Overflow is the sign of the operand, for every count. -/
def shr (f : Flags) (w : Width) (n count : Nat) : Result :=
  let result := n >>> count
  { value := UInt16.ofNat result
    flags := withResult
      { f with carry := n.testBit (count - 1), overflow := w.isNegative n } w result }

/-- The sign bit fills the places that open up. -/
def sar (f : Flags) (w : Width) (n count : Nat) : Result :=
  let filled (k : Nat) : Nat :=
    if w.isNegative n then ((n + w.mask * w.modulus) >>> k) % w.modulus else n >>> k
  let result := filled (min count w.bits)
  { value := UInt16.ofNat result
    flags := withResult
      { f with
        carry := filled (min (count - 1) (w.bits - 1)) % 2 == 1
        overflow := false } w result }

def rol (f : Flags) (w : Width) (n count : Nat) : Result :=
  let turn := count % w.bits
  let result := ((n <<< turn) + (n >>> (w.bits - turn))) % w.modulus
  let carry := result % 2 == 1
  { value := UInt16.ofNat result
    flags := { f with carry := carry, overflow := w.isNegative result != carry } }

/-- Overflow compares the two highest bits of the result. -/
def ror (f : Flags) (w : Width) (n count : Nat) : Result :=
  let turn := count % w.bits
  let result := ((n >>> turn) + (n <<< (w.bits - turn))) % w.modulus
  { value := UInt16.ofNat result
    flags :=
      { f with
        carry := w.isNegative result
        overflow := w.isNegative result != w.isNegative (2 * result) } }

def rcl (f : Flags) (w : Width) (n count : Nat) : Result :=
  let r := Ring.turn (Ring.left w) (count % (w.bits + 1)) ⟨n, f.carry⟩
  { value := UInt16.ofNat r.value
    flags := { f with carry := r.carry, overflow := w.isNegative r.value != r.carry } }

/-- Overflow is taken from the operand before it turns. -/
def rcr (f : Flags) (w : Width) (n count : Nat) : Result :=
  let r := Ring.turn (Ring.right w) (count % (w.bits + 1)) ⟨n, f.carry⟩
  { value := UInt16.ofNat r.value
    flags := { f with carry := r.carry, overflow := w.isNegative n != f.carry } }

end Shift

def shift (f : Flags) (w : Width) (op : ShiftOp) (value : UInt16) (count : UInt8) : Result :=
  let n := w.trunc value
  let c := count.toNat % 32
  if c = 0 then ⟨UInt16.ofNat n, f⟩ else
    match op with
    | .shl => Shift.shl f w n c
    | .shr => Shift.shr f w n c
    | .sar => Shift.sar f w n c
    | .rol => Shift.rol f w n c
    | .ror => Shift.ror f w n c
    | .rcl => Shift.rcl f w n c
    | .rcr => Shift.rcr f w n c

end RealMode.Alu
