import RealMode.Registers
import RealMode.Width

/-!
# Multiplication and division

Products and quotients are computed on the numbers that the registers stand for. A product has twice
the width of its factors, and Carry and Overflow tell that its upper half is needed. A quotient is
cut toward zero; where it does not fit, or the divisor is zero, there is no result.
-/

namespace RealMode

/-- The number is one that two's complement has at this width. -/
def Width.fits (w : Width) (n : Int) : Bool :=
  -(w.signBit : Int) ≤ n && n < w.signBit

namespace Registers

/-- AX or DX:AX becomes the product of the accumulator and `factor`. -/
def mul (r : Registers) (w : Width) (factor : UInt16) : Registers :=
  match w with
  | .byte =>
    let product := r.al.toNat * w.trunc factor
    { r with ax := UInt16.ofNat product }.withCarryOverflow (w.modulus ≤ product)
  | .word =>
    let product := r.ax.toNat * w.trunc factor
    (r.withDxAx (UInt32.ofNat product)).withCarryOverflow (w.modulus ≤ product)

def imul (r : Registers) (w : Width) (factor : UInt16) : Registers :=
  let product := w.signed r.ax * w.signed factor
  match w with
  | .byte => { r with ax := UInt16.ofInt product }.withCarryOverflow (!w.fits product)
  | .word => (r.withDxAx (UInt32.ofInt product)).withCarryOverflow (!w.fits product)

/-- Quotient in AL and remainder in AH, or in AX and DX. -/
def div? (r : Registers) (w : Width) (divisor : UInt16) : Option Registers :=
  let d := w.trunc divisor
  let n :=
    match w with
    | .byte => r.ax.toNat
    | .word => r.dxAx.toNat
  if d = 0 ∨ w.modulus ≤ n / d then none
  else
    match w with
    | .byte => some { r with ax := wordOfBytes (UInt8.ofNat (n / d)) (UInt8.ofNat (n % d)) }
    | .word => some { r with ax := UInt16.ofNat (n / d), dx := UInt16.ofNat (n % d) }

/-- The two's complement reading of DX:AX. -/
def signedDxAx (r : Registers) : Int :=
  if r.dxAx.toNat < 0x80000000 then r.dxAx.toNat else (r.dxAx.toNat : Int) - 0x100000000

def idiv? (r : Registers) (w : Width) (divisor : UInt16) : Option Registers :=
  let d := w.signed divisor
  let n :=
    match w with
    | .byte => Width.word.signed r.ax
    | .word => r.signedDxAx
  if d = 0 ∨ !w.fits (n.tdiv d) then none
  else
    match w with
    | .byte => some { r with ax := wordOfBytes (UInt8.ofInt (n.tdiv d)) (UInt8.ofInt (n.tmod d)) }
    | .word => some { r with ax := UInt16.ofInt (n.tdiv d), dx := UInt16.ofInt (n.tmod d) }

end Registers

end RealMode
