import Mathlib.Algebra.Ring.Int.Defs
import Mathlib.Algebra.Ring.Nat
import RealMode.Width

/-!
# Numbers of a width

The modulus of a width is twice its sign bit, and the sign of a number below the modulus is its top
bit. A number of a width fits into a word.
-/

namespace RealMode

theorem testBit_top {n X : Nat} (below : X < 2 ^ (n + 1)) : X.testBit n = decide (2 ^ n ≤ X) := by
  by_cases large : 2 ^ n ≤ X
  · rw [Nat.testBit_of_two_pow_le_and_two_pow_add_one_gt large below, decide_eq_true large]
  · rw [Nat.testBit_lt_two_pow (Nat.lt_of_not_le large), decide_eq_false large]

namespace Width

theorem bits_pos (w : Width) : 0 < w.bits := by cases w <;> decide

theorem modulus_eq (w : Width) : w.modulus = 2 ^ w.bits := Nat.one_shiftLeft _

theorem signBit_eq (w : Width) : w.signBit = 2 ^ (w.bits - 1) := Nat.one_shiftLeft _

theorem modulus_eq_double (w : Width) : w.modulus = 2 * w.signBit := by cases w <;> rfl

theorem modulus_bounds (w : Width) :
    w.modulus % 2 = 0 ∧ 0 < w.modulus ∧ w.modulus ≤ 2 ^ 16 := by cases w <;> decide

theorem trunc_of_lt (w : Width) {v : UInt16} (narrow : v.toNat < w.modulus) : w.trunc v = v.toNat :=
  Nat.mod_eq_of_lt narrow

theorem toNat_ofNat (w : Width) {n : Nat} (below : n < w.modulus) : (UInt16.ofNat n).toNat = n :=
  UInt16.toNat_ofNat_of_lt' (Nat.lt_of_lt_of_le below w.modulus_bounds.2.2)

theorem trunc_ofNat (w : Width) {n : Nat} (below : n < w.modulus) :
    w.trunc (UInt16.ofNat n) = n := by
  rw [trunc, w.toNat_ofNat below, Nat.mod_eq_of_lt below]

theorem isNegative_eq (w : Width) {n : Nat} (below : n < w.modulus) :
    w.isNegative n = decide (w.modulus ≤ 2 * n) := by
  rw [isNegative, Nat.mod_eq_of_lt below, modulus_eq_double, decide_eq_decide,
    Nat.mul_le_mul_left_iff (by decide)]

/-- The sign is the top bit. -/
theorem isNegative_eq_testBit (w : Width) {n : Nat} (below : n < w.modulus) :
    w.isNegative n = n.testBit (w.bits - 1) := by
  have top : w.bits - 1 + 1 = w.bits := Nat.sub_add_cancel w.bits_pos
  have bound : n < 2 ^ (w.bits - 1 + 1) := by rwa [top, ← w.modulus_eq]
  rw [testBit_top bound, isNegative, Nat.mod_eq_of_lt below, w.signBit_eq]

/-- A signed number that the width has. -/
def InRange (w : Width) (n : Int) : Prop := -(2 : Int) ^ (w.bits - 1) ≤ n ∧ n < 2 ^ (w.bits - 1)

theorem inRange_iff {w : Width} {n : Int} : w.InRange n ↔
    -(w.signBit : Int) ≤ n ∧ n < w.signBit := by
  rw [InRange, w.signBit_eq]
  push_cast
  rfl

end Width

end RealMode
