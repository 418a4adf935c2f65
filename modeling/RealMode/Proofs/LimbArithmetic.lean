import Mathlib.Data.List.Induction
import Mathlib.Data.Nat.Digits.Defs
import RealMode.Processor
import RealMode.Proofs.Places
import RealMode.Proofs.Widths

/-!
# Arithmetic limb by limb

Numbers wider than a register are added and subtracted limb by limb, the lowest first, with Carry
between the limbs. What one instruction says about its limbs the last one says about the whole
numbers: its flags are those of one addition or subtraction at the width of all limbs together. A
subtraction is an addition read backwards.
-/

namespace RealMode

namespace Width

/-- The number that limbs stand for, the lowest first. -/
def number (w : Width) (limbs : List UInt16) : Nat := Nat.ofDigits w.modulus (limbs.map w.trunc)

/-- The two's complement reading of that number. -/
def signedNumber (w : Width) (limbs : List UInt16) : Int :=
  (BitVec.ofNat (w.bits * limbs.length) (w.number limbs)).toInt

theorem number_singleton (w : Width) (a : UInt16) : w.number [a] = w.trunc a :=
  Nat.ofDigits_singleton

theorem modulus_pow (w : Width) (n : Nat) : w.modulus ^ n = 2 ^ (w.bits * n) := by
  rw [modulus_eq, Nat.pow_mul]

theorem number_concat (w : Width) (limbs : List UInt16) (a : UInt16) :
    w.number (limbs ++ [a]) = w.number limbs + 2 ^ (w.bits * limbs.length) * w.trunc a := by
  rw [number, List.map_append, Nat.ofDigits_append, List.map_singleton, Nat.ofDigits_singleton,
    List.length_map, modulus_pow, number]

theorem number_lt (w : Width) (limbs : List UInt16) :
    w.number limbs < 2 ^ (w.bits * limbs.length) := by
  have digits : ∀ x ∈ limbs.map w.trunc, x < w.modulus := by
    intro x inside
    obtain ⟨a, -, rfl⟩ := List.mem_map.1 inside
    exact w.trunc_lt a
  have base : 1 < w.modulus := by cases w <;> decide
  have bound := Nat.ofDigits_lt_base_pow_length base digits
  rwa [List.length_map, modulus_pow] at bound

end Width

/-- `C` is `A + B + k` below `N`, Carry is what has gone beyond, and Overflow tells that two numbers
of the same sign have a sum of the other one. -/
structure Sum (N A B k C : Nat) (f : Flags) : Prop where
  number : C + N * f.carry.toNat = A + B + k
  overflow : f.overflow =
    (decide (N ≤ 2 * A) == decide (N ≤ 2 * B) && decide (N ≤ 2 * C) != decide (N ≤ 2 * A))

/-- The top bit of a number is that of its highest limb. -/
theorem top_limb {M b x d : Nat} (even : b % 2 = 0) (low : x < M) : M * b ≤ 2 * (x + M * d) ↔
    b ≤ 2 * d := by
  obtain ⟨h, rfl⟩ : ∃ h, b = 2 * h := ⟨b / 2, by omega⟩
  rw [Nat.mul_left_comm, Nat.mul_le_mul_left_iff (by decide), Nat.mul_le_mul_left_iff (by decide)]
  constructor
  · intro large
    by_contra small
    have next : M * (d + 1) ≤ M * h := Nat.mul_le_mul_left M (by omega)
    rw [Nat.mul_add, Nat.mul_one] at next
    omega
  · intro large
    have scaled : M * h ≤ M * d := Nat.mul_le_mul_left M large
    omega

/-- One more limb, whose carry is that of the limbs below. -/
theorem Sum.append {M A B k C b x y z : Nat} {f f' : Flags} (even : b % 2 = 0) (boundA : A < M)
    (boundB : B < M) (boundC : C < M) (low : Sum M A B k C f)
    (high : Sum b x y f.carry.toNat z f') :
    Sum (M * b) (A + M * x) (B + M * y) k (C + M * z) f' where
  number := by
    have scaled : M * (z + b * f'.carry.toNat) = M * (x + y + f.carry.toNat) :=
      congrArg (M * ·) high.number
    have lower := low.number
    simp only [Nat.mul_add, ← Nat.mul_assoc] at scaled
    omega
  overflow := by
    simp only [top_limb even boundA, top_limb even boundB, top_limb even boundC]
    exact high.overflow

namespace Alu

variable {f : Flags} {w : Width} {a b : UInt16} {k : Bool}

theorem toNat_add (f : Flags) (w : Width) (a b : UInt16) (k : Bool) :
    (add f w a b k).value.toNat = (w.trunc a + w.trunc b + k.toNat) % w.modulus := by
  obtain ⟨-, some, few⟩ := w.modulus_bounds
  rw [add, UInt16.toNat_ofNat']
  exact Nat.mod_eq_of_lt (Nat.lt_of_lt_of_le (Nat.mod_lt _ some) few)

theorem toNat_sub (f : Flags) (w : Width) (a b : UInt16) (k : Bool) :
    (sub f w a b k).value.toNat = (w.trunc a + w.modulus - (w.trunc b + k.toNat)) % w.modulus := by
  obtain ⟨-, some, few⟩ := w.modulus_bounds
  rw [sub, UInt16.toNat_ofNat']
  exact Nat.mod_eq_of_lt (Nat.lt_of_lt_of_le (Nat.mod_lt _ some) few)

theorem add_congr {a' b' : UInt16} (left : w.trunc a' = w.trunc a)
    (right : w.trunc b' = w.trunc b) (f : Flags) (k : Bool) : add f w a' b' k = add f w a b k := by
  rw [add, add, left, right]

theorem sub_congr {a' b' : UInt16} (left : w.trunc a' = w.trunc a)
    (right : w.trunc b' = w.trunc b) (f : Flags) (k : Bool) : sub f w a' b' k = sub f w a b k := by
  rw [sub, sub, left, right]

theorem sum_add (f : Flags) (w : Width) (a b : UInt16) (k : Bool) :
    let r := add f w a b k
    Sum w.modulus (w.trunc a) (w.trunc b) k.toNat r.value.toNat r.flags ∧
      r.flags.sign = decide (w.modulus ≤ 2 * r.value.toNat) := by
  intro r
  have value : r.value.toNat = (w.trunc a + w.trunc b + k.toNat) % w.modulus := toNat_add f w a b k
  have below : r.value.toNat < w.modulus := value ▸ Nat.mod_lt _ w.modulus_bounds.2.1
  have one := k.toNat_le
  have left := w.trunc_lt a
  have right := w.trunc_lt b
  refine ⟨⟨?_, ?_⟩, ?_⟩
  · have carry : r.flags.carry = decide (w.modulus ≤ w.trunc a + w.trunc b + k.toNat) := rfl
    rw [value, carry]
    by_cases more : w.modulus ≤ w.trunc a + w.trunc b + k.toNat
    · rw [decide_eq_true more, Nat.mod_eq_sub_mod more, Nat.mod_eq_of_lt (by omega),
        Bool.toNat_true]
      omega
    · rw [decide_eq_false more, Nat.mod_eq_of_lt (by omega), Bool.toNat_false]
      rfl
  · rw [← w.isNegative_eq left, ← w.isNegative_eq right, ← w.isNegative_eq below, value]
    rfl
  · rw [← w.isNegative_eq below, value]
    rfl

/-- What was taken from is the sum of the difference and what was taken off. -/
theorem sum_sub (f : Flags) (w : Width) (a b : UInt16) (k : Bool) :
    let r := sub f w a b k
    Sum w.modulus r.value.toNat (w.trunc b) k.toNat (w.trunc a) r.flags ∧
      r.flags.sign = decide (w.modulus ≤ 2 * r.value.toNat) := by
  intro r
  have value : r.value.toNat = (w.trunc a + w.modulus - (w.trunc b + k.toNat)) % w.modulus :=
    toNat_sub f w a b k
  have below : r.value.toNat < w.modulus := value ▸ Nat.mod_lt _ w.modulus_bounds.2.1
  have one := k.toNat_le
  have left := w.trunc_lt a
  have right := w.trunc_lt b
  refine ⟨⟨?_, ?_⟩, ?_⟩
  · have carry : r.flags.carry = decide (w.trunc a < w.trunc b + k.toNat) := rfl
    rw [value, carry]
    by_cases less : w.trunc a < w.trunc b + k.toNat
    · rw [decide_eq_true less, Bool.toNat_true, Nat.mod_eq_of_lt (by omega)]
      omega
    · rw [decide_eq_false less, Bool.toNat_false, Nat.mod_eq_sub_mod (by omega),
        Nat.mod_eq_of_lt (by omega)]
      omega
  · have overflow : r.flags.overflow = (w.isNegative (w.trunc a) != w.isNegative (w.trunc b) &&
        w.isNegative r.value.toNat != w.isNegative (w.trunc a)) := by
      rw [value]
      rfl
    rw [← w.isNegative_eq left, ← w.isNegative_eq right, ← w.isNegative_eq below, overflow]
    cases w.isNegative (w.trunc a) <;> cases w.isNegative (w.trunc b) <;>
      cases w.isNegative r.value.toNat <;> rfl
  · rw [← w.isNegative_eq below, value]
    rfl

end Alu

namespace ArithOp

/-- What the instruction computes from its operands and from the flags before it. -/
def result (op : ArithOp) (f : Flags) (w : Width) (a b : UInt16) : Alu.Result :=
  match op with
  | add => Alu.add f w a b false
  | adc => Alu.add f w a b f.carry
  | sub => Alu.sub f w a b false
  | sbb => Alu.sub f w a b f.carry
  | cmp => Alu.sub f w a b false

/-- What is carried in. -/
def carryIn (op : ArithOp) (f : Flags) : Bool :=
  match op with
  | adc => f.carry
  | sbb => f.carry
  | add => false
  | sub => false
  | cmp => false

/-- `C` with these flags is what becomes of `A` and `B` below `N`, where `k` is carried in. -/
def Leaves (op : ArithOp) (N A B k C : Nat) (f : Flags) : Prop :=
  f.sign = decide (N ≤ 2 * C) ∧
    match op with
    | add => Sum N A B k C f
    | adc => Sum N A B k C f
    | sub => Sum N C B k A f
    | sbb => Sum N C B k A f
    | cmp => Sum N C B k A f

theorem leaves_result (op : ArithOp) (f : Flags) (w : Width) (a b : UInt16) :
    op.Leaves w.modulus (w.trunc a) (w.trunc b) (op.carryIn f).toNat (op.result f w a b).value.toNat
      (op.result f w a b).flags := by
  cases op with
  | add => exact (Alu.sum_add f w a b false).symm
  | adc => exact (Alu.sum_add f w a b f.carry).symm
  | sub => exact (Alu.sum_sub f w a b false).symm
  | sbb => exact (Alu.sum_sub f w a b f.carry).symm
  | cmp => exact (Alu.sum_sub f w a b false).symm

theorem value_lt (op : ArithOp) (f : Flags) (w : Width) (a b : UInt16) :
    (op.result f w a b).value.toNat < w.modulus := by
  have some := w.modulus_bounds.2.1
  cases op with
  | add => exact Alu.toNat_add f w a b false ▸ Nat.mod_lt _ some
  | adc => exact Alu.toNat_add f w a b f.carry ▸ Nat.mod_lt _ some
  | sub => exact Alu.toNat_sub f w a b false ▸ Nat.mod_lt _ some
  | sbb => exact Alu.toNat_sub f w a b f.carry ▸ Nat.mod_lt _ some
  | cmp => exact Alu.toNat_sub f w a b false ▸ Nat.mod_lt _ some

theorem Leaves.append {op : ArithOp} {M A B k C b x y z : Nat} {f f' : Flags} (even : b % 2 = 0)
    (boundA : A < M) (boundB : B < M) (boundC : C < M) (low : op.Leaves M A B k C f)
    (high : op.Leaves b x y f.carry.toNat z f') :
    op.Leaves (M * b) (A + M * x) (B + M * y) k (C + M * z) f' := by
  refine ⟨?_, ?_⟩
  · simp only [top_limb even boundC]
    exact high.1
  · cases op with
    | add | adc => exact low.2.append even boundA boundB boundC high.2
    | sub | sbb | cmp => exact low.2.append even boundC boundB boundA high.2

end ArithOp

namespace Processor

open Exec

variable {σ : Type} {m m' m₁ m₂ : Machine σ} {board : Board σ} {i : Instruction}
  {op op' : ArithOp} {dst src : Operand}
  {w : Width} {a b c : UInt16} {as bs cs : List UInt16}

/-- An operation on operands that are there is carried out, and its result
stands in the destination. -/
theorem exists_arith (board : Board σ) (asked : i.operation = .arith op dst src)
    (stores : op ≠ .cmp) (place : dst.isPlace = true) (left : read i dst m = .ok a m)
    (right : read i src m = .ok b m) :
    ∃ m', execute board i m = .ok () m' ∧
      m'.registers.flags = (op.result m.registers.flags dst.width a b).flags ∧
      read i dst m' = .ok (op.result m.registers.flags dst.width a b).value m' := by
  let r := op.result m.registers.flags dst.width a b
  obtain ⟨m', settled, flags, back⟩ := exists_settle place left r.flags r.value
  refine ⟨m', ?_, flags, back (op.value_lt _ _ _ _)⟩
  rw [execute, asked]
  dsimp only
  rw [arith, bind_of_ok left, bind_of_ok right, bind_of_ok (registers_eq_ok m)]
  change (setFlags r.flags >>= fun _ => if op = .cmp then pure () else write i dst r.value) m =
    .ok () m'
  rw [if_neg stores]
  exact settled

/-- One instruction of a calculation, with its operands and with what stands in its
destination afterwards. -/
inductive Limb (w : Width) (op : ArithOp) : Machine σ → UInt16 → UInt16 → UInt16 →
    Machine σ → Prop
  | mk (board : Board σ) (i : Instruction) {dst src : Operand} {m m' : Machine σ}
    {a b c : UInt16} :
      i.operation = .arith op dst src → dst.isPlace = true → dst.width = w →
      read i dst m = .ok a m →
      read i src m = .ok b m → execute board i m = .ok () m' → read i dst m' = .ok c m' →
        Limb w op m a b c m'

/-- A calculation on all limbs, the lowest first: `op` once and then `op'`. Between the instructions
anything may happen that keeps Carry. -/
inductive Chain (w : Width) (op op' : ArithOp) :
    Machine σ → List UInt16 → List UInt16 → List UInt16 → Machine σ → Prop
  | first {m m' : Machine σ} {a b c : UInt16} : Limb w op m a b c m' →
  Chain w op op' m [a] [b] [c] m'
  | next {m m₁ m₂ m' : Machine σ} {as bs cs : List UInt16} {a b c : UInt16} :
      Chain w op op' m as bs cs m₁ →
      m₂.registers.flags.carry = m₁.registers.flags.carry → Limb w op' m₂ a b c m' →
      Chain w op op' m (as ++ [a]) (bs ++ [b]) (cs ++ [c]) m'

/-- Registers that hold the operands of a calculation at each width. -/
def accumulator : Width → Register
  | .byte => .byte .al
  | .word => .word .ax

def addend : Width → Register
  | .byte => .byte .bl
  | .word => .word .bx

theorem exists_limb (m : Machine σ) (stores : op ≠ .cmp) (narrowA : a.toNat < w.modulus)
    (narrowB : b.toNat < w.modulus) :
    ∃ (m₁ : Machine σ) (c : UInt16) (m' : Machine σ),
      m₁.registers.flags = m.registers.flags ∧ Limb w op m₁ a b c m' := by
  let m₁ : Machine σ := { m with registers := { m.registers with ax := a, bx := b } }
  let i : Instruction := ⟨0, 2, .arith op (.register (accumulator w)) (.register (addend w))⟩
  have left : read i (.register (accumulator w)) m₁ = .ok a m₁ := by
    cases w with
    | byte => exact congrArg (EStateM.Result.ok · m₁) (toUInt16_lowByte narrowA)
    | word => rfl
  have right : read i (.register (addend w)) m₁ = .ok b m₁ := by
    cases w with
    | byte => exact congrArg (EStateM.Result.ok · m₁) (toUInt16_lowByte narrowB)
    | word => rfl
  have place : (Operand.register (accumulator w)).isPlace = true := by cases w <;> rfl
  have width : (Operand.register (accumulator w)).width = w := by cases w <;> rfl
  obtain ⟨m', ran, -, back⟩ := exists_arith .bare rfl stores place left right
  exact ⟨m₁, _, m', rfl, .mk .bare i rfl place width left right ran back⟩

/-- All numbers of the same length can be calculated with. -/
theorem exists_chain (m : Machine σ) (stores : op ≠ .cmp ∧ op' ≠ .cmp) (some : as ≠ [])
    (same : bs.length = as.length) (narrowA : ∀ a ∈ as, a.toNat < w.modulus)
    (narrowB : ∀ b ∈ bs, b.toNat < w.modulus) :
    ∃ (m₁ : Machine σ) (cs : List UInt16) (m' : Machine σ),
      Chain w op op' m₁ as bs cs m' := by
  induction as using List.reverseRecOn generalizing bs with
  | nil => exact absurd rfl some
  | append_singleton as a ih =>
    rcases List.eq_nil_or_concat bs with rfl | ⟨bs, b, rfl⟩
    · simp at same
    rw [List.concat_eq_append] at same narrowB ⊢
    rw [List.length_append, List.length_append] at same
    replace same : bs.length = as.length := Nat.add_right_cancel same
    have lastA : a.toNat < w.modulus := narrowA a (by simp)
    have lastB : b.toNat < w.modulus := narrowB b (by simp)
    rcases as with _ | ⟨a', as⟩
    · obtain rfl := List.length_eq_zero_iff.1 same
      obtain ⟨m₁, c, m', -, limb⟩ := exists_limb m stores.1 lastA lastB
      exact ⟨m₁, [c], m', .first limb⟩
    · obtain ⟨m₁, cs, m₂, chain⟩ := ih (List.cons_ne_nil a' as) same
        (fun x inside => narrowA x (List.mem_append_left _ inside))
        fun x inside => narrowB x (List.mem_append_left _ inside)
      obtain ⟨m₃, c, m', flags, limb⟩ := exists_limb m₂ stores.2 lastA lastB
      exact ⟨m₁, cs ++ [c], m', .next chain (congrArg Flags.carry flags) limb⟩

theorem Limb.result (limb : Limb w op m a b c m') (stores : op ≠ .cmp) :
    m'.registers.flags = (op.result m.registers.flags w a b).flags ∧
    c = (op.result m.registers.flags w a b).value := by
  cases limb with
  | mk _ _ asked place width left right ran back =>
    subst width
    obtain ⟨m₁, again, flags, value⟩ := exists_arith _ asked stores place left right
    rw [ran] at again
    cases again
    rw [back] at value
    cases value
    exact ⟨flags, rfl⟩

theorem Limb.leaves (limb : Limb w op m a b c m') (stores : op ≠ .cmp) :
    c.toNat < w.modulus ∧
    op.Leaves w.modulus (w.trunc a) (w.trunc b) (op.carryIn m.registers.flags).toNat (w.trunc c)
      m'.registers.flags := by
  obtain ⟨flags, rfl⟩ := limb.result stores
  have below := op.value_lt m.registers.flags w a b
  rw [w.trunc_of_lt below, flags]
  exact ⟨below, op.leaves_result _ w a b⟩

/-- ADD is followed by ADC and SUB by SBB. -/
def Follows (op op' : ArithOp) : Prop := op = .add ∧ op' = .adc ∨ op = .sub ∧ op' = .sbb

/-- By induction on the limbs; the carry out of those below is the carry into the next. -/
theorem Chain.leaves (chain : Chain w op op' m as bs cs m') (follows : Follows op op') :
    bs.length = as.length ∧ cs.length = as.length ∧ (∀ c ∈ cs, c.toNat < w.modulus) ∧
      op.Leaves (2 ^ (w.bits * as.length)) (w.number as) (w.number bs) 0 (w.number cs)
        m'.registers.flags := by
  have stores : op ≠ .cmp ∧ op' ≠ .cmp := by
    rcases follows with ⟨rfl, rfl⟩ | ⟨rfl, rfl⟩ <;> decide
  induction chain with
  | @first m' a b c limb =>
    obtain ⟨below, leaves⟩ := limb.leaves stores.1
    have none : op.carryIn m.registers.flags = false := by
      rcases follows with ⟨rfl, -⟩ | ⟨rfl, -⟩ <;> rfl
    rw [none, Width.modulus_eq] at leaves
    refine ⟨rfl, rfl, fun x inside => List.mem_singleton.1 inside ▸ below, ?_⟩
    simp only [Width.number_singleton, List.length_singleton, Nat.mul_one]
    exact leaves
  | @next m₁ m₂ m' as bs cs a b c _ kept limb ih =>
    obtain ⟨lengthB, lengthC, narrow, low⟩ := ih
    obtain ⟨below, high⟩ := limb.leaves stores.2
    have carried : op'.carryIn m₂.registers.flags = m₁.registers.flags.carry := by
      rw [← kept]
      rcases follows with ⟨-, rfl⟩ | ⟨-, rfl⟩ <;> rfl
    have alike : op'.Leaves = op.Leaves := by
      rcases follows with ⟨rfl, rfl⟩ | ⟨rfl, rfl⟩ <;> rfl
    rw [carried, alike] at high
    have boundB := w.number_lt bs
    have boundC := w.number_lt cs
    rw [lengthB] at boundB
    rw [lengthC] at boundC
    refine ⟨by simp [lengthB], by simp [lengthC], fun x inside => ?_, ?_⟩
    · rcases List.mem_append.1 inside with older | newest
      · exact narrow x older
      · exact List.mem_singleton.1 newest ▸ below
    · have whole := low.append w.modulus_bounds.1 (w.number_lt as) boundB boundC high
      rw [w.number_concat, w.number_concat, w.number_concat, lengthB, lengthC, List.length_append,
        List.length_singleton, Nat.mul_add, Nat.mul_one, Nat.pow_add, ← w.modulus_eq]
      exact whole

end Processor

/-- The two's complement reading of a number below `2 * H`. -/
def signedReading (H X : Nat) : Int := if H ≤ X then (X : Int) - 2 * H else X

section Reading

variable {N H A B C n X : Nat} {f : Flags}

theorem toInt_ofNat (below : X < 2 ^ (n + 1)) :
    (BitVec.ofNat (n + 1) X).toInt = signedReading (2 ^ n) X := by
  have half : (2 : Nat) ^ (n + 1) = 2 * 2 ^ n := Nat.pow_succ'
  rw [BitVec.toInt_eq_toNat_cond, BitVec.toNat_ofNat, Nat.mod_eq_of_lt below, half, signedReading]
  by_cases large : 2 ^ n ≤ X
  · rw [if_pos large, if_neg (by omega)]
    push_cast
    rfl
  · rw [if_neg large, if_pos (by omega)]

theorem Width.signedNumber_eq (w : Width) {limbs : List UInt16}
    (width : w.bits * limbs.length = n + 1) :
    w.signedNumber limbs = signedReading (2 ^ n) (w.number limbs) := by
  rw [Width.signedNumber, width]
  exact toInt_ofNat (width ▸ w.number_lt limbs)

theorem Sum.value_eq (sum : Sum N A B 0 C f) (below : C < N) : C = (A + B) % N := by
  have number := sum.number
  rw [Nat.add_zero] at number
  rw [← number, Nat.add_mul_mod_self_left, Nat.mod_eq_of_lt below]

/-- Carry tells whether the modulus has been taken off the sum. -/
theorem Sum.wraps (sum : Sum N A B 0 C f) : f.carry = false ∧ C = A + B ∨
    f.carry = true ∧ C + N = A + B := by
  have number := sum.number
  cases carry : f.carry with
  | false =>
    rw [carry, Bool.toNat_false] at number
    exact .inl ⟨rfl, by omega⟩
  | true =>
    rw [carry, Bool.toNat_true] at number
    exact .inr ⟨rfl, by omega⟩

theorem Sum.carry_iff (sum : Sum N A B 0 C f) (below : C < N) : f.carry = true ↔ N ≤ A + B := by
  rcases sum.wraps with ⟨carry, number⟩ | ⟨carry, number⟩
  · exact iff_of_false (Bool.eq_false_iff.1 carry) (by omega)
  · exact iff_of_true carry (by omega)

/-- Overflow tells that the sum of the signed readings is out of range. -/
theorem Sum.overflow_iff (sum : Sum (2 * H) A B 0 C f) (boundA : A < 2 * H) (boundB : B < 2 * H)
    (boundC : C < 2 * H) :
    f.overflow = true ↔
      ¬ (-(H : Int) ≤ signedReading H A + signedReading H B ∧
        signedReading H A + signedReading H B < H) := by
  have number := sum.wraps
  rw [sum.overflow, signedReading, signedReading]
  simp only [Bool.and_eq_true, beq_iff_eq, bne_iff_ne, decide_eq_decide, ne_eq]
  split_ifs <;> omega

/-- Read backwards, Carry tells which of two numbers is less. -/
theorem Sum.less_iff (sum : Sum N C B 0 A f) (below : C < N) : f.carry = true ↔ A < B := by
  rcases sum.wraps with ⟨carry, number⟩ | ⟨carry, number⟩
  · exact iff_of_false (Bool.eq_false_iff.1 carry) (by omega)
  · exact iff_of_true carry (by omega)

theorem Sum.difference_eq (sum : Sum N C B 0 A f) (below : C < N) :
    (C : Int) = ((A : Int) - B) % N := by
  have number : (A : Int) + N * f.carry.toNat = C + B := by exact_mod_cast sum.number
  have difference : (A : Int) - B = C + N * -(f.carry.toNat : Int) := by
    rw [mul_neg]
    omega
  rw [difference, Int.add_mul_emod_self_left,
    Int.emod_eq_of_lt (Int.natCast_nonneg C) (by exact_mod_cast below)]

/-- The sign of a difference and its overflow tell the order of the signed readings. -/
theorem Sum.signed_less_iff (sum : Sum (2 * H) C B 0 A f) (boundA : A < 2 * H) (boundB : B < 2 * H)
    (boundC : C < 2 * H) :
    (decide (2 * H ≤ 2 * C) != f.overflow) = true ↔ signedReading H A < signedReading H B := by
  have number := sum.wraps
  rw [sum.overflow, signedReading, signedReading]
  simp only [Nat.mul_le_mul_left_iff Nat.two_pos]
  by_cases signA : H ≤ A <;> by_cases signB : H ≤ B <;> by_cases signC : H ≤ C <;>
    simp [signA, signB, signC] <;> omega

end Reading

namespace Processor

open Exec

variable {σ : Type} {m m' : Machine σ} {op op' : ArithOp} {w : Width} {as bs cs : List UInt16}

theorem Chain.exists_width (chain : Chain w op op' m as bs cs m') :
    ∃ n, w.bits * as.length = n + 1 := by
  have some : 0 < w.bits := by cases w <;> decide
  have limbs : 0 < as.length := by
    cases chain with
    | first => exact Nat.one_pos
    | next =>
      rw [List.length_append]
      exact Nat.succ_pos _
  exact ⟨w.bits * as.length - 1, (Nat.succ_pred_eq_of_pos (Nat.mul_pos some limbs)).symm⟩

/-- The width of all limbs together has a top bit. -/
theorem Chain.bounds (chain : Chain w op op' m as bs cs m') (lengthB : bs.length = as.length)
    (lengthC : cs.length = as.length) :
    ∃ n, w.bits * as.length = n + 1 ∧ 2 ^ (n + 1) = 2 * 2 ^ n ∧ w.number as < 2 * 2 ^ n ∧
      w.number bs < 2 * 2 ^ n ∧ w.number cs < 2 * 2 ^ n := by
  obtain ⟨n, width⟩ := chain.exists_width
  have half : 2 ^ (n + 1) = 2 * 2 ^ n := Nat.pow_succ'
  have boundA := w.number_lt as
  have boundB := w.number_lt bs
  have boundC := w.number_lt cs
  rw [width, half] at boundA
  rw [lengthB, width, half] at boundB
  rw [lengthC, width, half] at boundC
  exact ⟨n, width, half, boundA, boundB, boundC⟩

/-- ADD on the lowest limbs and ADC on all others leave the limbs of the sum below the modulus of
all limbs together. Carry tells whether the sum goes beyond, Overflow whether the sum of the signed
readings is out of range, and Sign is the top bit. SUB and SBB leave the limbs of the difference;
Carry tells whether the first number is less than the second, and Sign and Overflow whether its
signed reading is. An operation on operands that are there is always carried out, so all numbers of
the same length can be calculated with. Bits of the operands above the width do not count. -/
theorem limb_arithmetic (w : Width) :
    (∀ {as bs cs : List UInt16} {m m' : Machine σ}, Chain w .add .adc m as bs cs m' →
      let k := w.bits * as.length
      let flags := m'.registers.flags
      bs.length = as.length ∧ cs.length = as.length ∧ (∀ c ∈ cs, c.toNat < w.modulus) ∧
      w.number cs = (w.number as + w.number bs) % 2 ^ k ∧
      (flags.carry = true ↔ 2 ^ k ≤ w.number as + w.number bs) ∧
      (flags.overflow = true ↔
        ¬ (-(2 : Int) ^ (k - 1) ≤ w.signedNumber as + w.signedNumber bs ∧
        w.signedNumber as + w.signedNumber bs < 2 ^ (k - 1))) ∧
      flags.sign = (w.number cs).testBit (k - 1)) ∧
    (∀ {as bs cs : List UInt16} {m m' : Machine σ}, Chain w .sub .sbb m as bs cs m' →
      let k := w.bits * as.length
      let flags := m'.registers.flags
      bs.length = as.length ∧ cs.length = as.length ∧ (∀ c ∈ cs, c.toNat < w.modulus) ∧
      (w.number cs : Int) = ((w.number as : Int) - w.number bs) % 2 ^ k ∧
      (flags.carry = true ↔ w.number as < w.number bs) ∧
      ((flags.sign != flags.overflow) = true ↔ w.signedNumber as < w.signedNumber bs)) ∧
    (∀ {board : Board σ} {i : Instruction} {op : ArithOp} {dst src : Operand} {m : Machine σ}
      {a b : UInt16},
      i.operation = .arith op dst src → op ≠ .cmp → dst.isPlace = true → dst.width = w →
      read i dst m = .ok a m → read i src m = .ok b m →
      ∃ m', execute board i m = .ok () m' ∧
        m'.registers.flags = (op.result m.registers.flags w a b).flags ∧
        read i dst m' = .ok (op.result m.registers.flags w a b).value m') ∧
    (∀ (_ : Machine σ) {as bs : List UInt16}, as ≠ [] → bs.length = as.length →
      (∀ a ∈ as, a.toNat < w.modulus) →
      (∀ b ∈ bs, b.toNat < w.modulus) →
      (∃ (m₁ : Machine σ) (cs : List UInt16) (m' : Machine σ),
          Chain w .add .adc m₁ as bs cs m') ∧
        ∃ (m₁ : Machine σ) (cs : List UInt16) (m' : Machine σ),
          Chain w .sub .sbb m₁ as bs cs m') ∧
    ∀ (op : ArithOp) (f : Flags) {a b a' b' : UInt16}, w.trunc a' = w.trunc a →
      w.trunc b' = w.trunc b →
      op.result f w a' b' = op.result f w a b := by
  refine ⟨fun chain => ?_, fun chain => ?_, fun asked stores place width left right => ?_,
    fun m _ _ some same narrowA narrowB => ?_, fun op f _ _ _ _ left right => ?_⟩
  · obtain ⟨lengthB, lengthC, narrow, sign, sum⟩ := chain.leaves (.inl ⟨rfl, rfl⟩)
    obtain ⟨n, width, half, boundA, boundB, boundC⟩ := chain.bounds lengthB lengthC
    rw [w.signedNumber_eq width, w.signedNumber_eq (lengthB.symm ▸ width)]
    simp only [width, Nat.add_sub_cancel, half] at sum sign ⊢
    refine ⟨lengthB, lengthC, narrow, sum.value_eq boundC, sum.carry_iff boundC, ?_, ?_⟩
    · rw [sum.overflow_iff boundA boundB boundC]
      push_cast
      rfl
    · rw [sign, testBit_top (half ▸ boundC)]
      exact decide_eq_decide.2 (Nat.mul_le_mul_left_iff (by decide))
  · obtain ⟨lengthB, lengthC, narrow, sign, sum⟩ := chain.leaves (.inr ⟨rfl, rfl⟩)
    obtain ⟨n, width, half, boundA, boundB, boundC⟩ := chain.bounds lengthB lengthC
    rw [w.signedNumber_eq width, w.signedNumber_eq (lengthB.symm ▸ width)]
    simp only [width, half] at sum sign ⊢
    refine ⟨lengthB, lengthC, narrow, ?_, sum.less_iff boundC, ?_⟩
    · have difference := sum.difference_eq boundC
      have cast : ((2 * 2 ^ n : Nat) : Int) = 2 ^ (n + 1) := by exact_mod_cast half.symm
      rwa [cast] at difference
    · rw [sign]
      exact sum.signed_less_iff boundA boundB boundC
  · subst width
    exact exists_arith _ asked stores place left right
  · exact ⟨exists_chain m (by decide) some same narrowA narrowB,
      exists_chain m (by decide) some same narrowA narrowB⟩
  · cases op with
    | add | adc => exact Alu.add_congr left right f _
    | sub | sbb | cmp => exact Alu.sub_congr left right f _

def onLow (op : ArithOp) : Instruction :=
  ⟨0, 2, .arith op (.register (.byte .al)) (.register (.byte .bl))⟩

def onHigh (op : ArithOp) : Instruction :=
  ⟨2, 2, .arith op (.register (.byte .ah)) (.register (.byte .bh))⟩

/-- The machine after one of them. -/
def executed (i : Instruction) (m : Machine Unit) : Machine Unit :=
  match execute .bare i m with
  | .ok _ m' => m'
  | .error _ m' => m'

/-- The largest signed word and one. -/
def largestAndOne : Machine Unit := ⟨{ ax := 0x7fff, bx := 1 }, .fresh, ()⟩

def wordSum : Machine Unit := executed (onHigh .adc) (executed (onLow .add) largestAndOne)

def wordDifference : Machine Unit := executed (onHigh .sbb) (executed (onLow .sub) wordSum)

/-- One more than the largest signed word is the smallest one, and that is less than one. -/
theorem bytes_make_a_word :
    (Chain .byte .add .adc largestAndOne [0xff, 0x7f] [1, 0] [0, 0x80] wordSum ∧
      wordSum.registers.flags.overflow = true ∧ ¬ wordSum.registers.flags.carry = true ∧
      wordSum.registers.flags.sign = true) ∧
    (Chain .byte .sub .sbb wordSum [0, 0x80] [1, 0] [0xff, 0x7f] wordDifference ∧
      ¬ wordDifference.registers.flags.carry = true ∧
      (wordDifference.registers.flags.sign != wordDifference.registers.flags.overflow) = true) ∧
    (∃ m', execute .bare (onLow .add) largestAndOne = .ok () m') ∧
    (∃ (m₁ : Machine Unit) (cs : List UInt16) (m' : Machine Unit),
      Chain .byte .sub .sbb m₁ [1, 2, 3] [4, 5, 6] cs m') ∧
    ∀ f, ArithOp.adc.result f .byte 0x12ff 0x3401 = ArithOp.adc.result f .byte 0xff 1 := by
  obtain ⟨adds, subtracts, runs, all, garbage⟩ := @limb_arithmetic Unit .byte
  have lowSum : Limb .byte .add largestAndOne 0xff 1 0 (executed (onLow .add) largestAndOne) :=
    .mk .bare (onLow .add) rfl rfl rfl rfl rfl rfl rfl
  have highSum : Limb .byte .adc (executed (onLow .add) largestAndOne) 0x7f 0 0x80 wordSum :=
    .mk .bare (onHigh .adc) rfl rfl rfl rfl rfl rfl rfl
  have lowDifference : Limb .byte .sub wordSum 0 1 0xff (executed (onLow .sub) wordSum) :=
    .mk .bare (onLow .sub) rfl rfl rfl rfl rfl rfl rfl
  have highDifference :
      Limb .byte .sbb (executed (onLow .sub) wordSum) 0x80 0 0x7f wordDifference :=
    .mk .bare (onHigh .sbb) rfl rfl rfl rfl rfl rfl rfl
  have added : Chain .byte .add .adc largestAndOne [0xff, 0x7f] [1, 0] [0, 0x80] wordSum :=
    .next (.first lowSum) rfl highSum
  have subtracted : Chain .byte .sub .sbb wordSum [0, 0x80] [1, 0] [0xff, 0x7f] wordDifference :=
    .next (.first lowDifference) rfl highDifference
  obtain ⟨-, -, -, -, carry, overflow, sign⟩ := adds added
  obtain ⟨-, -, -, -, borrow, less⟩ := subtracts subtracted
  obtain ⟨m', ran, -, -⟩ :=
    @runs .bare (onLow .add) _ _ _ largestAndOne _ _ rfl (by decide) rfl rfl rfl rfl
  refine ⟨⟨added, overflow.2 (by decide), fun set => absurd (carry.1 set) (by decide),
    sign.trans (by decide)⟩,
    ⟨subtracted, fun set => absurd (borrow.1 set) (by decide), less.2 (by decide)⟩,
    ⟨m', ran⟩, ?_, fun f => ?_⟩
  · exact (@all largestAndOne [1, 2, 3] [4, 5, 6] (by decide) rfl
      (by simp [Width.modulus, Width.bits])
      (by simp [Width.modulus, Width.bits])).2
  · exact garbage .adc f rfl rfl

end Processor

end RealMode
