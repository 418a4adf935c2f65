import RealMode.Proofs.LimbArithmetic
import RealMode.Proofs.StringElements

/-!
# Conditional jumps decide comparisons

A comparison subtracts and keeps the flags alone. Each of the sixteen conditions reads a relation
between the two operands off them: their order as unsigned numbers, their order as signed ones, or
what their difference looks like. After a logic instruction the operands are its result and zero.
-/

namespace RealMode

namespace Width

variable {w : Width} {a b : UInt16}

theorem signed_eq (w : Width) (a : UInt16) : w.signed a = signedReading w.signBit (w.trunc a) := by
  rw [signed, signedReading, modulus_eq_double]
  push_cast
  rfl

theorem signed_inj : w.signed a = w.signed b ↔ w.trunc a = w.trunc b := by
  have boundA := w.trunc_lt a
  have boundB := w.trunc_lt b
  rw [modulus_eq_double] at boundA boundB
  rw [signed_eq, signed_eq, signedReading, signedReading]
  constructor
  · intro same
    split_ifs at same <;> omega
  · intro same
    rw [same]

end Width

/-- Overflow of a difference tells that the difference of the signed readings is out of range. -/
theorem Sum.difference_overflow_iff {H A B C : Nat} {f : Flags} (sum : Sum (2 * H) C B 0 A f)
    (boundA : A < 2 * H) (boundB : B < 2 * H) (boundC : C < 2 * H) :
    f.overflow = true ↔
      ¬ (-(H : Int) ≤ signedReading H A - signedReading H B ∧
        signedReading H A - signedReading H B < H) := by
  have number := sum.wraps
  rw [sum.overflow, signedReading, signedReading]
  simp only [Bool.and_eq_true, beq_iff_eq, bne_iff_ne, decide_eq_decide, ne_eq]
  split_ifs <;> omega

/-- What the flags say about two operands that have been compared. -/
structure Compared (w : Width) (a b : UInt16) (f : Flags) : Prop where
  carry : f.carry = true ↔ w.trunc a < w.trunc b
  zero : f.zero = true ↔ w.trunc a = w.trunc b
  sign : f.sign = (a - b).toNat.testBit (w.bits - 1)
  overflow : f.overflow = true ↔ ¬ w.InRange (w.signed a - w.signed b)
  parity : f.parity = true ↔ Even ((List.range 8).countP (a - b).toNat.testBit)
  less : (f.sign != f.overflow) = true ↔ w.signed a < w.signed b

namespace Alu

variable {f : Flags} {w : Width} {a b : UInt16}

theorem toNat_sub_eq (f : Flags) (w : Width) (a b : UInt16) :
    (sub f w a b false).value.toNat = w.trunc (a - b) := by
  have boundA := a.toNat_lt
  have boundB := b.toNat_lt
  rw [toNat_sub, Width.trunc, Width.trunc, Width.trunc, UInt16.toNat_sub]
  cases w <;>
    simp only [Width.modulus, Width.bits, Bool.toNat_false, Nat.reduceShiftLeft, Nat.reducePow] <;>
      omega

/-- The low byte and the sign of a word do not depend on what is above its width. -/
theorem testBit_trunc (w : Width) (v : UInt16) {i : Nat} (inside : i < w.bits) :
    (w.trunc v).testBit i = v.toNat.testBit i := by
  rw [Width.trunc, w.modulus_eq, Nat.testBit_mod_two_pow]
  simp [inside]

theorem evenParity_trunc (w : Width) (v : UInt16) :
    evenParity (w.trunc v) = true ↔ Even ((List.range 8).countP v.toNat.testBit) := by
  have byte : 8 ≤ w.bits := by cases w <;> decide
  have same : (List.range 8).countP (w.trunc v).testBit =
      (List.range 8).countP v.toNat.testBit := by
    apply List.countP_congr
    intro i inside
    have low := List.mem_range.1 inside
    rw [testBit_trunc w v (by omega)]
  rw [evenParity, ← List.countP_eq_length_filter, same, beq_iff_eq, Nat.even_iff]

theorem compared_sub (f : Flags) (w : Width) (a b : UInt16) :
    Compared w a b (sub f w a b false).flags := by
  let r := sub f w a b false
  have value : r.value.toNat = w.trunc (a - b) := toNat_sub_eq f w a b
  have below : r.value.toNat < w.modulus := value ▸ w.trunc_lt (a - b)
  have boundA := w.trunc_lt a
  have boundB := w.trunc_lt b
  obtain ⟨sum, sign⟩ : Sum w.modulus r.value.toNat (w.trunc b) 0 (w.trunc a) r.flags ∧ _ :=
    sum_sub f w a b false
  have parity : r.flags.parity = evenParity (w.trunc (a - b)) := by
    rw [← value, toNat_sub]
    rfl
  have zero : r.flags.zero = (r.value.toNat == 0) := by
    rw [toNat_sub]
    change ((_ % w.modulus) % w.modulus == 0) = _
    rw [Nat.mod_mod]
  constructor
  case carry => exact sum.less_iff below
  case zero =>
    rw [zero, beq_iff_eq]
    have number := sum.number
    cases carry : r.flags.carry with
    | false =>
      rw [carry, Bool.toNat_false] at number
      omega
    | true =>
      rw [carry, Bool.toNat_true] at number
      omega
  case sign =>
    have top : w.bits - 1 < w.bits := by
      have some := w.bits_pos
      omega
    rw [sign, ← w.isNegative_eq below, w.isNegative_eq_testBit below, value,
      testBit_trunc w _ top]
  case overflow =>
    rw [w.modulus_eq_double] at sum boundA boundB below
    rw [Width.inRange_iff, w.signed_eq, w.signed_eq]
    exact sum.difference_overflow_iff boundA boundB below
  case parity => rw [parity, evenParity_trunc]
  case less =>
    rw [w.modulus_eq_double] at sum boundA boundB below
    rw [sign, w.modulus_eq_double, w.signed_eq, w.signed_eq]
    exact sum.signed_less_iff boundA boundB below

end Alu

namespace Condition

/-- What a jump on the condition asks of two operands that have been compared. -/
def Relates (w : Width) (a b : UInt16) : Condition → Prop
  | overflow => ¬ w.InRange (w.signed a - w.signed b)
  | noOverflow => w.InRange (w.signed a - w.signed b)
  | below => w.trunc a < w.trunc b
  | aboveEqual => w.trunc b ≤ w.trunc a
  | equal => w.trunc a = w.trunc b
  | notEqual => w.trunc a ≠ w.trunc b
  | belowEqual => w.trunc a ≤ w.trunc b
  | above => w.trunc b < w.trunc a
  | sign => (a - b).toNat.testBit (w.bits - 1) = true
  | noSign => (a - b).toNat.testBit (w.bits - 1) = false
  | parity => Even ((List.range 8).countP (a - b).toNat.testBit)
  | noParity => ¬ Even ((List.range 8).countP (a - b).toNat.testBit)
  | less => w.signed a < w.signed b
  | greaterEqual => w.signed b ≤ w.signed a
  | lessEqual => w.signed a ≤ w.signed b
  | greater => w.signed b < w.signed a

end Condition

theorem not_eq_true_iff {p : Bool} {P : Prop} (tells : p = true ↔ P) : (!p) = true ↔ ¬ P := by
  rw [Bool.not_eq_true', ← Bool.not_eq_true, tells]

theorem Compared.holds_iff {w : Width} {a b : UInt16} {f : Flags} (compared : Compared w a b f)
    (c : Condition) :
    c.holds f = true ↔ c.Relates w a b := by
  have carry := compared.carry
  have zero := compared.zero
  have less := compared.less
  have same : f.zero = true ↔ w.signed a = w.signed b := zero.trans Width.signed_inj.symm
  have notLess : (f.sign == f.overflow) = true ↔ ¬ w.signed a < w.signed b := by
    rw [← less]
    cases f.sign <;> cases f.overflow <;> simp
  cases c with
  | overflow => exact compared.overflow
  | noOverflow => exact (not_eq_true_iff compared.overflow).trans not_not
  | below => exact carry
  | aboveEqual => exact (not_eq_true_iff carry).trans Nat.not_lt
  | equal => exact zero
  | notEqual => exact not_eq_true_iff zero
  | belowEqual =>
    rw [Condition.holds, Condition.Relates, Bool.or_eq_true, carry, zero]
    omega
  | above =>
    rw [Condition.holds, Condition.Relates, Bool.and_eq_true, not_eq_true_iff carry,
      not_eq_true_iff zero]
    omega
  | sign => rw [Condition.holds, Condition.Relates, compared.sign]
  | noSign => rw [Condition.holds, Condition.Relates, compared.sign, Bool.not_eq_true']
  | parity => exact compared.parity
  | noParity => exact not_eq_true_iff compared.parity
  | less => exact less
  | greaterEqual => exact notLess.trans Int.not_lt
  | lessEqual =>
    rw [Condition.holds, Condition.Relates, Bool.or_eq_true, same, less]
    omega
  | greater =>
    rw [Condition.holds, Condition.Relates, Bool.and_eq_true, not_eq_true_iff same, notLess]
    omega

namespace LogicOp

/-- The result of a logic instruction, bit by bit. -/
def combine (op : LogicOp) (a b : UInt16) : UInt16 :=
  match op with
  | and => a &&& b
  | or => a ||| b
  | xor => a ^^^ b
  | test => a &&& b

end LogicOp

/-- The flags of a result are those of comparing it with zero, as far as the order is concerned. -/
theorem Alu.logic_tells (f : Flags) (w : Width) (v : UInt16) :
    let flags := (Alu.logic f w v).flags
    flags.carry = false ∧ ((flags.sign != flags.overflow) = true ↔ w.signed v < 0) ∧
      ((!flags.zero && flags.sign == flags.overflow) = true ↔ 0 < w.signed v) := by
  have below := w.trunc_lt v
  have sign : (Alu.logic f w v).flags.sign = decide (w.signBit ≤ w.trunc v) := by
    change w.isNegative (w.trunc v) = _
    rw [Width.isNegative, Nat.mod_eq_of_lt below]
  have zero : (Alu.logic f w v).flags.zero = (w.trunc v == 0) := by
    change (w.trunc v % w.modulus == 0) = _
    rw [Nat.mod_eq_of_lt below]
  have overflow : (Alu.logic f w v).flags.overflow = false := rfl
  rw [w.modulus_eq_double] at below
  intro flags
  refine ⟨rfl, ?_, ?_⟩
  · rw [sign, overflow, Width.signed, w.modulus_eq_double]
    by_cases negative : w.signBit ≤ w.trunc v
    · simp [negative]
      omega
    · simp [negative]
  · rw [sign, zero, overflow, Width.signed, w.modulus_eq_double]
    by_cases negative : w.signBit ≤ w.trunc v
    · simp [negative]
      omega
    · simp [negative, Nat.pos_iff_ne_zero]

namespace Processor

open Exec

variable {σ : Type} {m : Machine σ} {w : Width} {a b : UInt16} {i : Instruction}
  {dst src : Operand} {x : Exec σ Unit}

/-- What compares `a` with `b` in the machine `m`: CMP and SUB, and one element of CMPS or SCAS. -/
inductive Compares (w : Width) (m : Machine σ) (a b : UInt16) : Exec σ Unit → Prop
  | cmp (board : Board σ) {i : Instruction} {dst src : Operand} :
  i.operation = .arith .cmp dst src → dst.width = w →
      read i dst m = .ok a m → read i src m = .ok b m → Compares w m a b (execute board i)
  | sub (board : Board σ) {i : Instruction} {dst src : Operand} :
      i.operation = .arith .sub dst src → dst.width = w →
      dst.isPlace = true → read i dst m = .ok a m → read i src m = .ok b m →
      Compares w m a b (execute board i)
  | cmps (segment : UInt16) : readCell ⟨segment, m.registers.si⟩ w m = .ok a m →
      readCell ⟨m.registers.es, m.registers.di⟩ w m = .ok b m →
      Compares w m a b (stringElement .cmps w segment)
  | scas (segment : UInt16) : m.registers.accumulator w = a →
      readCell ⟨m.registers.es, m.registers.di⟩ w m = .ok b m →
      Compares w m a b (stringElement .scas w segment)

theorem Compares.exists_compared (compares : Compares w m a b x) :
    ∃ m', x m = .ok () m' ∧ Compared w a b m'.registers.flags := by
  have flags := Alu.compared_sub m.registers.flags w a b
  cases compares with
  | cmp board asked width left right =>
    subst width
    refine ⟨{ m with registers := { m.registers with flags := _ } }, ?_, flags⟩
    rw [execute, asked]
    dsimp only
    rw [arith, bind_of_ok left, bind_of_ok right]
    rfl
  | sub board asked width place left right =>
    subst width
    obtain ⟨m', ran, left, -⟩ := exists_arith board asked (by decide) place left right
    exact ⟨m', ran, left ▸ flags⟩
  | cmps segment left right => exact ⟨_, stringElement_cmps left right, flags⟩
  | scas segment left right =>
    subst left
    exact ⟨_, stringElement_scas right segment, flags⟩

/-- A logic instruction leaves the flags of its result. -/
theorem exists_logic {op : LogicOp} (board : Board σ) (asked : i.operation = .logic op dst src)
    (place : op = .test ∨ dst.isPlace = true) (left : read i dst m = .ok a m)
    (right : read i src m = .ok b m) :
    ∃ m', execute board i m = .ok () m' ∧
      m'.registers.flags = (Alu.logic m.registers.flags dst.width (op.combine a b)).flags := by
  let r := Alu.logic m.registers.flags dst.width (op.combine a b)
  have computed : execute board i m =
      (setFlags r.flags >>= fun _ => if op = .test then pure () else write i dst r.value) m := by
    rw [execute, asked]
    dsimp only
    rw [logic, bind_of_ok left, bind_of_ok right, bind_of_ok (registers_eq_ok m)]
    cases op <;> rfl
  rw [computed]
  by_cases test : op = .test
  · rw [if_pos test]
    exact ⟨_, rfl, rfl⟩
  · obtain ⟨m', settled, flags, -⟩ :=
      exists_settle (place.resolve_left test) left r.flags r.value
    rw [if_neg test]
    exact ⟨m', settled, flags⟩

/-- With the flags of this machine, a jump on the condition is taken exactly if `taken`. -/
def JumpsIf (flagged : Machine σ) (c : Condition) (taken : Prop) : Prop :=
  ∀ (board : Board σ) {i : Instruction} {m : Machine σ} {distance : UInt16},
    i.operation = .jump c distance →
    m.registers.flags = flagged.registers.flags →
    (taken →
      execute board i m =
        .ok () { m with registers := { m.registers with ip := m.registers.ip + distance } }) ∧
    (¬ taken → execute board i m = .ok () m)

theorem jumpsIf_of_holds {flagged : Machine σ} {c : Condition} {taken : Prop}
    (tells : c.holds flagged.registers.flags = true ↔ taken) : JumpsIf flagged c taken := by
  intro board i m distance asked flags
  have decided : execute board i m =
      (if c.holds m.registers.flags then goBy distance else pure ()) m := by
    rw [execute, asked]
    dsimp only
    rw [bind_of_ok (registers_eq_ok m)]
  rw [decided, flags]
  constructor
  · intro yes
    rw [if_pos (tells.2 yes)]
    rfl
  · intro no
    rw [if_neg fun holds => no (tells.1 holds)]
    rfl

/-- After a comparison, jumps on the sixteen conditions are taken exactly if the two operands are
related as the condition says, whatever the flags were before and whatever is above their width.
After a logic instruction its result takes the place of the first operand, and zero that of the
second one: the result is never below zero. -/
theorem jumps_decide_comparisons (w : Width) (m : Machine σ) :
    (∀ {a b : UInt16} {x : Exec σ Unit}, Compares w m a b x →
      ∃ m', x m = .ok () m' ∧ ∀ c : Condition, JumpsIf m' c (c.Relates w a b)) ∧
    ∀ (board : Board σ) {i : Instruction} {op : LogicOp} {dst src : Operand} {a b : UInt16},
      i.operation = .logic op dst src → op = .test ∨ dst.isPlace = true → dst.width = w →
      read i dst m = .ok a m → read i src m = .ok b m →
      ∃ m', execute board i m = .ok () m' ∧ JumpsIf m' .less (w.signed (op.combine a b) < 0) ∧
        JumpsIf m' .greater (0 < w.signed (op.combine a b)) ∧ JumpsIf m' .below False := by
  constructor
  · intro a b x compares
    obtain ⟨m', ran, compared⟩ := compares.exists_compared
    exact ⟨m', ran, fun c => jumpsIf_of_holds (compared.holds_iff c)⟩
  · intro board i op dst src a b asked place width left right
    subst width
    obtain ⟨m', ran, flags⟩ := exists_logic board asked place left right
    obtain ⟨carry, less, greater⟩ :=
      Alu.logic_tells m.registers.flags dst.width (op.combine a b)
    rw [← flags] at carry less greater
    refine ⟨m', ran, jumpsIf_of_holds less, jumpsIf_of_holds greater, jumpsIf_of_holds ?_⟩
    rw [Condition.holds, carry]
    exact iff_of_false Bool.false_ne_true id

/-- CMP AL, 1, with a constant that has more bits than it should. -/
def compareByte : Instruction :=
  ⟨0, 2, .arith .cmp (.register (.byte .al)) (.immediate .byte 0x3401)⟩

/-- TEST AL, AL -/
def testByte : Instruction :=
  ⟨0, 2, .logic .test (.register (.byte .al)) (.register (.byte .al))⟩

/-- JL and JB, five bytes ahead. -/
def jumpFive (c : Condition) : Instruction := ⟨2, 2, .jump c 5⟩

/-- The least byte, with Sign and Overflow set before. -/
def leastByte : Machine Unit :=
  ⟨{ ax := 0x1280, flags := { sign := true, overflow := true } }, .fresh, ()⟩

/-- As a signed number the least byte is less than one, and as an unsigned one it is not. -/
theorem least_byte_is_less :
    (∃ m', execute .bare compareByte leastByte = .ok () m' ∧
      execute .bare (jumpFive .less) m' =
        .ok () { m' with registers := { m'.registers with ip := m'.registers.ip + 5 } } ∧
      execute .bare (jumpFive .below) m' = .ok () m') ∧
    ∃ m', execute .bare testByte leastByte = .ok () m' ∧
      execute .bare (jumpFive .less) m' =
        .ok () { m' with registers := { m'.registers with ip := m'.registers.ip + 5 } } := by
  obtain ⟨compare, logic⟩ := jumps_decide_comparisons .byte leastByte
  have left : read compareByte (.register (.byte .al)) leastByte = .ok 0x80 leastByte := rfl
  have right : read compareByte (.immediate .byte 0x3401) leastByte = .ok 0x3401 leastByte := rfl
  have tested : read testByte (.register (.byte .al)) leastByte = .ok 0x80 leastByte := rfl
  obtain ⟨m₁, compared, jumps⟩ := compare (.cmp .bare rfl rfl left right)
  obtain ⟨m₂, ran, less, -, -⟩ := logic .bare rfl (.inl rfl) rfl tested tested
  have signed : Condition.Relates .byte 0x80 0x3401 .less := by
    simp only [Condition.Relates]
    decide
  have unsigned : ¬ Condition.Relates .byte 0x80 0x3401 .below := by
    simp only [Condition.Relates]
    decide
  refine ⟨⟨m₁, compared, ?_, ?_⟩, m₂, ran, ?_⟩
  · exact (jumps .less .bare rfl rfl).1 signed
  · exact (jumps .below .bare rfl rfl).2 unsigned
  · exact (less .bare rfl rfl).1 (by decide)

end Processor

end RealMode
