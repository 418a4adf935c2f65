import Mathlib.Logic.Function.Iterate
import RealMode.Proofs.Places
import RealMode.Proofs.Widths

/-!
# Shifts add up

Shifting by one count and then by another is shifting by both at once, so every count is that
many single steps. A rotation turns a ring of bits: that of the operand, or one with Carry as a
further bit. Where two turns differ by whole rounds the rings are the same. Shifts that fill up
are compared bit by bit.
-/

namespace RealMode

/-- A ring of `k` bits that shows `n` shows `n'` when it has been turned left by `t` places. -/
structure Turned (k t n n' : Nat) : Prop where
  bound : n' < 2 ^ k
  bits : ∀ i < k, n'.testBit ((i + t) % k) = n.testBit i

namespace Turned

variable {k s t n a b j : Nat}

theorem refl (below : n < 2 ^ k) : Turned k 0 n n where
  bound := below
  bits := by
    intro i inside
    rw [Nat.add_zero, Nat.mod_eq_of_lt inside]

theorem trans (first : Turned k s n a) (second : Turned k t a b) : Turned k (s + t) n b where
  bound := second.bound
  bits := by
    intro i inside
    have next := second.bits ((i + s) % k) (Nat.mod_lt _ (by omega))
    rwa [Nat.mod_add_mod, first.bits i inside, Nat.add_assoc] at next

/-- Some place is turned to the place `j`. -/
theorem exists_place (s : Nat) (inside : j < k) : ∃ i < k, (i + s) % k = j := by
  have rest : s % k < k := Nat.mod_lt _ (by omega)
  have rounds : k * (s / k) + s % k = s := Nat.div_add_mod s k
  have around : j + (k - s % k) + s = j + k * (s / k + 1) := by
    rw [Nat.mul_add, Nat.mul_one]
    omega
  refine ⟨(j + (k - s % k)) % k, Nat.mod_lt _ (by omega), ?_⟩
  rw [Nat.mod_add_mod, around, Nat.add_mul_mod_self_left, Nat.mod_eq_of_lt inside]

/-- Whole rounds do not matter. -/
theorem eq (first : Turned k s n a) (second : Turned k t n b) (same : s % k = t % k) : a = b := by
  apply Nat.eq_of_testBit_eq
  intro j
  by_cases inside : j < k
  · obtain ⟨i, low, rfl⟩ := exists_place s inside
    have place : (i + s) % k = (i + t) % k := by rw [Nat.add_mod, same, ← Nat.add_mod]
    rw [first.bits i low, place, second.bits i low]
  · have large : 2 ^ k ≤ 2 ^ j := Nat.pow_le_pow_right (by decide) (by omega)
    rw [Nat.testBit_lt_two_pow (Nat.lt_of_lt_of_le first.bound large),
      Nat.testBit_lt_two_pow (Nat.lt_of_lt_of_le second.bound large)]

/-- What is pushed out at one end comes in at the other. -/
theorem of_shifts (below : n < 2 ^ k) (within : t ≤ k) :
    Turned k t n ((n <<< t + n >>> (k - t)) % 2 ^ k) where
  bound := Nat.mod_lt _ (Nat.two_pow_pos k)
  bits := by
    intro i inside
    have short : n >>> (k - t) < 2 ^ t := by
      rw [Nat.shiftRight_eq_div_pow, Nat.div_lt_iff_lt_mul (Nat.two_pow_pos _), ← Nat.pow_add]
      rwa [Nat.add_sub_cancel' within]
    rw [Nat.shiftLeft_add_eq_or_of_lt short, Nat.testBit_mod_two_pow, Nat.testBit_or,
      Nat.testBit_shiftLeft, Nat.testBit_shiftRight]
    by_cases stays : i + t < k
    · have beyond : n.testBit (k - t + (i + t)) = false := by
        apply Nat.testBit_lt_two_pow
        exact Nat.lt_of_lt_of_le below (Nat.pow_le_pow_right (by decide) (by omega))
      rw [Nat.mod_eq_of_lt stays, beyond]
      simp [stays]
    · have place : (i + t) % k = i + t - k := by
        rw [Nat.mod_eq_sub_mod (by omega), Nat.mod_eq_of_lt (by omega)]
      have back : k - t + (i + t - k) = i := by omega
      have low : i + t - k < k := by omega
      have pushed : ¬ t ≤ i + t - k := by omega
      rw [place, back]
      simp [low, pushed]

end Turned

namespace Alu

/-- The same value, and the same flags but for Overflow. -/
structure Result.Agrees (r s : Result) : Prop where
  value : r.value = s.value
  flags : { r.flags with overflow := s.flags.overflow } = s.flags

namespace Result.Agrees

variable {r s t : Result}

theorem refl (r : Result) : r.Agrees r := ⟨rfl, rfl⟩

theorem trans (first : r.Agrees s) (second : s.Agrees t) : r.Agrees t where
  value := first.value.trans second.value
  flags := by rw [← second.flags, ← first.flags]

theorem carry (agrees : r.Agrees s) : r.flags.carry = s.flags.carry := by rw [← agrees.flags]

end Result.Agrees

namespace Shift

variable {w : Width} {n a b : Nat} (f : Flags)

section Filling

/-- Two values that leave the same Carry in the end agree, whatever Overflow is. -/
theorem agrees_withResult (w : Width) {r r' r₁ : Nat} {c c' c₁ : Bool} (o o' o₁ : Bool)
    (value : r = r') (carry : c = c') :
    Result.Agrees ⟨UInt16.ofNat r, withResult { f with carry := c, overflow := o } w r⟩
      ⟨UInt16.ofNat r', withResult
        { withResult { f with carry := c₁, overflow := o₁ } w r₁ with
          carry := c', overflow := o' } w r'⟩ := by
  subst value carry
  exact ⟨rfl, rfl⟩

theorem agrees_shl (n : Nat) (some : 0 < b) :
    (shl f w n (a + b)).Agrees (shl (shl f w n a).flags w (n <<< a % w.modulus) b) := by
  have value : n <<< (a + b) % w.modulus = (n <<< a % w.modulus) <<< b % w.modulus := by
    rw [Nat.shiftLeft_add, Nat.shiftLeft_eq _ b, Nat.shiftLeft_eq _ b, Nat.mod_mul_mod]
  have carry : (decide (a + b ≤ w.bits) && n.testBit (w.bits - (a + b))) =
      (decide (b ≤ w.bits) && (n <<< a % w.modulus).testBit (w.bits - b)) := by
    rw [w.modulus_eq, Nat.testBit_mod_two_pow, Nat.testBit_shiftLeft]
    by_cases inside : a + b ≤ w.bits
    · have place : w.bits - b - a = w.bits - (a + b) := by omega
      have bounds : b ≤ w.bits ∧ w.bits - b < w.bits ∧ a ≤ w.bits - b := by omega
      simp [bounds, inside, place]
    · have out : b ≤ w.bits → ¬ a ≤ w.bits - b := by omega
      by_cases near : b ≤ w.bits <;> simp [inside, near, out]
  exact agrees_withResult f w _ _ _ value carry

theorem agrees_shr (n : Nat) (some : 0 < b) :
    (shr f w n (a + b)).Agrees (shr (shr f w n a).flags w (n >>> a) b) := by
  have value : n >>> (a + b) = n >>> a >>> b := Nat.shiftRight_add n a b
  have carry : n.testBit (a + b - 1) = (n >>> a).testBit (b - 1) := by
    rw [Nat.testBit_shiftRight]
    congr 1
    omega
  exact agrees_withResult f w _ _ _ value carry

/-- `n` shifted right by `k` places, which its sign fills. -/
def filled (w : Width) (n k : Nat) : Nat :=
  if w.isNegative n then ((n + w.mask * w.modulus) >>> k) % w.modulus else n >>> k

theorem filled_lt (below : n < w.modulus) (k : Nat) : filled w n k < w.modulus := by
  rw [filled]
  split
  · exact Nat.mod_lt _ w.modulus_bounds.2.1
  · exact Nat.lt_of_le_of_lt (Nat.shiftRight_le n k) below

theorem testBit_filled (below : n < w.modulus) {k j : Nat} (short : k ≤ w.bits)
    (inside : j < w.bits) :
    (filled w n k).testBit j = if j + k < w.bits then n.testBit (j + k)
      else n.testBit (w.bits - 1) := by
  have bound : n < 2 ^ w.bits := w.modulus_eq ▸ below
  rw [filled, ← w.isNegative_eq_testBit below]
  cases sign : w.isNegative n with
  | true =>
    have doubled : n + w.mask * w.modulus = w.mask <<< w.bits ||| n := by
      rw [← Nat.shiftLeft_add_eq_or_of_lt bound, Nat.shiftLeft_eq, ← w.modulus_eq, Nat.add_comm]
    have mask : w.mask = 2 ^ w.bits - 1 := by rw [Width.mask, w.modulus_eq]
    rw [if_pos rfl, doubled, w.modulus_eq, Nat.testBit_mod_two_pow, Nat.testBit_shiftRight,
      Nat.testBit_or, Nat.testBit_shiftLeft, mask, Nat.testBit_two_pow_sub_one, Nat.add_comm k j]
    by_cases low : j + k < w.bits
    · have before : ¬ w.bits ≤ j + k := by omega
      simp [inside, low, before]
    · have behind : w.bits ≤ j + k ∧ j + k - w.bits < w.bits := by omega
      simp [inside, low, behind]
  | false =>
    rw [if_neg Bool.false_ne_true, Nat.testBit_shiftRight, Nat.add_comm k j]
    by_cases low : j + k < w.bits
    · rw [if_pos low]
    · rw [if_neg low]
      exact Nat.testBit_lt_two_pow
        (Nat.lt_of_lt_of_le bound (Nat.pow_le_pow_right (by decide) (by omega)))

theorem filled_filled (below : n < w.modulus) (a b : Nat) :
    filled w (filled w n (min a w.bits)) (min b w.bits) = filled w n (min (a + b) w.bits) := by
  have between := filled_lt below (min a w.bits)
  have some := w.bits_pos
  apply Nat.eq_of_testBit_eq
  intro j
  by_cases inside : j < w.bits
  · rw [testBit_filled between (Nat.min_le_right _ _) inside,
      testBit_filled below (Nat.min_le_right _ _) inside]
    by_cases low : j + min b w.bits < w.bits
    · rw [if_pos low, testBit_filled below (Nat.min_le_right _ _) low]
      by_cases lower : j + (a + b) < w.bits
      · have place : j + min b w.bits + min a w.bits = j + min (a + b) w.bits := by omega
        rw [place]
      · rw [if_neg (by omega), if_neg (by omega)]
    · have past : ¬ j + min (a + b) w.bits < w.bits := by omega
      rw [if_neg low, if_neg past, testBit_filled below (Nat.min_le_right _ _) (by omega)]
      split
      · congr 1
        omega
      · rfl
  · have large : w.modulus ≤ 2 ^ j :=
      w.modulus_eq ▸ Nat.pow_le_pow_right (by decide) (by omega)
    rw [Nat.testBit_lt_two_pow (Nat.lt_of_lt_of_le (filled_lt between _) large),
      Nat.testBit_lt_two_pow (Nat.lt_of_lt_of_le (filled_lt below _) large)]

/-- The bit that falls out last. -/
theorem carry_sar (below : n < w.modulus) (c : Nat) :
    (filled w n (min (c - 1) (w.bits - 1)) % 2 == 1) = n.testBit (min (c - 1) (w.bits - 1)) := by
  have some := w.bits_pos
  have short : min (c - 1) (w.bits - 1) < w.bits := by omega
  have lowest := testBit_filled below (Nat.le_of_lt short) some
  rw [Nat.zero_add, if_pos short, Nat.testBit_zero] at lowest
  rw [← lowest]
  rfl

theorem agrees_sar (below : n < w.modulus) (first : 0 < a) (second : 0 < b) :
    (sar f w n (a + b)).Agrees (sar (sar f w n a).flags w (filled w n (min a w.bits)) b) := by
  have some := w.bits_pos
  have between := filled_lt below (min a w.bits)
  have carry : n.testBit (min (a + b - 1) (w.bits - 1)) =
      (filled w n (min a w.bits)).testBit (min (b - 1) (w.bits - 1)) := by
    rw [testBit_filled below (Nat.min_le_right _ _) (by omega)]
    split <;> congr 1 <;> omega
  rw [← carry_sar below, ← carry_sar between] at carry
  exact agrees_withResult f w _ _ _ (filled_filled below a b).symm carry

end Filling

section Turning

theorem agrees_turned {r r' : Nat} {c c' c₁ : Bool} (o o' o₁ : Bool) (value : r = r')
    (carry : c = c') : Result.Agrees ⟨UInt16.ofNat r, { f with carry := c, overflow := o }⟩
      ⟨UInt16.ofNat r',
        { { f with carry := c₁, overflow := o₁ } with carry := c', overflow := o' }⟩ := by
  subst value carry
  exact ⟨rfl, rfl⟩

/-- What ROL makes of `n`, where the count is below the width. -/
def leftward (w : Width) (n t : Nat) : Nat := (n <<< t + n >>> (w.bits - t)) % w.modulus

/-- What ROR makes of `n`. -/
def rightward (w : Width) (n t : Nat) : Nat := (n >>> t + n <<< (w.bits - t)) % w.modulus

theorem turned_leftward (below : n < w.modulus) (c : Nat) :
    Turned w.bits (c % w.bits) n (leftward w n (c % w.bits)) := by
  rw [w.modulus_eq] at below
  rw [leftward, w.modulus_eq]
  exact .of_shifts below (Nat.le_of_lt (Nat.mod_lt c w.bits_pos))

/-- Turning right is turning left by the rest of the round. -/
theorem turned_rightward (below : n < w.modulus) (c : Nat) :
    Turned w.bits (w.bits - c % w.bits) n (rightward w n (c % w.bits)) := by
  have less := Nat.mod_lt c w.bits_pos
  have back : w.bits - (w.bits - c % w.bits) = c % w.bits := by omega
  rw [w.modulus_eq] at below
  have turned := Turned.of_shifts below (Nat.sub_le w.bits (c % w.bits))
  rwa [back, Nat.add_comm, ← w.modulus_eq] at turned

theorem leftward_lt (w : Width) (n t : Nat) : leftward w n t < w.modulus :=
  Nat.mod_lt _ w.modulus_bounds.2.1

theorem rightward_lt (w : Width) (n t : Nat) : rightward w n t < w.modulus :=
  Nat.mod_lt _ w.modulus_bounds.2.1

theorem agrees_rol (below : n < w.modulus) :
    (rol f w n (a + b)).Agrees (rol (rol f w n a).flags w (leftward w n (a % w.bits)) b) := by
  have both := (turned_leftward below a).trans (turned_leftward (leftward_lt w n _) b)
  have value := (turned_leftward below (a + b)).eq both (by rw [Nat.mod_mod, Nat.add_mod])
  exact agrees_turned f _ _ _ value (congrArg (· % 2 == 1) value)

theorem agrees_ror (below : n < w.modulus) :
    (ror f w n (a + b)).Agrees (ror (ror f w n a).flags w (rightward w n (a % w.bits)) b) := by
  have both := (turned_rightward below a).trans (turned_rightward (rightward_lt w n _) b)
  have same : (w.bits - (a + b) % w.bits) % w.bits =
      (w.bits - a % w.bits + (w.bits - b % w.bits)) % w.bits := by
    cases w <;> simp only [Width.bits] <;> omega
  have value := (turned_rightward below (a + b)).eq both same
  exact agrees_turned f _ _ _ value (congrArg w.isNegative value)

namespace Ring

variable {r s : Ring} {step : Ring → Ring} {t : Nat}

/-- The value with Carry on top. -/
def number (w : Width) (r : Ring) : Nat := r.value + w.modulus * r.carry.toNat

theorem eq_of_number (boundR : r.value < w.modulus) (boundS : s.value < w.modulus)
    (same : r.number w = s.number w) : r = s := by
  obtain ⟨v, c⟩ := r
  obtain ⟨v', c'⟩ := s
  simp only [number] at boundR boundS same
  cases c <;> cases c' <;> simp only [Bool.toNat_false, Bool.toNat_true] at same <;> simp <;> omega

/-- A step stays within the width and turns the ring by `t`. -/
def Turns (w : Width) (step : Ring → Ring) (t : Nat) : Prop :=
  ∀ r, r.value < w.modulus →
    (step r).value < w.modulus ∧ Turned (w.bits + 1) t (r.number w) ((step r).number w)

theorem number_lt (bound : r.value < w.modulus) : r.number w < 2 ^ (w.bits + 1) := by
  have one := r.carry.toNat_le
  have room : w.modulus * r.carry.toNat ≤ w.modulus := by
    have scaled := Nat.mul_le_mul_left w.modulus one
    omega
  rw [number, Nat.pow_succ, ← w.modulus_eq]
  omega

theorem number_left (bound : r.value < w.modulus) :
    (left w r).number w = 2 * r.value + r.carry.toNat := by
  have one := r.carry.toNat_le
  have even := w.modulus_bounds.1
  simp only [number, left, w.isNegative_eq bound]
  by_cases large : w.modulus ≤ 2 * r.value
  · rw [decide_eq_true large, Bool.toNat_true, Nat.mod_eq_sub_mod (by omega),
      Nat.mod_eq_of_lt (by omega)]
    omega
  · rw [decide_eq_false large, Bool.toNat_false, Nat.mod_eq_of_lt (by omega)]
    omega

theorem turns_left (w : Width) : Turns w (left w) 1 := by
  intro r bound
  have one := r.carry.toNat_le
  have turned := Turned.of_shifts (number_lt bound) (show 1 ≤ w.bits + 1 by omega)
  have carried : r.number w / w.modulus = r.carry.toNat := by
    rw [number, Nat.add_mul_div_left _ _ w.modulus_bounds.2.1, Nat.div_eq_of_lt bound, Nat.zero_add]
  have doubled : r.number w * 2 + r.carry.toNat =
      2 * r.value + r.carry.toNat + w.modulus * 2 * r.carry.toNat := by
    rw [number, Nat.add_mul, Nat.mul_right_comm]
    omega
  rw [Nat.add_sub_cancel, Nat.shiftLeft_eq, Nat.shiftRight_eq_div_pow, Nat.pow_one,
    Nat.pow_succ, ← w.modulus_eq, carried, doubled, Nat.add_mul_mod_self_left,
    Nat.mod_eq_of_lt (by omega), ← number_left bound] at turned
  exact ⟨Nat.mod_lt _ w.modulus_bounds.2.1, turned⟩

theorem number_right (w : Width) (r : Ring) :
    (right w r).number w = r.number w / 2 + w.modulus * (r.number w % 2) := by
  have half := w.modulus_eq_double
  have lowest : (r.value % 2 == 1).toNat = r.value % 2 := by
    rcases Nat.mod_two_eq_zero_or_one r.value with even | odd
    · rw [even]
      rfl
    · rw [odd]
      rfl
  have fill : (if r.carry then w.signBit else 0) = w.signBit * r.carry.toNat := by
    cases r.carry <;> simp
  have parts :
      (r.value + 2 * w.signBit * r.carry.toNat) / 2 =
        r.value / 2 + w.signBit * r.carry.toNat ∧
      (r.value + 2 * w.signBit * r.carry.toNat) % 2 = r.value % 2 := by
    rw [Nat.mul_assoc]
    omega
  simp only [number, right, lowest, half, fill, parts]

theorem turns_right (w : Width) : Turns w (right w) w.bits := by
  intro r bound
  have half := w.modulus_eq_double
  have turned := Turned.of_shifts (number_lt bound) (Nat.le_succ w.bits)
  have whole := number_lt bound
  rw [Nat.pow_succ, ← w.modulus_eq] at whole
  have lowest : r.number w * w.modulus + r.number w / 2 =
      r.number w / 2 + w.modulus * (r.number w % 2) + w.modulus * 2 * (r.number w / 2) := by
    have parts := congrArg (w.modulus * ·) (Nat.div_add_mod (r.number w) 2)
    simp only [Nat.mul_add, ← Nat.mul_assoc] at parts
    rw [Nat.mul_comm (r.number w)]
    omega
  have fits : r.number w / 2 + w.modulus * (r.number w % 2) < w.modulus * 2 := by
    rcases Nat.mod_two_eq_zero_or_one (r.number w) with even | odd
    · rw [even]
      omega
    · rw [odd]
      omega
  rw [Nat.add_sub_cancel_left, Nat.shiftLeft_eq, Nat.shiftRight_eq_div_pow, Nat.pow_one,
    Nat.pow_succ, ← w.modulus_eq, lowest, Nat.add_mul_mod_self_left,
    Nat.mod_eq_of_lt fits, ← number_right] at turned
  refine ⟨?_, turned⟩
  rw [right, half]
  dsimp only
  split <;> omega

theorem turns_turn (turns : Turns w step t) (j : Nat) : Turns w (turn step j) (j * t) := by
  induction j with
  | zero =>
    intro r bound
    rw [Nat.zero_mul]
    exact ⟨bound, .refl (number_lt bound)⟩
  | succ j ih =>
    intro r bound
    obtain ⟨between, first⟩ := turns r bound
    obtain ⟨last, rest⟩ := ih (step r) between
    refine ⟨last, ?_⟩
    rw [Nat.succ_mul, Nat.add_comm (j * t)]
    exact first.trans rest

theorem turn_add (step : Ring → Ring) (a b : Nat) (r : Ring) :
    turn step (a + b) r = turn step b (turn step a r) := by
  induction a generalizing r with
  | zero => rw [Nat.zero_add, turn]
  | succ a ih =>
    rw [Nat.succ_add, turn, turn]
    exact ih (step r)

/-- Whole rounds of value and Carry do not matter. -/
theorem turn_mod (turns : Turns w step t) (bound : r.value < w.modulus) (a b : Nat) :
    turn step ((a + b) % (w.bits + 1)) r =
      turn step (b % (w.bits + 1)) (turn step (a % (w.bits + 1)) r) := by
  obtain ⟨boundA, once⟩ := turns_turn turns ((a + b) % (w.bits + 1)) r bound
  obtain ⟨boundB, both⟩ := turns_turn turns (a % (w.bits + 1) + b % (w.bits + 1)) r bound
  rw [← turn_add]
  refine eq_of_number boundA boundB (once.eq both ?_)
  rw [Nat.mul_mod, Nat.mod_mod, Nat.add_mod, ← Nat.mul_mod]

end Ring

theorem agrees_rcl (below : n < w.modulus) :
    let between := Ring.turn (Ring.left w) (a % (w.bits + 1)) ⟨n, f.carry⟩
    (rcl f w n (a + b)).Agrees (rcl (rcl f w n a).flags w between.value b) := by
  intro between
  have ring := Ring.turn_mod (Ring.turns_left w) (r := ⟨n, f.carry⟩) below a b
  exact agrees_turned f _ _ _ (congrArg Ring.value ring) (congrArg Ring.carry ring)

theorem agrees_rcr (below : n < w.modulus) :
    let between := Ring.turn (Ring.right w) (a % (w.bits + 1)) ⟨n, f.carry⟩
    (rcr f w n (a + b)).Agrees (rcr (rcr f w n a).flags w between.value b) := by
  intro between
  have ring := Ring.turn_mod (Ring.turns_right w) (r := ⟨n, f.carry⟩) below a b
  exact agrees_turned f _ _ _ (congrArg Ring.value ring) (congrArg Ring.carry ring)

end Turning

/-- The operation with a count that is not zero. -/
def perform : ShiftOp → Flags → Width → Nat → Nat → Result
  | .shl => shl
  | .shr => shr
  | .sar => sar
  | .rol => rol
  | .ror => ror
  | .rcl => rcl
  | .rcr => rcr

/-- The number that it leaves. -/
def moved (op : ShiftOp) (f : Flags) (w : Width) (n c : Nat) : Nat :=
  match op with
  | .shl => n <<< c % w.modulus
  | .shr => n >>> c
  | .sar => filled w n (min c w.bits)
  | .rol => leftward w n (c % w.bits)
  | .ror => rightward w n (c % w.bits)
  | .rcl => (Ring.turn (Ring.left w) (c % (w.bits + 1)) ⟨n, f.carry⟩).value
  | .rcr => (Ring.turn (Ring.right w) (c % (w.bits + 1)) ⟨n, f.carry⟩).value

theorem value_perform (op : ShiftOp) (f : Flags) (w : Width) (n c : Nat) :
    (perform op f w n c).value = UInt16.ofNat (moved op f w n c) := by
  cases op <;> rfl

theorem moved_lt (op : ShiftOp) (below : n < w.modulus) (c : Nat) :
    moved op f w n c < w.modulus := by
  cases op with
  | shl => exact Nat.mod_lt _ w.modulus_bounds.2.1
  | shr => exact Nat.lt_of_le_of_lt (Nat.shiftRight_le n c) below
  | sar => exact filled_lt below _
  | rol => exact leftward_lt w n _
  | ror => exact rightward_lt w n _
  | rcl => exact (Ring.turns_turn (Ring.turns_left w) _ ⟨n, f.carry⟩ below).1
  | rcr => exact (Ring.turns_turn (Ring.turns_right w) _ ⟨n, f.carry⟩ below).1

theorem agrees_perform (op : ShiftOp) (below : n < w.modulus) (first : 0 < a) (second : 0 < b) :
    (perform op f w n (a + b)).Agrees
      (perform op (perform op f w n a).flags w (moved op f w n a) b) := by
  cases op with
  | shl => exact agrees_shl f n second
  | shr => exact agrees_shr f n second
  | sar => exact agrees_sar f below first second
  | rol => exact agrees_rol f below
  | ror => exact agrees_ror f below
  | rcl => exact agrees_rcl f below
  | rcr => exact agrees_rcr f below

end Shift

section Counts

variable {f : Flags} {w : Width} {op : ShiftOp} {a b : UInt16} {m n : UInt8} {r s : Result}

theorem shift_eq (f : Flags) (w : Width) (op : ShiftOp) (a : UInt16) (n : UInt8) :
    shift f w op a n =
      if n.toNat % 32 = 0 then ⟨UInt16.ofNat (w.trunc a), f⟩
      else Shift.perform op f w (w.trunc a) (n.toNat % 32) := by
  cases op <;> rfl

theorem shift_of_zero (none : n.toNat % 32 = 0) :
    shift f w op a n = ⟨UInt16.ofNat (w.trunc a), f⟩ := by
  rw [shift_eq, if_pos none]

theorem shift_of_pos (some : n.toNat % 32 ≠ 0) :
    shift f w op a n = Shift.perform op f w (w.trunc a) (n.toNat % 32) := by
  rw [shift_eq, if_neg some]

theorem shift_congr (value : w.trunc a = w.trunc b) (count : m.toNat % 32 = n.toNat % 32) :
    shift f w op a m = shift f w op b n := by
  rw [shift_eq, shift_eq, value, count]

theorem toNat_shift_lt (f : Flags) (w : Width) (op : ShiftOp) (a : UInt16) (n : UInt8) :
    (shift f w op a n).value.toNat < w.modulus := by
  have below := w.trunc_lt a
  rw [shift_eq]
  split
  · rwa [w.toNat_ofNat below]
  · rw [Shift.value_perform, w.toNat_ofNat (Shift.moved_lt f op below _)]
    exact Shift.moved_lt f op below _

/-- Overflow has no part in what a shift does. -/
theorem Result.Agrees.shift (agrees : r.Agrees s) (w : Width) (op : ShiftOp) (n : UInt8) :
    (Alu.shift r.flags w op r.value n).Agrees (Alu.shift s.flags w op s.value n) := by
  rw [← agrees.value, ← agrees.flags, shift_eq, shift_eq]
  split
  · exact ⟨rfl, rfl⟩
  · cases op <;> exact ⟨rfl, rfl⟩

theorem agrees_shift_shift (f : Flags) (w : Width) (op : ShiftOp) (a : UInt16)
    (small : m.toNat + n.toNat ≤ 31) :
    (shift f w op a (m + n)).Agrees
      (shift (shift f w op a m).flags w op (shift f w op a m).value n) := by
  have below := w.trunc_lt a
  have sum : (m + n).toNat = m.toNat + n.toNat := by
    rw [UInt8.toNat_add]
    exact Nat.mod_eq_of_lt (by omega)
  by_cases first : m.toNat = 0
  · have count : (m + n).toNat % 32 = n.toNat % 32 := by rw [sum, first, Nat.zero_add]
    have value : w.trunc a = w.trunc (UInt16.ofNat (w.trunc a)) := (w.trunc_ofNat below).symm
    rw [shift_of_zero (n := m) (by omega), shift_congr value count]
    exact .refl _
  by_cases second : n.toNat = 0
  · have count : (m + n).toNat % 32 = m.toNat % 32 := by rw [sum, second, Nat.add_zero]
    have narrow := toNat_shift_lt f w op a m
    rw [shift_congr rfl count, shift_of_zero (n := n) (by omega), w.trunc_of_lt narrow,
      UInt16.ofNat_toNat]
    exact .refl _
  have perform :=
    Shift.agrees_perform f op below (Nat.pos_of_ne_zero first) (Nat.pos_of_ne_zero second)
  have countM : m.toNat % 32 = m.toNat := Nat.mod_eq_of_lt (by omega)
  have countN : n.toNat % 32 = n.toNat := Nat.mod_eq_of_lt (by omega)
  have count : (m + n).toNat % 32 = m.toNat + n.toNat := by
    rw [sum]
    exact Nat.mod_eq_of_lt (by omega)
  rw [shift_of_pos (n := m + n) (by omega), shift_of_pos (n := m) (by omega),
    shift_of_pos (n := n) (by omega), count, countM, countN, Shift.value_perform,
    w.trunc_ofNat (Shift.moved_lt f op below _)]
  exact perform

/-- A shift by one place, on the value and the flags that the last one left. -/
def singleStep (w : Width) (op : ShiftOp) (r : Result) : Result := shift r.flags w op r.value 1

/-- By induction on the count. -/
theorem agrees_iterate (f : Flags) (w : Width) (op : ShiftOp) (a : UInt16) (n : UInt8) :
    (shift f w op a n).Agrees
      ((singleStep w op)^[n.toNat % 32] ⟨UInt16.ofNat (w.trunc a), f⟩) := by
  have steps : ∀ k ≤ 31,
      (shift f w op a (UInt8.ofNat k)).Agrees
        ((singleStep w op)^[k] ⟨UInt16.ofNat (w.trunc a), f⟩) := by
    intro k
    induction k with
    | zero =>
      intro _
      rw [shift_of_zero rfl]
      exact .refl _
    | succ k ih =>
      intro small
      have whole : (UInt8.ofNat k).toNat = k :=
        UInt8.toNat_ofNat_of_lt' (by simp only [UInt8.size]; omega)
      have one : (1 : UInt8).toNat = 1 := rfl
      have next : UInt8.ofNat (k + 1) = UInt8.ofNat k + 1 := UInt8.ofNat_add k 1
      have last := agrees_shift_shift f w op a (m := UInt8.ofNat k) (n := 1) (by omega)
      rw [next, Function.iterate_succ_apply']
      exact last.trans ((ih (by omega)).shift w op 1)
  have same : (UInt8.ofNat (n.toNat % 32)).toNat = n.toNat % 32 :=
    UInt8.toNat_ofNat_of_lt' (by simp only [UInt8.size]; omega)
  have count : shift f w op a (UInt8.ofNat (n.toNat % 32)) = shift f w op a n :=
    shift_congr rfl (by rw [same, Nat.mod_mod])
  have few := steps (n.toNat % 32) (by omega)
  rwa [count] at few

end Counts

end Alu

namespace Processor

open Exec Alu

variable {σ : Type} {m : Machine σ} {board : Board σ} {i : Instruction} {op : ShiftOp}
  {dst count : Operand}
  {a n : UInt16}

/-- The instruction shifts `dst`. SHL has two encodings. -/
inductive Shifts (op : ShiftOp) (dst count : Operand) : Operation → Prop
  | shift : Shifts op dst count (.shift op dst count)
  | sal (left : op = .shl) : Shifts op dst count (.sal dst count)

theorem execute_shift (board : Board σ) (shifts : Shifts op dst count i.operation) :
    execute board i = shift i op dst count := by
  rw [execute]
  generalize i.operation = operation at shifts
  cases shifts with
  | shift => rfl
  | sal left =>
    subst left
    rfl

/-- A shift of an operand that is there is carried out, and its result stands in the operand. -/
theorem exists_shift (shifts : Shifts op dst count i.operation) (place : dst.isPlace = true)
    (there : read i dst m = .ok a m) (counted : read i count m = .ok n m) :
    ∃ m', execute board i m = .ok () m' ∧
      m'.registers.flags = (Alu.shift m.registers.flags dst.width op a (lowByte n)).flags ∧
      read i dst m' = .ok (Alu.shift m.registers.flags dst.width op a (lowByte n)).value m' := by
  let r := Alu.shift m.registers.flags dst.width op a (lowByte n)
  obtain ⟨m', settled, flags, back⟩ := exists_settle place there r.flags r.value
  refine ⟨m', ?_, flags, back (toNat_shift_lt _ _ _ _ _)⟩
  rw [execute_shift board shifts, shift, bind_of_ok there, bind_of_ok counted,
    bind_of_ok (registers_eq_ok m)]
  exact settled

/-- Shifting by two counts whose sum is below 32, the second time with the flags that the first
shift has left, comes to the same as shifting by their sum, but for Overflow. So every count comes
to that many single steps. Counts that differ by a multiple of 32 are the same count, and a multiple
of 32 leaves the low bits of the operand and every flag. An instruction stores what is computed
here, and its flags are the ones computed here. -/
theorem shifts_add_up (f : Flags) (w : Width) (op : ShiftOp) (a : UInt16) :
    (∀ m n : UInt8, m.toNat + n.toNat ≤ 31 →
      let once := Alu.shift f w op a (m + n)
      let first := Alu.shift f w op a m
      let second := Alu.shift first.flags w op first.value n
      once.Agrees second) ∧
    (∀ n : UInt8,
      (Alu.shift f w op a n).Agrees
        ((singleStep w op)^[n.toNat % 32] ⟨UInt16.ofNat (w.trunc a), f⟩)) ∧
    (∀ m n : UInt8, m.toNat % 32 = n.toNat % 32 →
      Alu.shift f w op a m = Alu.shift f w op a n) ∧
    (∀ n : UInt8, n.toNat % 32 = 0 →
      Alu.shift f w op a n = ⟨UInt16.ofNat (w.trunc a), f⟩) ∧
    ∀ (board : Board σ) {i : Instruction} {dst count : Operand} {m : Machine σ} {n : UInt16},
      Shifts op dst count i.operation → dst.isPlace = true → dst.width = w →
      m.registers.flags = f →
      read i dst m = .ok a m → read i count m = .ok n m →
      ∃ m', execute board i m = .ok () m' ∧
        m'.registers.flags = (Alu.shift f w op a (lowByte n)).flags ∧
        read i dst m' = .ok (Alu.shift f w op a (lowByte n)).value m' := by
  refine ⟨fun m n small => ?_, fun n => ?_, fun m n same => ?_, fun n none => ?_, ?_⟩
  · exact agrees_shift_shift f w op a small
  · exact agrees_iterate f w op a n
  · exact shift_congr rfl same
  · exact shift_of_zero none
  · intro board i dst count m n shifts place width flags there counted
    subst width flags
    exact exists_shift shifts place there counted

/-- RCL AL, 31 -/
def turnByte : Instruction := ⟨0, 3, .shift .rcl (.register (.byte .al)) (.immediate .byte 31)⟩

def beforeTurn : Machine Unit := ⟨{ ax := 0x12a5, flags := { carry := true } }, .fresh, ()⟩

/-- A byte and Carry come round after nine places, so 31 places are four, also
where they are 15 and 16. -/
theorem byte_turns_through_carry :
    let turned (n : UInt8) := Alu.shift { carry := true } .byte .rcl 0xa5 n
    (turned 31).Agrees (Alu.shift (turned 15).flags .byte .rcl (turned 15).value 16) ∧
    (turned 31).Agrees ((singleStep .byte .rcl)^[31] ⟨0xa5, { carry := true }⟩) ∧
    turned 33 = turned 1 ∧ turned 32 = ⟨0xa5, { carry := true }⟩ ∧
    ∃ m', execute .bare turnByte beforeTurn = .ok () m' ∧ m'.registers.flags = {} ∧
      read turnByte (.register (.byte .al)) m' = .ok 0x5d m' := by
  intro turned
  obtain ⟨sum, steps, same, none, stores⟩ :=
    @shifts_add_up Unit { carry := true } .byte .rcl 0xa5
  have there : read turnByte (.register (.byte .al)) beforeTurn = .ok 0xa5 beforeTurn := rfl
  have counted : read turnByte (.immediate .byte 31) beforeTurn = .ok 31 beforeTurn := rfl
  obtain ⟨m', ran, flags, back⟩ := stores .bare .shift rfl rfl rfl there counted
  exact ⟨sum 15 16 (by decide), steps 31, same 33 1 (by decide), none 32 (by decide), m', ran,
    flags, back⟩

end Processor

end RealMode
