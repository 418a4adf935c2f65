import RealMode.Processor.Product
import RealMode.Processor.Strings
import RealMode.Proofs.Widths

/-!
# Numbers of twice a width

A product of two numbers has twice their width: its upper half is in AH, or in DX for words.
Division takes such a number apart into a quotient, cut toward zero, and a remainder. Signed and
unsigned operations differ in which number the bits of an operand stand for, and in nothing else.
-/

namespace RealMode

theorem Width.fits_iff {w : Width} {n : Int} : w.fits n = true ↔ w.InRange n := by
  rw [fits, ← Bool.decide_and, decide_eq_true_iff, inRange_iff]

/-- Whether bits are read as a number or as its two's complement. -/
inductive Signedness where
  | unsigned
  | signed

namespace Signedness

/-- The number that the low bits of a value stand for. -/
def number (s : Signedness) (w : Width) (v : UInt16) : Int :=
  match s with
  | unsigned => w.trunc v
  | signed => w.signed v

/-- The numbers of a width. -/
def Has (s : Signedness) (w : Width) (n : Int) : Prop :=
  match s with
  | unsigned => 0 ≤ n ∧ n < 2 ^ w.bits
  | signed => w.InRange n

/-- The least number of a width. -/
def least (s : Signedness) (w : Width) : Int :=
  match s with
  | unsigned => 0
  | signed => -w.signBit

def division (s : Signedness) (src : Operand) : Operation :=
  match s with
  | unsigned => .div src
  | signed => .idiv src

def multiplication (s : Signedness) (src : Operand) : Operation :=
  match s with
  | unsigned => .mul src
  | signed => .imul src

variable {s : Signedness} {w : Width} {n : Int}

/-- A width has as many numbers as bit patterns, in a row. -/
theorem has_iff : s.Has w n ↔ s.least w ≤ n ∧ n < s.least w + w.modulus := by
  cases s with
  | unsigned =>
    rw [Has, least, w.modulus_eq]
    push_cast
    rw [Int.zero_add]
  | signed =>
    rw [Has, least, Width.inRange_iff, w.modulus_eq_double]
    push_cast
    constructor <;> intro range <;> omega

instance (s : Signedness) (w : Width) (n : Int) : Decidable (s.Has w n) :=
  decidable_of_iff' _ has_iff

theorem has_number (s : Signedness) (w : Width) (v : UInt16) : s.Has w (s.number w v) := by
  have bound := w.trunc_lt v
  rw [has_iff]
  cases s with
  | unsigned =>
    simp only [number, least]
    omega
  | signed =>
    rw [w.modulus_eq_double] at bound ⊢
    simp only [number, least, Width.signed, w.modulus_eq_double]
    split <;> omega

/-- Every reading stands for the same residue. -/
theorem number_emod (s : Signedness) (w : Width) (v : UInt16) :
    s.number w v % w.modulus = w.trunc v := by
  have bound := w.trunc_lt v
  cases s with
  | unsigned => exact Int.emod_eq_of_lt (by simp [number]) (by simpa [number] using bound)
  | signed =>
    simp only [number, Width.signed]
    split
    · rw [Int.sub_emod_right]
      exact Int.emod_eq_of_lt (by simp) (by simpa using bound)
    · exact Int.emod_eq_of_lt (by simp) (by simpa using bound)

/-- A number of a width is known from its residue. -/
theorem number_eq {v : UInt16} (has : s.Has w n) (residue : n % w.modulus = w.trunc v) :
    s.number w v = n := by
  have known := s.has_number w v
  have congruent := (s.number_emod w v).trans residue.symm
  rw [has_iff] at has known
  cases w <;> simp only [Width.modulus, Width.bits, Nat.reduceShiftLeft] at * <;> omega

/-- The upper half of a product of two numbers is a number of their width. -/
theorem has_mul_ediv {a b : Int} (hasA : s.Has w a) (hasB : s.Has w b) :
    s.Has w (a * b / w.modulus) := by
  have bounded (most : Nat) (boundA : a.natAbs ≤ most) (boundB : b.natAbs ≤ most) :
      (a * b).natAbs ≤ most * most := by
    rw [Int.natAbs_mul]
    exact Nat.mul_le_mul boundA boundB
  rw [has_iff] at hasA hasB ⊢
  cases s with
  | unsigned =>
    simp only [least, Int.zero_add] at hasA hasB ⊢
    have nonneg := Int.mul_nonneg hasA.1 hasB.1
    have bound := bounded (w.modulus - 1) (by omega) (by omega)
    cases w <;> simp only [Width.modulus, Width.bits, Nat.reduceShiftLeft] at * <;> omega
  | signed =>
    rw [w.modulus_eq_double] at hasA hasB ⊢
    simp only [least] at hasA hasB ⊢
    have bound := bounded w.signBit (by omega) (by omega)
    cases w <;> simp only [Width.signBit, Width.bits, Nat.reduceShiftLeft, Nat.reduceSub] at * <;>
      omega

/-- What is smaller than a number of a width is one too, where its sign allows that. -/
theorem Has.of_natAbs_lt {d : Int} (has : s.Has w d) (small : n.natAbs < d.natAbs)
    (sign : s.least w = 0 → 0 ≤ n) : s.Has w n := by
  rw [has_iff] at has ⊢
  cases s with
  | unsigned =>
    have nonneg := sign rfl
    simp only [least] at has ⊢
    omega
  | signed =>
    rw [w.modulus_eq_double] at has ⊢
    simp only [least] at has ⊢
    omega

end Signedness

namespace Registers

/-- The other half of what is divided: AH, or DX for words. -/
def extension (r : Registers) : Width → UInt16
  | .byte => r.ah.toUInt16
  | .word => r.dx

/-- The registers with two numbers in AL and AH, or in AX and DX, as far as there is place. -/
def withHalves (r : Registers) (w : Width) (lower upper : Int) : Registers :=
  match w with
  | .byte => { r with ax := wordOfBytes (UInt8.ofInt lower) (UInt8.ofInt upper) }
  | .word => { r with ax := UInt16.ofInt lower, dx := UInt16.ofInt upper }

/-- What differs is in AX, or also in DX for words. -/
def SameBesides (w : Width) (r r' : Registers) : Prop :=
  r' = { r with ax := r'.ax, dx := r'.dx } ∧ (w = .byte → r'.dx = r.dx)

theorem SameBesides.halt {w : Width} {r r' : Registers} (same : r.SameBesides w r') :
    r'.halt = r.halt := by
  rw [same.1]

theorem sameBesides_withHalves (r : Registers) (w : Width) (lower upper : Int) :
    r.SameBesides w (r.withHalves w lower upper) := by
  cases w with
  | byte => exact ⟨rfl, fun _ => rfl⟩
  | word => exact ⟨rfl, nofun⟩

theorem toNat_ofInt_byte (n : Int) : ((UInt8.ofInt n).toNat : Int) = n % 256 := by
  rw [UInt8.ofInt, UInt8.toNat_ofNat']
  omega

theorem toNat_ofInt_word (n : Int) : ((UInt16.ofInt n).toNat : Int) = n % 65536 := by
  rw [UInt16.ofInt, UInt16.toNat_ofNat']
  omega

theorem trunc_accumulator_withHalves (r : Registers) (w : Width) (lower upper : Int) :
    (w.trunc ((r.withHalves w lower upper).accumulator w) : Int) = lower % w.modulus := by
  cases w with
  | byte =>
    have low := toNat_ofInt_byte lower
    simp only [withHalves, accumulator, al, lowByte_wordOfBytes, Width.trunc, Width.modulus,
      Width.bits, Nat.reduceShiftLeft, UInt8.toNat_toUInt16]
    omega
  | word =>
    have low := toNat_ofInt_word lower
    simp only [withHalves, accumulator, Width.trunc, Width.modulus, Width.bits, Nat.reduceShiftLeft]
    omega

theorem trunc_extension_withHalves (r : Registers) (w : Width) (lower upper : Int) :
    (w.trunc ((r.withHalves w lower upper).extension w) : Int) = upper % w.modulus := by
  cases w with
  | byte =>
    have high := toNat_ofInt_byte upper
    simp only [withHalves, extension, ah, highByte_wordOfBytes, Width.trunc, Width.modulus,
      Width.bits, Nat.reduceShiftLeft, UInt8.toNat_toUInt16]
    omega
  | word =>
    have high := toNat_ofInt_word upper
    simp only [withHalves, extension, Width.trunc, Width.modulus, Width.bits, Nat.reduceShiftLeft]
    omega

end Registers

namespace Signedness

variable {s : Signedness} {w : Width} {r r' : Registers} {v : UInt16} {n : Int}

/-- The number in AH and AL, or in DX and AX. -/
def double (s : Signedness) (w : Width) (r : Registers) : Int :=
  s.number w (r.extension w) * w.modulus + w.trunc (r.accumulator w)

/-- Quotient and remainder, where the quotient is a number of the width. -/
def divide? (s : Signedness) (w : Width) (divisor : UInt16) (r : Registers) : Option Registers :=
  if s.number w divisor = 0 ∨ ¬ s.Has w ((s.double w r).tdiv (s.number w divisor)) then none
  else
    some
      (r.withHalves w ((s.double w r).tdiv (s.number w divisor))
        ((s.double w r).tmod (s.number w divisor)))

/-- The product in twice the width, and whether it has needed that. -/
def multiply (s : Signedness) (w : Width) (factor : UInt16) (r : Registers) : Registers :=
  let product := s.number w (r.accumulator w) * s.number w factor
  (r.withHalves w product (product / w.modulus)).withCarryOverflow (!s.Has w product)

theorem double_unsigned (w : Width) (r : Registers) :
    unsigned.double w r = match w with
      | .byte => r.ax.toNat
      | .word => r.dxAx.toNat := by
  have boundA := r.ax.toNat_lt
  have boundD := r.dx.toNat_lt
  cases w with
  | byte =>
    simp only [double, number, Registers.extension, Registers.accumulator, Registers.ah,
      Registers.al, highByte, lowByte, Width.trunc, Width.modulus, Width.bits, Nat.reduceShiftLeft,
      UInt8.toNat_toUInt16, UInt8.toNat_ofNat']
    omega
  | word =>
    simp only [double, number, Registers.extension, Registers.accumulator, Registers.dxAx,
      dwordOfWords, Width.trunc, Width.modulus, Width.bits, Nat.reduceShiftLeft,
      UInt32.toNat_ofNat']
    omega

theorem double_signed (w : Width) (r : Registers) :
    signed.double w r = match w with
      | .byte => Width.word.signed r.ax
      | .word => r.signedDxAx := by
  have same := double_unsigned w r
  have known := signed.has_number w (r.extension w)
  have residue := signed.number_emod w (r.extension w)
  have bound := w.trunc_lt (r.accumulator w)
  rw [has_iff] at known
  cases w with
  | byte =>
    simp only [double, number, least, Width.trunc, Width.modulus, Width.signBit, Width.bits,
      Nat.reduceShiftLeft, Nat.reduceSub] at same known residue bound ⊢
    refine (number_eq (s := signed) (w := .word) ?_ ?_).symm
    · rw [has_iff]
      simp only [least, Width.modulus, Width.signBit, Width.bits, Nat.reduceShiftLeft,
        Nat.reduceSub]
      omega
    · simp only [Width.trunc, Width.modulus, Width.bits, Nat.reduceShiftLeft]
      omega
  | word =>
    simp only [double, number, least, Width.trunc, Width.modulus, Width.signBit, Width.bits,
      Nat.reduceShiftLeft, Nat.reduceSub] at same known residue bound ⊢
    rw [Registers.signedDxAx]
    split <;> omega

/-- Unsigned numbers are not negative. -/
theorem double_nonneg (least : s.least w = 0) : 0 ≤ s.double w r := by
  cases s with
  | unsigned =>
    rw [double_unsigned]
    cases w <;> simp
  | signed =>
    cases w <;> cases least

end Signedness

namespace Registers

theorem extension_withHalves_zero (r : Registers) (w : Width) (lower : Int) :
    (r.withHalves w lower 0).extension w = 0 := by
  cases w with
  | byte => simp [withHalves, extension, ah, UInt8.ofInt]
  | word => rfl

/-- Products of both widths are laid out alike. -/
theorem withHalves_product (r : Registers) (n : Int) (w : Width) :
    r.withHalves w n (n / w.modulus) = match w with
      | .byte => { r with ax := UInt16.ofInt n }
      | .word => r.withDxAx (UInt32.ofInt n) := by
  cases w with
  | byte =>
    have low := toNat_ofInt_byte n
    have high := toNat_ofInt_byte (n / 256)
    have word := toNat_ofInt_word n
    have same : wordOfBytes (UInt8.ofInt n) (UInt8.ofInt (n / 256)) = UInt16.ofInt n := by
      apply UInt16.toNat_inj.mp
      rw [wordOfBytes, UInt16.toNat_ofNat']
      omega
    simp only [withHalves, Width.modulus, Width.bits, Nat.reduceShiftLeft, Int.cast_ofNat_Int, same]
  | word =>
    have low := toNat_ofInt_word n
    have high := toNat_ofInt_word (n / 65536)
    have whole : ((UInt32.ofInt n).toNat : Int) = n % 4294967296 := by
      rw [UInt32.ofInt, UInt32.toNat_ofNat']
      omega
    have lowSame : lowWord (UInt32.ofInt n) = UInt16.ofInt n := by
      apply UInt16.toNat_inj.mp
      rw [lowWord, UInt16.toNat_ofNat']
      omega
    have highSame : highWord (UInt32.ofInt n) = UInt16.ofInt (n / 65536) := by
      apply UInt16.toNat_inj.mp
      rw [highWord, UInt16.toNat_ofNat']
      omega
    simp only [withHalves, withDxAx, Width.modulus, Width.bits, Nat.reduceShiftLeft,
      Int.cast_ofNat_Int, lowSame, highSame]

theorem ofInt_natCast_byte (n : Nat) : UInt8.ofInt n = UInt8.ofNat n := UInt8.ofNat_mod_size

theorem ofInt_natCast_word (n : Nat) : UInt16.ofInt n = UInt16.ofNat n := UInt16.ofNat_mod_size

theorem trunc_accumulator (r : Registers) (w : Width) :
    w.trunc (r.accumulator w) = (r.accumulator w).toNat := by
  cases w with
  | byte => exact Nat.mod_eq_of_lt r.al.toNat_lt
  | word => exact Nat.mod_eq_of_lt r.ax.toNat_lt

theorem mul_eq (r : Registers) (w : Width) (v : UInt16) :
    r.mul w v = Signedness.unsigned.multiply w v r := by
  have product : Signedness.unsigned.number w (r.accumulator w) * Signedness.unsigned.number w v =
      (((r.accumulator w).toNat * w.trunc v : Nat) : Int) := by
    simp only [Signedness.number, trunc_accumulator, Int.natCast_mul]
  have fits (n : Nat) : (!decide (Signedness.unsigned.Has w n)) = decide (w.modulus ≤ n) := by
    rw [← decide_not, decide_eq_decide, Signedness.has_iff]
    simp only [Signedness.least]
    omega
  rw [Signedness.multiply, withHalves_product, product, fits]
  cases w with
  | byte =>
    simp only [ofInt_natCast_word]
    rfl
  | word =>
    have whole (n : Nat) : UInt32.ofInt n = UInt32.ofNat n := UInt32.ofNat_mod_size
    simp only [whole]
    rfl

theorem imul_eq (r : Registers) (w : Width) (v : UInt16) :
    r.imul w v = Signedness.signed.multiply w v r := by
  have low : w.trunc (r.accumulator w) = w.trunc r.ax := by
    cases w with
    | byte => simp [Width.trunc, Width.modulus, Width.bits, accumulator, al, lowByte]
    | word => rfl
  have accumulator : w.signed (r.accumulator w) = w.signed r.ax := by
    rw [Width.signed, Width.signed, low]
  have fits (n : Int) : w.fits n = decide (Signedness.signed.Has w n) := by
    rw [Bool.eq_iff_iff, decide_eq_true_iff]
    exact Width.fits_iff
  rw [Signedness.multiply, withHalves_product, ← fits]
  simp only [Signedness.number, accumulator]
  cases w <;> rfl

theorem div?_eq (r : Registers) (w : Width) (v : UInt16) :
    r.div? w v = Signedness.unsigned.divide? w v r := by
  have refused (d q : Nat) : ((d : Int) = 0 ∨ ¬ Signedness.unsigned.Has w q) ↔
      d = 0 ∨ w.modulus ≤ q := by
    rw [Signedness.has_iff]
    simp only [Signedness.least]
    omega
  rw [Signedness.divide?, Signedness.double_unsigned]
  cases w with
  | byte =>
    simp only [Signedness.number, ← Int.ofNat_tdiv, ← Int.ofNat_tmod, refused, withHalves,
      ofInt_natCast_byte]
    rfl
  | word =>
    simp only [Signedness.number, ← Int.ofNat_tdiv, ← Int.ofNat_tmod, refused, withHalves,
      ofInt_natCast_word]
    rfl

theorem idiv?_eq (r : Registers) (w : Width) (v : UInt16) :
    r.idiv? w v = Signedness.signed.divide? w v r := by
  have refused (n : Int) : (¬ Signedness.signed.Has w n) ↔ (!w.fits n) = true := by
    rw [Bool.not_eq_true', ← Bool.not_eq_true]
    exact not_congr Width.fits_iff.symm
  rw [Signedness.divide?, Signedness.double_signed]
  cases w with
  | byte =>
    simp only [Signedness.number, refused]
    rfl
  | word =>
    simp only [Signedness.number, refused]
    rfl

end Registers

namespace Signedness

variable {s : Signedness} {w : Width} {r : Registers} {v : UInt16}

/-- What a division by `d` leaves. -/
structure Divides (s : Signedness) (w : Width) (d : Int) (r r' : Registers) : Prop where
  exact : s.double w r = s.number w (r'.accumulator w) * d + s.number w (r'.extension w)
  small : (s.number w (r'.extension w)).natAbs < d.natAbs
  sign : s.number w (r'.extension w) = 0 ∨
    (s.number w (r'.extension w)).sign = (s.double w r).sign
  rest : r.SameBesides w r'

/-- What a multiplication by `d` leaves. -/
structure Multiplies (s : Signedness) (w : Width) (d : Int) (r r' : Registers) : Prop where
  exact : s.double w r' = s.number w (r.accumulator w) * d
  carry : r'.flags.carry = true ↔ ¬ s.Has w (s.number w (r.accumulator w) * d)
  overflow : r'.flags.overflow = r'.flags.carry
  rest : (r.withCarryOverflow r'.flags.carry).SameBesides w r'

/-- A double number is put together from halves of which the upper one is a number of the width. -/
theorem double_withHalves (n : Int) (has : s.Has w (n / w.modulus)) :
    s.double w (r.withHalves w n (n / w.modulus)) = n := by
  have upper : s.number w ((r.withHalves w n (n / w.modulus)).extension w) = n / w.modulus :=
    number_eq has (Registers.trunc_extension_withHalves r w n _).symm
  rw [double, upper, Registers.trunc_accumulator_withHalves]
  exact Int.ediv_mul_add_emod n w.modulus

theorem multiplies (s : Signedness) (w : Width) (v : UInt16) (r : Registers) :
    s.Multiplies w (s.number w v) r (s.multiply w v r) := by
  constructor
  case exact =>
    have has := has_mul_ediv (s.has_number w (r.accumulator w)) (s.has_number w v)
    have whole := double_withHalves (r := r) _ has
    cases w <;> exact whole
  case carry => simp [multiply, Registers.withCarryOverflow]
  case overflow => rfl
  case rest =>
    cases w with
    | byte => exact ⟨rfl, fun _ => rfl⟩
    | word => exact ⟨rfl, nofun⟩

theorem divides (nonzero : s.number w v ≠ 0)
    (has : s.Has w ((s.double w r).tdiv (s.number w v))) : s.Divides w (s.number w v) r
      (r.withHalves w ((s.double w r).tdiv (s.number w v))
        ((s.double w r).tmod (s.number w v))) := by
  have small : ((s.double w r).tmod (s.number w v)).natAbs < (s.number w v).natAbs := by
    rw [Int.natAbs_tmod]
    apply Nat.mod_lt
    omega
  have fits : s.Has w ((s.double w r).tmod (s.number w v)) :=
    (s.has_number w v).of_natAbs_lt small fun least => Int.tmod_nonneg _ (double_nonneg least)
  have quotient := number_eq has (Registers.trunc_accumulator_withHalves r w _
    ((s.double w r).tmod (s.number w v))).symm
  have remainder := number_eq fits (Registers.trunc_extension_withHalves r w
    ((s.double w r).tdiv (s.number w v)) _).symm
  constructor
  case exact =>
    rw [quotient, remainder]
    exact (Int.tdiv_mul_add_tmod _ _).symm
  case small =>
    rw [remainder]
    exact small
  case sign =>
    rw [remainder, Int.sign_tmod]
    split
    · next divisible => exact .inl (Int.tmod_eq_zero_of_dvd divisible)
    · exact .inr rfl
  case rest => exact r.sameBesides_withHalves w _ _

theorem divide?_eq_some
    (divides : ¬ (s.number w v = 0 ∨ ¬ s.Has w ((s.double w r).tdiv (s.number w v)))) :
    s.divide? w v r =
      some
        (r.withHalves w ((s.double w r).tdiv (s.number w v))
          ((s.double w r).tmod (s.number w v))) :=
  if_neg divides

/-- Whatever the reading, its number puts the accumulator back. -/
theorem accumulator_restored (s : Signedness) (w : Width) (r : Registers) {r' : Registers}
    (upper : Int) :
    (r'.withHalves w (s.number w (r.accumulator w)) upper).accumulator w = r.accumulator w := by
  have residue := Registers.trunc_accumulator_withHalves r' w (s.number w (r.accumulator w)) upper
  rw [s.number_emod, Registers.trunc_accumulator, Registers.trunc_accumulator] at residue
  apply UInt16.toNat_inj.mp
  omega

/-- What has been multiplied divides without remainder. -/
theorem divide?_of_product {n : Int} (has : s.Has w n) (nonzero : s.number w v ≠ 0)
    (product : s.double w r = n * s.number w v) : s.divide? w v r = some (r.withHalves w n 0) := by
  have quotient : (s.double w r).tdiv (s.number w v) = n := by
    rw [product]
    exact Int.mul_tdiv_cancel n nonzero
  have remainder : (s.double w r).tmod (s.number w v) = 0 := by
    rw [product]
    exact Int.mul_tmod_left n _
  rw [divide?, quotient, remainder, if_neg]
  rintro (zero | refused)
  · exact nonzero zero
  · exact refused has

end Signedness

namespace Registers

/-- What product and dividend are held in. -/
def extended : List Register := [.byte .al, .byte .ah, .word .ax, .byte .dl, .byte .dh, .word .dx]

theorem SameBesides.read? {w : Width} {r r' : Registers} (same : r.SameBesides w r')
    {reg : Register} (other : reg ∉ extended) : r'.read? reg = r.read? reg := by
  rw [same.1]
  cases reg with
  | byte b => cases b <;> first | rfl | exact absurd (by decide) other
  | word x => cases x <;> first | rfl | exact absurd (by decide) other
  | segment x => cases x <;> rfl
  | dword _ => rfl
  | control _ => rfl
  | debug _ => rfl

end Registers

end RealMode
