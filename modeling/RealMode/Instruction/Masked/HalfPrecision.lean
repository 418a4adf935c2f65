import RealMode.Instruction.Masked

/-!
# Half precision

Two more masked maps hold the operations on 16-bit floating-point numbers. In the complex products
two neighbouring numbers are one operand, and the destination is none of the sources.
-/

namespace RealMode.MaskedOperation

/-- Arithmetic on packed and single half-precision numbers. -/
def halves (opcode : Nat) (stem : String) : List MaskedOperation :=
  [(narrow .plain opcode (stem ++ "ph")).repeating.rounding,
   (narrow .pF3 opcode (stem ++ "sh")).scalar.rounding]

/-- Rows `10` to `2F` of the fifth map. -/
def halfMoves : List MaskedOperation :=
  [(narrow .pF3 0x10 "Vmovsh").scalar.inMemory.unary, (narrow .pF3 0x10 "Vmovsh").scalar.inRegister,
   (narrow .pF3 0x11 "Vmovsh").scalar.inMemory.storing.merging,
   (narrow .pF3 0x11 "Vmovsh").scalar.inRegister,
   (narrow .p66 0x1d "Vcvtps2phx").unary.repeating.rounding,
   (narrow .plain 0x1d "Vcvtss2sh").scalar.rounding,
   (same .pF3 0x2a "Vcvtsi2sh").scalar.unmasked.rounding] ++
  [same .pF3 0x2c "Vcvttsh2si", same .pF3 0x2d "Vcvtsh2si", narrow .plain 0x2e "Vucomish",
   narrow .plain 0x2f "Vcomish"].map (·.scalar.unmasked.unary.rounding)

/-- Rows `51` to `7E` of the fifth map. -/
def halfArithmetic : List MaskedOperation :=
  [(narrow .plain 0x51 "Vsqrtph").unary.repeating.rounding,
   (narrow .pF3 0x51 "Vsqrtsh").scalar.rounding] ++
  halves 0x58 "Vadd" ++ halves 0x59 "Vmul" ++ halves 0x5c "Vsub" ++ halves 0x5d "Vmin" ++
  halves 0x5e "Vdiv" ++ halves 0x5f "Vmax" ++
  [(narrow .pF3 0x5a "Vcvtsh2sd").scalar.rounding, (wide .pF2 0x5a "Vcvtsd2sh").scalar.rounding,
   (same .p66 0x6e "Vmovw").only128.unmasked.unary, (same .p66 0x7e "Vmovw").only128.unmasked.unary,
   (same .pF3 0x78 "Vcvttsh2usi").scalar.unmasked.unary.rounding,
   (same .pF3 0x79 "Vcvtsh2usi").scalar.unmasked.unary.rounding,
   (same .pF3 0x7b "Vcvtusi2sh").scalar.unmasked.rounding] ++
  [narrow .plain 0x5a "Vcvtph2pd", wide .p66 0x5a "Vcvtpd2ph",
   either .plain 0x5b "Vcvtdq2ph" "Vcvtqq2ph",
   narrow .p66 0x5b "Vcvtph2dq", narrow .pF3 0x5b "Vcvttph2dq", narrow .plain 0x78 "Vcvttph2udq",
   narrow .p66 0x78 "Vcvttph2uqq", narrow .plain 0x79 "Vcvtph2udq", narrow .p66 0x79 "Vcvtph2uqq",
   narrow .p66 0x7a "Vcvttph2qq", either .pF2 0x7a "Vcvtudq2ph" "Vcvtuqq2ph",
   narrow .p66 0x7b "Vcvtph2qq", narrow .plain 0x7c "Vcvttph2uw", narrow .p66 0x7c "Vcvttph2w",
   narrow .plain 0x7d "Vcvtph2uw", narrow .p66 0x7d "Vcvtph2w", narrow .pF3 0x7d "Vcvtw2ph",
   narrow .pF2 0x7d "Vcvtuw2ph"].map (·.unary.repeating.rounding)

def halfFirst : List MaskedOperation := halfMoves ++ halfArithmetic

/-- The fused operations of half precision whose opcodes begin at `first`. -/
def fusedHalves (first : Nat) (order : String) : List MaskedOperation :=
  (["Vfmaddsub", "Vfmsubadd", "Vfmadd"].zipIdx.map fun (stem, i) =>
    (narrow .p66 (first + i) (stem ++ order ++ "ph")).repeating.rounding) ++
  (["Vfmsub", "Vfnmadd", "Vfnmsub"].zipIdx.map fun (stem, i) =>
    (narrow .p66 (first + 4 + 2 * i) (stem ++ order ++ "ph")).repeating.rounding) ++
  (["Vfmadd", "Vfmsub", "Vfnmadd", "Vfnmsub"].zipIdx.map fun (stem, i) =>
    (narrow .p66 (first + 3 + 2 * i) (stem ++ order ++ "sh")).scalar.rounding)

/-- A product of complex numbers, and its conjugate form. -/
def complexProducts (opcode : Nat) (stem : String) : List MaskedOperation :=
  [(narrow .pF3 opcode ("Vf" ++ stem ++ "ph")).repeating,
   (narrow .pF2 opcode ("Vfc" ++ stem ++ "ph")).repeating,
   (narrow .pF3 (opcode + 1) ("Vf" ++ stem ++ "sh")).scalar,
   (narrow .pF2 (opcode + 1) ("Vfc" ++ stem ++ "sh")).scalar].map (·.rounding.setApart)

def halfSecond : List MaskedOperation :=
  [(narrow .p66 0x13 "Vcvtph2psx").unary.repeating.rounding,
   (narrow .plain 0x13 "Vcvtsh2ss").scalar.rounding,
   (narrow .p66 0x2c "Vscalefph").repeating.rounding,
   (narrow .p66 0x2d "Vscalefsh").scalar.rounding,
   (narrow .p66 0x42 "Vgetexpph").unary.repeating.rounding,
   (narrow .p66 0x43 "Vgetexpsh").scalar.rounding,
   (narrow .p66 0x4c "Vrcpph").unary.repeating, (narrow .p66 0x4d "Vrcpsh").scalar,
   (narrow .p66 0x4e "Vrsqrtph").unary.repeating, (narrow .p66 0x4f "Vrsqrtsh").scalar] ++
  complexProducts 0x56 "maddc" ++ complexProducts 0xd6 "mulc" ++ fusedHalves 0x96 "132" ++
  fusedHalves 0xa6 "213" ++ fusedHalves 0xb6 "231"

end RealMode.MaskedOperation
