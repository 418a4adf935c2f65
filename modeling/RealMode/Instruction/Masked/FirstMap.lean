import RealMode.Instruction.Masked

/-!
# The first masked map

The masked forms of the operations behind `0F`. Comparisons have a mask register as destination.
-/

namespace RealMode.MaskedOperation

/-- Rows `10` to `17`. -/
def firstMoves : List MaskedOperation :=
  (packed 0x10 "Vmovu").map unary ++ (packed 0x11 "Vmovu").map storing ++
  (singles 0x10 "Vmov").map (·.inMemory.unary) ++ (singles 0x10 "Vmov").map inRegister ++
  (singles 0x11 "Vmov").map (·.inMemory.storing.merging) ++ (singles 0x11 "Vmov").map inRegister ++
  [(narrow .plain 0x12 "Vmovhlps").inRegister.only128.unmasked,
   (narrow .plain 0x12 "Vmovlps").inMemory.only128.unmasked,
   (wide .p66 0x12 "Vmovlpd").inMemory.only128.unmasked, (narrow .pF3 0x12 "Vmovsldup").unary,
   (wide .pF2 0x12 "Vmovddup").unary] ++
  (packed 0x13 "Vmovl").map (·.inMemory.only128.unmasked.unary) ++
  (packed 0x14 "Vunpckl" ++ packed 0x15 "Vunpckh").map repeating ++
  [(narrow .plain 0x16 "Vmovlhps").inRegister.only128.unmasked,
   (narrow .plain 0x16 "Vmovhps").inMemory.only128.unmasked,
   (wide .p66 0x16 "Vmovhpd").inMemory.only128.unmasked, (narrow .pF3 0x16 "Vmovshdup").unary] ++
  (packed 0x17 "Vmovh").map (·.inMemory.only128.unmasked.unary)

/-- Rows `28` to `2F`. -/
def firstConversions : List MaskedOperation :=
  (packed 0x28 "Vmova").map unary ++ (packed 0x29 "Vmova").map storing ++
  [(same .pF3 0x2a "Vcvtsi2ss").scalar.unmasked.rounding,
   (same .pF2 0x2a "Vcvtsi2sd").scalar.unmasked.rounding] ++
  (packed 0x2b "Vmovnt").map (·.inMemory.unmasked.unary) ++
  [same .pF3 0x2c "Vcvttss2si", same .pF2 0x2c "Vcvttsd2si", same .pF3 0x2d "Vcvtss2si",
   same .pF2 0x2d "Vcvtsd2si", narrow .plain 0x2e "Vucomiss", wide .p66 0x2e "Vucomisd",
   narrow .plain 0x2f "Vcomiss", wide .p66 0x2f "Vcomisd"].map (·.scalar.unmasked.unary.rounding)

/-- Arithmetic on packed and single numbers. -/
def arithmetic (opcode : Nat) (stem : String) : List MaskedOperation :=
  (packed opcode stem).map (·.repeating.rounding) ++ (singles opcode stem).map rounding

/-- Rows `51` to `5F`. -/
def firstFloating : List MaskedOperation :=
  (packed 0x51 "Vsqrt").map (·.unary.repeating.rounding) ++ (singles 0x51 "Vsqrt").map rounding ++
  (packed 0x54 "Vand" ++ packed 0x55 "Vandn" ++ packed 0x56 "Vor" ++ packed 0x57 "Vxor").map
    repeating ++
  arithmetic 0x58 "Vadd" ++ arithmetic 0x59 "Vmul" ++
  [narrow .plain 0x5a "Vcvtps2pd", wide .p66 0x5a "Vcvtpd2ps",
   either .plain 0x5b "Vcvtdq2ps" "Vcvtqq2ps", narrow .p66 0x5b "Vcvtps2dq",
   narrow .pF3 0x5b "Vcvttps2dq"].map (·.unary.repeating.rounding) ++
  [(narrow .pF3 0x5a "Vcvtss2sd").scalar.rounding, (wide .pF2 0x5a "Vcvtsd2ss").scalar.rounding] ++
  arithmetic 0x5c "Vsub" ++ arithmetic 0x5d "Vmin" ++ arithmetic 0x5e "Vdiv" ++
    arithmetic 0x5f "Vmax"

/-- Rows `60` to `6F`. -/
def firstPacking : List MaskedOperation :=
  run .p66 0x60 ["Vpunpcklbw", "Vpunpcklwd"] ++ [(narrow .p66 0x62 "Vpunpckldq").repeating] ++
  run .p66 0x63 ["Vpacksswb"] ++ (run .p66 0x64 ["Vpcmpgtb", "Vpcmpgtw"]).map merging ++
  [(narrow .p66 0x66 "Vpcmpgtd").repeating.merging] ++
  run .p66 0x67 ["Vpackuswb", "Vpunpckhbw", "Vpunpckhwd"] ++
  [(narrow .p66 0x6a "Vpunpckhdq").repeating, (narrow .p66 0x6b "Vpackssdw").repeating,
   (wide .p66 0x6c "Vpunpcklqdq").repeating, (wide .p66 0x6d "Vpunpckhqdq").repeating,
   (same .p66 0x6e "Vmovd").only128.unmasked.unary] ++
  [either .p66 0x6f "Vmovdqa32" "Vmovdqa64", either .pF3 0x6f "Vmovdqu32" "Vmovdqu64",
   either .pF2 0x6f "Vmovdqu8" "Vmovdqu16"].map unary

/-- Rows `70` to `76`. In the shift groups the further register takes the result. -/
def firstShifts : List MaskedOperation :=
  [(narrow .p66 0x70 "Vpshufd").unary.repeating, (same .pF3 0x70 "Vpshufhw").unary,
   (same .pF2 0x70 "Vpshuflw").unary, (same .p66 0x71 "Vpsrlw").inGroup 2,
   (same .p66 0x71 "Vpsraw").inGroup 4, (same .p66 0x71 "Vpsllw").inGroup 6,
   ((integers 0x72 "Vpror").inGroup 0).repeating, ((integers 0x72 "Vprol").inGroup 1).repeating,
   ((narrow .p66 0x72 "Vpsrld").inGroup 2).repeating, ((integers 0x72 "Vpsra").inGroup 4).repeating,
   ((narrow .p66 0x72 "Vpslld").inGroup 6).repeating,
   ((wide .p66 0x73 "Vpsrlq").inGroup 2).repeating,
   ((same .p66 0x73 "Vpsrldq").inGroup 3).unmasked, ((wide .p66 0x73 "Vpsllq").inGroup 6).repeating,
   ((same .p66 0x73 "Vpslldq").inGroup 7).unmasked].map (·.withBytes 1) ++
  (run .p66 0x74 ["Vpcmpeqb", "Vpcmpeqw"]).map merging ++
  [(narrow .p66 0x76 "Vpcmpeqd").repeating.merging]

/-- Rows `78` to `7F`. -/
def firstUnsigned : List MaskedOperation :=
  [either .plain 0x78 "Vcvttps2udq" "Vcvttpd2udq", either .p66 0x78 "Vcvttps2uqq" "Vcvttpd2uqq",
   either .plain 0x79 "Vcvtps2udq" "Vcvtpd2udq", either .p66 0x79 "Vcvtps2uqq" "Vcvtpd2uqq",
   either .p66 0x7a "Vcvttps2qq" "Vcvttpd2qq", either .pF3 0x7a "Vcvtudq2pd" "Vcvtuqq2pd",
   either .pF2 0x7a "Vcvtudq2ps" "Vcvtuqq2ps", either .p66 0x7b "Vcvtps2qq" "Vcvtpd2qq"].map
    (·.unary.repeating.rounding) ++
  [same .pF3 0x78 "Vcvttss2usi", same .pF2 0x78 "Vcvttsd2usi", same .pF3 0x79 "Vcvtss2usi",
   same .pF2 0x79 "Vcvtsd2usi"].map (·.scalar.unmasked.unary.rounding) ++
  [(same .pF3 0x7b "Vcvtusi2ss").scalar.unmasked.rounding,
   (same .pF2 0x7b "Vcvtusi2sd").scalar.unmasked.rounding,
   (same .p66 0x7e "Vmovd").only128.unmasked.unary,
   (wide .pF3 0x7e "Vmovq").only128.unmasked.unary] ++
  [either .p66 0x7f "Vmovdqa32" "Vmovdqa64", either .pF3 0x7f "Vmovdqu32" "Vmovdqu64",
   either .pF2 0x7f "Vmovdqu8" "Vmovdqu16"].map storing

/-- Rows `C2` to `E7`. -/
def firstComparisons : List MaskedOperation :=
  ((packed 0xc2 "Vcmp").map repeating ++ singles 0xc2 "Vcmp").map
    (·.rounding.merging.withBytes 1) ++
  [(same .p66 0xc4 "Vpinsrw").only128.unmasked.withBytes 1,
   (same .p66 0xc5 "Vpextrw").inRegister.only128.unmasked.unary.withBytes 1] ++
  (packed 0xc6 "Vshuf").map (·.repeating.withBytes 1) ++
  [same .p66 0xd1 "Vpsrlw", narrow .p66 0xd2 "Vpsrld", wide .p66 0xd3 "Vpsrlq",
   (wide .p66 0xd4 "Vpaddq").repeating, same .p66 0xd5 "Vpmullw",
   (wide .p66 0xd6 "Vmovq").only128.unmasked.unary] ++
  run .p66 0xd8 ["Vpsubusb", "Vpsubusw", "Vpminub"] ++ [(integers 0xdb "Vpand").repeating] ++
  run .p66 0xdc ["Vpaddusb", "Vpaddusw", "Vpmaxub"] ++ [(integers 0xdf "Vpandn").repeating] ++
  run .p66 0xe0 ["Vpavgb", "Vpsraw"] ++ [integers 0xe2 "Vpsra"] ++
  run .p66 0xe3 ["Vpavgw", "Vpmulhuw", "Vpmulhw"] ++
  [wide .p66 0xe6 "Vcvttpd2dq", either .pF3 0xe6 "Vcvtdq2pd" "Vcvtqq2pd",
   wide .pF2 0xe6 "Vcvtpd2dq"].map (·.unary.repeating.rounding) ++
  [(narrow .p66 0xe7 "Vmovntdq").inMemory.unmasked.unary]

/-- Rows `E8` to `FE`. -/
def firstSums : List MaskedOperation :=
  run .p66 0xe8 ["Vpsubsb", "Vpsubsw", "Vpminsw"] ++ [(integers 0xeb "Vpor").repeating] ++
  run .p66 0xec ["Vpaddsb", "Vpaddsw", "Vpmaxsw"] ++
  [(integers 0xef "Vpxor").repeating, same .p66 0xf1 "Vpsllw", narrow .p66 0xf2 "Vpslld",
   wide .p66 0xf3 "Vpsllq", (wide .p66 0xf4 "Vpmuludq").repeating, same .p66 0xf5 "Vpmaddwd",
   (same .p66 0xf6 "Vpsadbw").unmasked, same .p66 0xf8 "Vpsubb", same .p66 0xf9 "Vpsubw",
   (narrow .p66 0xfa "Vpsubd").repeating, (wide .p66 0xfb "Vpsubq").repeating,
   same .p66 0xfc "Vpaddb", same .p66 0xfd "Vpaddw", (narrow .p66 0xfe "Vpaddd").repeating]

def firstMap : List MaskedOperation :=
  firstMoves ++ firstConversions ++ firstFloating ++ firstPacking ++ firstShifts ++
    firstUnsigned ++ firstComparisons ++ firstSums

end RealMode.MaskedOperation
