import RealMode.Instruction.Vector

/-!
# The first vector map

The vector forms of the operations behind `0F`, and the operations on mask registers.
-/

namespace RealMode.VectorOperation

/-- Rows `10` to `2F`. -/
def firstMoves : List VectorOperation :=
  (packed 0x10 "Vmovu" ++ packed 0x11 "Vmovu").map unary ++
  [(same .pF3 0x10 "Vmovss").unary.inMemory, (same .pF3 0x10 "Vmovss").inRegister,
   (same .pF2 0x10 "Vmovsd").unary.inMemory, (same .pF2 0x10 "Vmovsd").inRegister,
   (same .pF3 0x11 "Vmovss").unary.inMemory, (same .pF3 0x11 "Vmovss").inRegister,
   (same .pF2 0x11 "Vmovsd").unary.inMemory, (same .pF2 0x11 "Vmovsd").inRegister,
   (same .plain 0x12 "Vmovhlps").short.inRegister, (same .plain 0x12 "Vmovlps").short.inMemory,
   (same .p66 0x12 "Vmovlpd").short.inMemory, (same .pF3 0x12 "Vmovsldup").unary,
   (same .pF2 0x12 "Vmovddup").unary, (same .plain 0x13 "Vmovlps").short.inMemory.unary,
   (same .p66 0x13 "Vmovlpd").short.inMemory.unary] ++
  packed 0x14 "Vunpckl" ++ packed 0x15 "Vunpckh" ++
  [(same .plain 0x16 "Vmovlhps").short.inRegister, (same .plain 0x16 "Vmovhps").short.inMemory,
   (same .p66 0x16 "Vmovhpd").short.inMemory, (same .pF3 0x16 "Vmovshdup").unary,
   (same .plain 0x17 "Vmovhps").short.inMemory.unary,
     (same .p66 0x17 "Vmovhpd").short.inMemory.unary] ++
  (packed 0x28 "Vmova" ++ packed 0x29 "Vmova").map unary ++
  [same .pF3 0x2a "Vcvtsi2ss", same .pF2 0x2a "Vcvtsi2sd"] ++
  (packed 0x2b "Vmovnt").map (·.unary.inMemory) ++
  [same .pF3 0x2c "Vcvttss2si", same .pF2 0x2c "Vcvttsd2si", same .pF3 0x2d "Vcvtss2si",
   same .pF2 0x2d "Vcvtsd2si", same .plain 0x2e "Vucomiss", same .p66 0x2e "Vucomisd",
   same .plain 0x2f "Vcomiss", same .p66 0x2f "Vcomisd"].map unary

/-- An operation on mask registers of 16 and 64 bits, and of 8 and 32 bits. -/
def maskForms (opcode : Nat) (stem : String) : List VectorOperation :=
  [either .plain opcode (stem ++ "w") (stem ++ "q"), either .p66 opcode (stem ++ "b") (stem ++ "d")]

/-- Rows `41` to `4B` and `90` to `99`. -/
def masks : List VectorOperation :=
  (maskForms 0x41 "Kand" ++ maskForms 0x42 "Kandn" ++ maskForms 0x45 "Kor" ++
    maskForms 0x46 "Kxnor" ++ maskForms 0x47 "Kxor" ++ maskForms 0x4a "Kadd" ++
    [either .plain 0x4b "Kunpckwd" "Kunpckdq", narrow .p66 0x4b "Kunpckbw"]).map
      (·.long.inRegister) ++
  (maskForms 0x44 "Knot").map (·.short.inRegister.unary) ++
  (maskForms 0x90 "Kmov").map (·.short.unary) ++
  (maskForms 0x91 "Kmov").map (·.short.inMemory.unary) ++
  [narrow .plain 0x92 "Kmovw", narrow .p66 0x92 "Kmovb", same .pF2 0x92 "Kmovd",
   narrow .plain 0x93 "Kmovw", narrow .p66 0x93 "Kmovb", same .pF2 0x93 "Kmovd"].map
    (·.short.inRegister.unary) ++
  (maskForms 0x98 "Kortest" ++ maskForms 0x99 "Ktest").map (·.short.inRegister.unary)

/-- Rows `50` to `5F`. -/
def firstFloating : List VectorOperation :=
  (packed 0x50 "Vmovmsk").map (·.inRegister.unary) ++ (packed 0x51 "Vsqrt").map unary ++
  [same .pF3 0x51 "Vsqrtss", same .pF2 0x51 "Vsqrtsd", (same .plain 0x52 "Vrsqrtps").unary,
   same .pF3 0x52 "Vrsqrtss", (same .plain 0x53 "Vrcpps").unary, same .pF3 0x53 "Vrcpss"] ++
  packed 0x54 "Vand" ++ packed 0x55 "Vandn" ++ packed 0x56 "Vor" ++ packed 0x57 "Vxor" ++
  packedScalar 0x58 "Vadd" ++ packedScalar 0x59 "Vmul" ++
  [(same .plain 0x5a "Vcvtps2pd").unary, (same .p66 0x5a "Vcvtpd2ps").unary,
   same .pF3 0x5a "Vcvtss2sd", same .pF2 0x5a "Vcvtsd2ss", (same .plain 0x5b "Vcvtdq2ps").unary,
   (same .p66 0x5b "Vcvtps2dq").unary, (same .pF3 0x5b "Vcvttps2dq").unary] ++
  packedScalar 0x5c "Vsub" ++ packedScalar 0x5d "Vmin" ++ packedScalar 0x5e "Vdiv" ++
  packedScalar 0x5f "Vmax"

/-- Rows `60` to `7F`. In the shift groups the further register takes the result. -/
def firstIntegers : List VectorOperation :=
  run .p66 0x60
    ["Vpunpcklbw", "Vpunpcklwd", "Vpunpckldq", "Vpacksswb", "Vpcmpgtb", "Vpcmpgtw", "Vpcmpgtd",
     "Vpackuswb", "Vpunpckhbw", "Vpunpckhwd", "Vpunpckhdq", "Vpackssdw", "Vpunpcklqdq",
     "Vpunpckhqdq"] ++
  [(same .p66 0x6e "Vmovd").short.unary, (same .p66 0x6f "Vmovdqa").unary,
   (same .pF3 0x6f "Vmovdqu").unary, ((same .p66 0x70 "Vpshufd").unary).withBytes 1,
   ((same .pF3 0x70 "Vpshufhw").unary).withBytes 1,
     ((same .pF2 0x70 "Vpshuflw").unary).withBytes 1] ++
  [(same .p66 0x71 "Vpsrlw").inGroup 2, (same .p66 0x71 "Vpsraw").inGroup 4,
   (same .p66 0x71 "Vpsllw").inGroup 6, (same .p66 0x72 "Vpsrld").inGroup 2,
   (same .p66 0x72 "Vpsrad").inGroup 4, (same .p66 0x72 "Vpslld").inGroup 6,
   (same .p66 0x73 "Vpsrlq").inGroup 2, (same .p66 0x73 "Vpsrldq").inGroup 3,
   (same .p66 0x73 "Vpsllq").inGroup 6, (same .p66 0x73 "Vpslldq").inGroup 7].map
    (fun e => e.inRegister.withBytes 1) ++
  run .p66 0x74 ["Vpcmpeqb", "Vpcmpeqw", "Vpcmpeqd"] ++
  [same .p66 0x7c "Vhaddpd", same .pF2 0x7c "Vhaddps", same .p66 0x7d "Vhsubpd",
   same .pF2 0x7d "Vhsubps", (same .p66 0x7e "Vmovd").short.unary,
   (same .pF3 0x7e "Vmovq").short.unary,
   (same .p66 0x7f "Vmovdqa").unary, (same .pF3 0x7f "Vmovdqu").unary]

/-- Rows `AE` to `FE`. -/
def firstRest : List VectorOperation :=
  [((same .plain 0xae "Vldmxcsr").inGroup 2).short.inMemory.unary,
   ((same .plain 0xae "Vstmxcsr").inGroup 3).short.inMemory.unary] ++
  (packedScalar 0xc2 "Vcmp").map (·.withBytes 1) ++
  [(same .p66 0xc4 "Vpinsrw").short.withBytes 1,
   (same .p66 0xc5 "Vpextrw").short.inRegister.unary.withBytes 1] ++
  (packed 0xc6 "Vshuf").map (·.withBytes 1) ++
  [same .p66 0xd0 "Vaddsubpd", same .pF2 0xd0 "Vaddsubps"] ++
  run .p66 0xd1 ["Vpsrlw", "Vpsrld", "Vpsrlq", "Vpaddq", "Vpmullw"] ++
  [(same .p66 0xd6 "Vmovq").short.unary, (same .p66 0xd7 "Vpmovmskb").inRegister.unary] ++
  run .p66 0xd8
    ["Vpsubusb", "Vpsubusw", "Vpminub", "Vpand", "Vpaddusb", "Vpaddusw", "Vpmaxub", "Vpandn",
     "Vpavgb", "Vpsraw", "Vpsrad", "Vpavgw", "Vpmulhuw", "Vpmulhw"] ++
  [(same .p66 0xe6 "Vcvttpd2dq").unary, (same .pF3 0xe6 "Vcvtdq2pd").unary,
   (same .pF2 0xe6 "Vcvtpd2dq").unary, (same .p66 0xe7 "Vmovntdq").inMemory.unary] ++
  run .p66 0xe8
    ["Vpsubsb", "Vpsubsw", "Vpminsw", "Vpor", "Vpaddsb", "Vpaddsw", "Vpmaxsw", "Vpxor"] ++
  [(same .pF2 0xf0 "Vlddqu").inMemory.unary] ++
  run .p66 0xf1 ["Vpsllw", "Vpslld", "Vpsllq", "Vpmuludq", "Vpmaddwd", "Vpsadbw"] ++
  [(same .p66 0xf7 "Vmaskmovdqu").short.inRegister.unary] ++
  run .p66 0xf8 ["Vpsubb", "Vpsubw", "Vpsubd", "Vpsubq", "Vpaddb", "Vpaddw", "Vpaddd"]

def firstMap : List VectorOperation :=
  firstMoves ++ masks ++ firstFloating ++ firstIntegers ++ firstRest

end RealMode.VectorOperation
