import RealMode.Instruction.Vector

/-!
# The second and the third vector map

The vector forms of the operations behind `0F 38` and `0F 3A`, fused multiplication and addition,
gathering loads and bit manipulation in general registers. Operations of the third map have a
byte behind their operands.
-/

namespace RealMode.VectorOperation

/-- A fused operation of packed numbers. -/
def fusedPacked (opcode : Nat) (stem : String) : VectorOperation :=
  either .p66 opcode (stem ++ "ps") (stem ++ "pd")

def fusedScalar (opcode : Nat) (stem : String) : VectorOperation :=
  either .p66 opcode (stem ++ "ss") (stem ++ "sd")

/-- The ten fused operations whose opcodes begin at `first`; `order` tells which
operands are multiplied. -/
def fusedBlock (first : Nat) (order : String) : List VectorOperation :=
  [fusedPacked first ("Vfmaddsub" ++ order), fusedPacked (first + 1) ("Vfmsubadd" ++ order),
   fusedPacked (first + 2) ("Vfmadd" ++ order), fusedScalar (first + 3) ("Vfmadd" ++ order),
   fusedPacked (first + 4) ("Vfmsub" ++ order), fusedScalar (first + 5) ("Vfmsub" ++ order),
   fusedPacked (first + 6) ("Vfnmadd" ++ order), fusedScalar (first + 7) ("Vfnmadd" ++ order),
   fusedPacked (first + 8) ("Vfnmsub" ++ order), fusedScalar (first + 9) ("Vfnmsub" ++ order)]

/-- Rows `00` to `4F`. -/
def secondIntegers : List VectorOperation :=
  run .p66 0x00
    ["Vpshufb", "Vphaddw", "Vphaddd", "Vphaddsw", "Vpmaddubsw", "Vphsubw", "Vphsubd", "Vphsubsw",
     "Vpsignb", "Vpsignw", "Vpsignd", "Vpmulhrsw"] ++
  [narrow .p66 0x0c "Vpermilps", narrow .p66 0x0d "Vpermilpd", (narrow .p66 0x0e "Vtestps").unary,
   (narrow .p66 0x0f "Vtestpd").unary, (narrow .p66 0x13 "Vcvtph2ps").unary,
   (narrow .p66 0x16 "Vpermps").long, (same .p66 0x17 "Vptest").unary,
   (narrow .p66 0x18 "Vbroadcastss").unary, (narrow .p66 0x19 "Vbroadcastsd").long.unary,
   (narrow .p66 0x1a "Vbroadcastf128").long.inMemory.unary] ++
  (run .p66 0x1c ["Vpabsb", "Vpabsw", "Vpabsd"]).map unary ++
  (run .p66 0x20
    ["Vpmovsxbw", "Vpmovsxbd", "Vpmovsxbq", "Vpmovsxwd", "Vpmovsxwq", "Vpmovsxdq"]).map unary ++
  [same .p66 0x28 "Vpmuldq", same .p66 0x29 "Vpcmpeqq", (same .p66 0x2a "Vmovntdqa").inMemory.unary,
   same .p66 0x2b "Vpackusdw", (narrow .p66 0x2c "Vmaskmovps").inMemory,
   (narrow .p66 0x2d "Vmaskmovpd").inMemory, (narrow .p66 0x2e "Vmaskmovps").inMemory,
   (narrow .p66 0x2f "Vmaskmovpd").inMemory] ++
  (run .p66 0x30
    ["Vpmovzxbw", "Vpmovzxbd", "Vpmovzxbq", "Vpmovzxwd", "Vpmovzxwq", "Vpmovzxdq"]).map unary ++
  [(narrow .p66 0x36 "Vpermd").long] ++
  run .p66 0x37
    ["Vpcmpgtq", "Vpminsb", "Vpminsd", "Vpminuw", "Vpminud", "Vpmaxsb", "Vpmaxsd", "Vpmaxuw",
     "Vpmaxud", "Vpmulld"] ++
  [(same .p66 0x41 "Vphminposuw").short.unary, either .p66 0x45 "Vpsrlvd" "Vpsrlvq",
   narrow .p66 0x46 "Vpsravd", either .p66 0x47 "Vpsllvd" "Vpsllvq"]

/-- Rows `50` to `8F`. -/
def secondProducts : List VectorOperation :=
  [narrow .plain 0x50 "Vpdpbuud", narrow .p66 0x50 "Vpdpbusd", narrow .pF3 0x50 "Vpdpbsud",
   narrow .pF2 0x50 "Vpdpbssd", narrow .plain 0x51 "Vpdpbuuds", narrow .p66 0x51 "Vpdpbusds",
   narrow .pF3 0x51 "Vpdpbsuds", narrow .pF2 0x51 "Vpdpbssds", narrow .p66 0x52 "Vpdpwssd",
   narrow .p66 0x53 "Vpdpwssds", (narrow .p66 0x58 "Vpbroadcastd").unary,
   (narrow .p66 0x59 "Vpbroadcastq").unary, (narrow .p66 0x5a "Vbroadcasti128").long.inMemory.unary,
   (narrow .pF3 0x72 "Vcvtneps2bf16").unary, (narrow .p66 0x78 "Vpbroadcastb").unary,
   (narrow .p66 0x79 "Vpbroadcastw").unary, (either .p66 0x8c "Vpmaskmovd" "Vpmaskmovq").inMemory,
   (either .p66 0x8e "Vpmaskmovd" "Vpmaskmovq").inMemory,
   (either .p66 0x90 "Vpgatherdd" "Vpgatherdq").gathering,
   (either .p66 0x91 "Vpgatherqd" "Vpgatherqq").gathering,
   (either .p66 0x92 "Vgatherdps" "Vgatherdpd").gathering,
   (either .p66 0x93 "Vgatherqps" "Vgatherqpd").gathering]

/-- Rows `B0` to `FF`, without the fused operations. -/
def secondRest : List VectorOperation :=
  [(narrow .plain 0xb0 "Vcvtneoph2ps").inMemory.unary,
   (narrow .p66 0xb0 "Vcvtneeph2ps").inMemory.unary,
   (narrow .pF3 0xb0 "Vcvtneebf162ps").inMemory.unary,
   (narrow .pF2 0xb0 "Vcvtneobf162ps").inMemory.unary,
   (narrow .p66 0xb1 "Vbcstnesh2ps").inMemory.unary,
   (narrow .pF3 0xb1 "Vbcstnebf162ps").inMemory.unary, wide .p66 0xb4 "Vpmadd52luq",
   wide .p66 0xb5 "Vpmadd52huq", (narrow .pF2 0xcb "Vsha512rnds2").long.inRegister,
   (narrow .pF2 0xcc "Vsha512msg1").long.inRegister.unary,
   (narrow .pF2 0xcd "Vsha512msg2").long.inRegister.unary, narrow .p66 0xcf "Vgf2p8mulb",
   narrow .plain 0xd2 "Vpdpwuud", narrow .p66 0xd2 "Vpdpwusd", narrow .pF3 0xd2 "Vpdpwsud",
   narrow .plain 0xd3 "Vpdpwuuds", narrow .p66 0xd3 "Vpdpwusds", narrow .pF3 0xd3 "Vpdpwsuds",
   (narrow .plain 0xda "Vsm3msg1").short, (narrow .p66 0xda "Vsm3msg2").short,
   narrow .pF3 0xda "Vsm4key4", narrow .pF2 0xda "Vsm4rnds4",
   (same .p66 0xdb "Vaesimc").short.unary] ++
  run .p66 0xdc ["Vaesenc", "Vaesenclast", "Vaesdec", "Vaesdeclast"] ++
  [(same .plain 0xf2 "Andn"), (same .plain 0xf3 "Blsr").inGroup 1,
   (same .plain 0xf3 "Blsmsk").inGroup 2,
   (same .plain 0xf3 "Blsi").inGroup 3, same .plain 0xf5 "Bzhi", same .pF3 0xf5 "Pext",
   same .pF2 0xf5 "Pdep", same .pF2 0xf6 "Mulx", same .plain 0xf7 "Bextr", same .p66 0xf7 "Shlx",
   same .pF3 0xf7 "Sarx", same .pF2 0xf7 "Shrx"].map short

def secondMap : List VectorOperation :=
  secondIntegers ++ secondProducts ++ fusedBlock 0x96 "132" ++ fusedBlock 0xa6 "213" ++
    fusedBlock 0xb6 "231" ++ secondRest

/-- The four-operand fused operations whose opcodes begin at `first`. -/
def fusedFour (first : Nat) (stem : String) : List VectorOperation :=
  run .p66 first [stem ++ "ps", stem ++ "pd", stem ++ "ss", stem ++ "sd"]

def thirdMap : List VectorOperation :=
  ([(wide .p66 0x00 "Vpermq").long.unary, (wide .p66 0x01 "Vpermpd").long.unary,
    narrow .p66 0x02 "Vpblendd", (narrow .p66 0x04 "Vpermilps").unary,
    (narrow .p66 0x05 "Vpermilpd").unary, (narrow .p66 0x06 "Vperm2f128").long,
    (same .p66 0x08 "Vroundps").unary, (same .p66 0x09 "Vroundpd").unary] ++
   run .p66 0x0a ["Vroundss", "Vroundsd", "Vblendps", "Vblendpd", "Vpblendw", "Vpalignr"] ++
   [(same .p66 0x14 "Vpextrb").short.unary, (same .p66 0x15 "Vpextrw").short.unary,
    (same .p66 0x16 "Vpextrd").short.unary, (same .p66 0x17 "Vextractps").short.unary,
    (narrow .p66 0x18 "Vinsertf128").long, (narrow .p66 0x19 "Vextractf128").long.unary,
    (narrow .p66 0x1d "Vcvtps2ph").unary, (same .p66 0x20 "Vpinsrb").short,
    (same .p66 0x21 "Vinsertps").short, (same .p66 0x22 "Vpinsrd").short,
    (either .p66 0x30 "Kshiftrb" "Kshiftrw").short.inRegister.unary,
    (either .p66 0x31 "Kshiftrd" "Kshiftrq").short.inRegister.unary,
    (either .p66 0x32 "Kshiftlb" "Kshiftlw").short.inRegister.unary,
    (either .p66 0x33 "Kshiftld" "Kshiftlq").short.inRegister.unary,
    (narrow .p66 0x38 "Vinserti128").long, (narrow .p66 0x39 "Vextracti128").long.unary,
    same .p66 0x40 "Vdpps", (same .p66 0x41 "Vdppd").short, same .p66 0x42 "Vmpsadbw",
    same .p66 0x44 "Vpclmulqdq", (narrow .p66 0x46 "Vperm2i128").long, same .p66 0x48 "Vpermil2ps",
    same .p66 0x49 "Vpermil2pd", narrow .p66 0x4a "Vblendvps", narrow .p66 0x4b "Vblendvpd",
    narrow .p66 0x4c "Vpblendvb", same .p66 0x5c "Vfmaddsubps", same .p66 0x5d "Vfmaddsubpd",
    same .p66 0x5e "Vfmsubaddps", same .p66 0x5f "Vfmsubaddpd",
    (same .p66 0x60 "Vpcmpestrm").short.unary, (same .p66 0x61 "Vpcmpestri").short.unary,
    (same .p66 0x62 "Vpcmpistrm").short.unary, (same .p66 0x63 "Vpcmpistri").short.unary] ++
   fusedFour 0x68 "Vfmadd" ++ fusedFour 0x6c "Vfmsub" ++ fusedFour 0x78 "Vfnmadd" ++
   fusedFour 0x7c "Vfnmsub" ++
   [wide .p66 0xce "Vgf2p8affineqb", wide .p66 0xcf "Vgf2p8affineinvqb",
    (narrow .p66 0xde "Vsm3rnds2").short, (same .p66 0xdf "Vaeskeygenassist").short.unary,
    (same .pF2 0xf0 "Rorx").short.unary]).map (·.withBytes 1)

end RealMode.VectorOperation
