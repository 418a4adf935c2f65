import RealMode.Instruction.Masked

/-!
# The second masked map

The masked forms of the operations behind `0F 38`: conversions between widths, permutations, fused
multiplication and addition, and loads and stores through a vector of indices.
-/

namespace RealMode.MaskedOperation

/-- Stores to a narrower width, at consecutive opcodes. -/
def narrowing (first : Nat) (names : List String) : List MaskedOperation :=
  names.zipIdx.map fun (name, i) => (narrow .pF3 (first + i) name).storing

/-- Rows `00` to `1F`. -/
def secondPermutations : List MaskedOperation :=
  [same .p66 0x00 "Vpshufb", same .p66 0x04 "Vpmaddubsw", same .p66 0x0b "Vpmulhrsw",
   (narrow .p66 0x0c "Vpermilps").repeating, (wide .p66 0x0d "Vpermilpd").repeating,
   wide .p66 0x10 "Vpsrlvw", wide .p66 0x11 "Vpsravw", wide .p66 0x12 "Vpsllvw",
   (narrow .p66 0x13 "Vcvtph2ps").unary.rounding, (integers 0x14 "Vprorv").repeating,
   (integers 0x15 "Vprolv").repeating, (floats 0x16 "Vperm").from256.repeating] ++
  narrowing 0x10 ["Vpmovuswb", "Vpmovusdb", "Vpmovusqb", "Vpmovusdw", "Vpmovusqw", "Vpmovusqd"] ++
  [(narrow .p66 0x18 "Vbroadcastss").unary,
   (either .p66 0x19 "Vbroadcastf32x2" "Vbroadcastsd").from256.unary,
   (either .p66 0x1a "Vbroadcastf32x4" "Vbroadcastf64x2").from256.inMemory.unary,
   (either .p66 0x1b "Vbroadcastf32x8" "Vbroadcastf64x4").only512.inMemory.unary,
   (same .p66 0x1c "Vpabsb").unary, (same .p66 0x1d "Vpabsw").unary,
   (narrow .p66 0x1e "Vpabsd").unary.repeating, (wide .p66 0x1f "Vpabsq").unary.repeating]

/-- Rows `20` to `2F`. -/
def secondSigned : List MaskedOperation :=
  (run .p66 0x20 ["Vpmovsxbw", "Vpmovsxbd", "Vpmovsxbq", "Vpmovsxwd", "Vpmovsxwq"]).map unary ++
  [(narrow .p66 0x25 "Vpmovsxdq").unary] ++
  narrowing 0x20 ["Vpmovswb", "Vpmovsdb", "Vpmovsqb", "Vpmovsdw", "Vpmovsqw", "Vpmovsqd"] ++
  [(either .p66 0x26 "Vptestmb" "Vptestmw").merging,
   (either .pF3 0x26 "Vptestnmb" "Vptestnmw").merging,
   (integers 0x27 "Vptestm").merging.repeating,
   (either .pF3 0x27 "Vptestnmd" "Vptestnmq").merging.repeating,
   (wide .p66 0x28 "Vpmuldq").repeating,
   (either .pF3 0x28 "Vpmovm2b" "Vpmovm2w").inRegister.unmasked.unary,
   (wide .p66 0x29 "Vpcmpeqq").merging.repeating,
   (either .pF3 0x29 "Vpmovb2m" "Vpmovw2m").inRegister.unmasked.unary,
   (narrow .p66 0x2a "Vmovntdqa").inMemory.unmasked.unary,
   (wide .pF3 0x2a "Vpbroadcastmb2q").inRegister.unmasked.unary,
   (narrow .p66 0x2b "Vpackusdw").repeating, (floats 0x2c "Vscalef").repeating.rounding,
   (scalars 0x2d "Vscalef").rounding]

/-- Rows `30` to `4F`. -/
def secondUnsigned : List MaskedOperation :=
  (run .p66 0x30 ["Vpmovzxbw", "Vpmovzxbd", "Vpmovzxbq", "Vpmovzxwd", "Vpmovzxwq"]).map unary ++
  [(narrow .p66 0x35 "Vpmovzxdq").unary] ++
  narrowing 0x30 ["Vpmovwb", "Vpmovdb", "Vpmovqb", "Vpmovdw", "Vpmovqw", "Vpmovqd"] ++
  [(integers 0x36 "Vperm").from256.repeating, (wide .p66 0x37 "Vpcmpgtq").merging.repeating,
   same .p66 0x38 "Vpminsb", (either .pF3 0x38 "Vpmovm2d" "Vpmovm2q").inRegister.unmasked.unary,
   (integers 0x39 "Vpmins").repeating,
   (either .pF3 0x39 "Vpmovd2m" "Vpmovq2m").inRegister.unmasked.unary, same .p66 0x3a "Vpminuw",
   (narrow .pF3 0x3a "Vpbroadcastmw2d").inRegister.unmasked.unary,
   (integers 0x3b "Vpminu").repeating,
   same .p66 0x3c "Vpmaxsb", (integers 0x3d "Vpmaxs").repeating, same .p66 0x3e "Vpmaxuw",
   (integers 0x3f "Vpmaxu").repeating, (integers 0x40 "Vpmull").repeating,
   (floats 0x42 "Vgetexp").unary.repeating.rounding, (scalars 0x43 "Vgetexp").rounding,
   (integers 0x44 "Vplzcnt").unary.repeating, (integers 0x45 "Vpsrlv").repeating,
   (integers 0x46 "Vpsrav").repeating, (integers 0x47 "Vpsllv").repeating,
   (floats 0x4c "Vrcp14").unary.repeating, scalars 0x4d "Vrcp14",
   (floats 0x4e "Vrsqrt14").unary.repeating, scalars 0x4f "Vrsqrt14"]

/-- Rows `50` to `68`. -/
def secondProducts : List MaskedOperation :=
  [(narrow .p66 0x50 "Vpdpbusd").repeating, (narrow .p66 0x51 "Vpdpbusds").repeating,
   (narrow .p66 0x52 "Vpdpwssd").repeating, (narrow .pF3 0x52 "Vdpbf16ps").repeating,
   (narrow .pF2 0x52 "Vp4dpwssd").only512.inMemory, (narrow .p66 0x53 "Vpdpwssds").repeating,
   (narrow .pF2 0x53 "Vp4dpwssds").only512.inMemory, (either .p66 0x54 "Vpopcntb" "Vpopcntw").unary,
   (integers 0x55 "Vpopcnt").unary.repeating, (narrow .p66 0x58 "Vpbroadcastd").unary,
   (either .p66 0x59 "Vbroadcasti32x2" "Vpbroadcastq").unary,
   (either .p66 0x5a "Vbroadcasti32x4" "Vbroadcasti64x2").from256.inMemory.unary,
   (either .p66 0x5b "Vbroadcasti32x8" "Vbroadcasti64x4").only512.inMemory.unary,
   (either .p66 0x62 "Vpexpandb" "Vpexpandw").unary,
   (either .p66 0x63 "Vpcompressb" "Vpcompressw").storing, (integers 0x64 "Vpblendm").repeating,
   (floats 0x65 "Vblendm").repeating, either .p66 0x66 "Vpblendmb" "Vpblendmw",
   (either .pF2 0x68 "Vp2intersectd" "Vp2intersectq").unmasked.repeating]

/-- Rows `70` to `8F`. -/
def secondSelections : List MaskedOperation :=
  [wide .p66 0x70 "Vpshldvw", (integers 0x71 "Vpshldv").repeating, wide .p66 0x72 "Vpshrdvw",
   (narrow .pF3 0x72 "Vcvtneps2bf16").unary.repeating,
   (narrow .pF2 0x72 "Vcvtne2ps2bf16").repeating,
   (integers 0x73 "Vpshrdv").repeating, either .p66 0x75 "Vpermi2b" "Vpermi2w",
   (integers 0x76 "Vpermi2").repeating, (floats 0x77 "Vpermi2").repeating,
   (narrow .p66 0x78 "Vpbroadcastb").unary, (narrow .p66 0x79 "Vpbroadcastw").unary,
   (narrow .p66 0x7a "Vpbroadcastb").inRegister.unary,
   (narrow .p66 0x7b "Vpbroadcastw").inRegister.unary,
   (same .p66 0x7c "Vpbroadcastd").inRegister.unary,
   either .p66 0x7d "Vpermt2b" "Vpermt2w", (integers 0x7e "Vpermt2").repeating,
   (floats 0x7f "Vpermt2").repeating, (wide .p66 0x83 "Vpmultishiftqb").repeating,
   (floats 0x88 "Vexpand").unary, (integers 0x89 "Vpexpand").unary,
   (floats 0x8a "Vcompress").storing,
   (integers 0x8b "Vpcompress").storing, either .p66 0x8d "Vpermb" "Vpermw",
   (narrow .p66 0x8f "Vpshufbitqmb").merging]

/-- Loads and stores through a vector of indices. -/
def gathers : List MaskedOperation :=
  [either .p66 0x90 "Vpgatherdd" "Vpgatherdq", either .p66 0x91 "Vpgatherqd" "Vpgatherqq",
   either .p66 0x92 "Vgatherdps" "Vgatherdpd", either .p66 0x93 "Vgatherqps" "Vgatherqpd"].map
    (·.through .load) ++
  [either .p66 0xa0 "Vpscatterdd" "Vpscatterdq", either .p66 0xa1 "Vpscatterqd" "Vpscatterqq",
   either .p66 0xa2 "Vscatterdps" "Vscatterdpd", either .p66 0xa3 "Vscatterqps" "Vscatterqpd",
   ((floats 0xc6 "Vgatherpf0d").inGroup 1).only512, ((floats 0xc6 "Vgatherpf1d").inGroup 2).only512,
   ((floats 0xc6 "Vscatterpf0d").inGroup 5).only512,
   ((floats 0xc6 "Vscatterpf1d").inGroup 6).only512,
   ((floats 0xc7 "Vgatherpf0q").inGroup 1).only512, ((floats 0xc7 "Vgatherpf1q").inGroup 2).only512,
   ((floats 0xc7 "Vscatterpf0q").inGroup 5).only512,
   ((floats 0xc7 "Vscatterpf1q").inGroup 6).only512].map (·.through .store)

/-- The ten fused operations whose opcodes begin at `first`; `order` tells which
operands are multiplied. -/
def fusedBlock (first : Nat) (order : String) : List MaskedOperation :=
  [floats first ("Vfmaddsub" ++ order), floats (first + 1) ("Vfmsubadd" ++ order),
   floats (first + 2) ("Vfmadd" ++ order), floats (first + 4) ("Vfmsub" ++ order),
   floats (first + 6) ("Vfnmadd" ++ order), floats (first + 8) ("Vfnmsub" ++ order)].map
    (·.repeating.rounding) ++
  [scalars (first + 3) ("Vfmadd" ++ order), scalars (first + 5) ("Vfmsub" ++ order),
   scalars (first + 7) ("Vfnmadd" ++ order), scalars (first + 9) ("Vfnmsub" ++ order)].map rounding

/-- The fused operations, and the approximations of rows `C4` to `DF`. -/
def secondRest : List MaskedOperation :=
  fusedBlock 0x96 "132" ++ fusedBlock 0xa6 "213" ++ fusedBlock 0xb6 "231" ++
  [(narrow .pF2 0x9a "V4fmaddps").only512.inMemory, (narrow .pF2 0x9b "V4fmaddss").scalar.inMemory,
   (narrow .pF2 0xaa "V4fnmaddps").only512.inMemory,
   (narrow .pF2 0xab "V4fnmaddss").scalar.inMemory,
   (wide .p66 0xb4 "Vpmadd52luq").repeating, (wide .p66 0xb5 "Vpmadd52huq").repeating,
   (integers 0xc4 "Vpconflict").unary.repeating, narrow .p66 0xcf "Vgf2p8mulb"] ++
  [floats 0xc8 "Vexp2", floats 0xca "Vrcp28", floats 0xcc "Vrsqrt28"].map
    (·.only512.unary.repeating.rounding) ++
  [(scalars 0xcb "Vrcp28").rounding, (scalars 0xcd "Vrsqrt28").rounding] ++
  (run .p66 0xdc ["Vaesenc", "Vaesenclast", "Vaesdec", "Vaesdeclast"]).map unmasked

def secondMap : List MaskedOperation :=
  secondPermutations ++ secondSigned ++ secondUnsigned ++ secondProducts ++ secondSelections ++
    gathers ++ secondRest

end RealMode.MaskedOperation
