import RealMode.Instruction.Masked

/-!
# The third masked map

The masked forms of the operations behind `0F 3A`. All have a byte behind their operands.
-/

namespace RealMode.MaskedOperation

/-- Rows `00` to `17`. -/
def thirdRounding : List MaskedOperation :=
  [(wide .p66 0x00 "Vpermq").from256.unary.repeating,
   (wide .p66 0x01 "Vpermpd").from256.unary.repeating,
   (integers 0x03 "Valign").repeating, (narrow .p66 0x04 "Vpermilps").unary.repeating,
   (wide .p66 0x05 "Vpermilpd").unary.repeating,
   (narrow .plain 0x08 "Vrndscaleph").unary.repeating.rounding,
   (narrow .p66 0x08 "Vrndscaleps").unary.repeating.rounding,
   (wide .p66 0x09 "Vrndscalepd").unary.repeating.rounding,
   (narrow .plain 0x0a "Vrndscalesh").scalar.rounding,
   (narrow .p66 0x0a "Vrndscaless").scalar.rounding,
   (wide .p66 0x0b "Vrndscalesd").scalar.rounding, same .p66 0x0f "Vpalignr"] ++
  (run .p66 0x14 ["Vpextrb", "Vpextrw", "Vpextrd", "Vextractps"]).map (·.only128.unmasked.unary)

/-- Rows `18` to `3B`: parts of a vector, and comparisons. -/
def thirdParts : List MaskedOperation :=
  [(either .p66 0x18 "Vinsertf32x4" "Vinsertf64x2").from256,
   (either .p66 0x19 "Vextractf32x4" "Vextractf64x2").from256.storing,
   (either .p66 0x1a "Vinsertf32x8" "Vinsertf64x4").only512,
   (either .p66 0x1b "Vextractf32x8" "Vextractf64x4").only512.storing,
   (narrow .p66 0x1d "Vcvtps2ph").storing.rounding, (integers 0x1e "Vpcmpu").merging.repeating,
   (integers 0x1f "Vpcmp").merging.repeating, (same .p66 0x20 "Vpinsrb").only128.unmasked,
   (narrow .p66 0x21 "Vinsertps").only128.unmasked, (same .p66 0x22 "Vpinsrd").only128.unmasked,
   (either .p66 0x23 "Vshuff32x4" "Vshuff64x2").from256.repeating,
   (integers 0x25 "Vpternlog").repeating,
   (narrow .plain 0x26 "Vgetmantph").unary.repeating.rounding,
   (floats 0x26 "Vgetmant").unary.repeating.rounding,
   (narrow .plain 0x27 "Vgetmantsh").scalar.rounding,
   (scalars 0x27 "Vgetmant").rounding, (either .p66 0x38 "Vinserti32x4" "Vinserti64x2").from256,
   (either .p66 0x39 "Vextracti32x4" "Vextracti64x2").from256.storing,
   (either .p66 0x3a "Vinserti32x8" "Vinserti64x4").only512,
   (either .p66 0x3b "Vextracti32x8" "Vextracti64x4").only512.storing]

/-- Rows `3E` to `CF`. -/
def thirdRest : List MaskedOperation :=
  [(either .p66 0x3e "Vpcmpub" "Vpcmpuw").merging, (either .p66 0x3f "Vpcmpb" "Vpcmpw").merging,
   narrow .p66 0x42 "Vdbpsadbw", (either .p66 0x43 "Vshufi32x4" "Vshufi64x2").from256.repeating,
   (same .p66 0x44 "Vpclmulqdq").unmasked, (floats 0x50 "Vrange").repeating.rounding,
   (scalars 0x51 "Vrange").rounding, (floats 0x54 "Vfixupimm").repeating.rounding,
   (scalars 0x55 "Vfixupimm").rounding, (narrow .plain 0x56 "Vreduceph").unary.repeating.rounding,
   (floats 0x56 "Vreduce").unary.repeating.rounding,
   (narrow .plain 0x57 "Vreducesh").scalar.rounding,
   (scalars 0x57 "Vreduce").rounding, (narrow .plain 0x66 "Vfpclassph").unary.merging.repeating,
   (floats 0x66 "Vfpclass").unary.merging.repeating,
   (narrow .plain 0x67 "Vfpclasssh").scalar.unary.merging,
   (scalars 0x67 "Vfpclass").unary.merging, wide .p66 0x70 "Vpshldw",
   (integers 0x71 "Vpshld").repeating, wide .p66 0x72 "Vpshrdw", (integers 0x73 "Vpshrd").repeating,
   (narrow .plain 0xc2 "Vcmpph").merging.repeating.rounding,
   (narrow .pF3 0xc2 "Vcmpsh").scalar.merging.rounding, (wide .p66 0xce "Vgf2p8affineqb").repeating,
   (wide .p66 0xcf "Vgf2p8affineinvqb").repeating]

def thirdMap : List MaskedOperation :=
  (thirdRounding ++ thirdParts ++ thirdRest).map (·.withBytes 1)

end RealMode.MaskedOperation
