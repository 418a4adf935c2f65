import RealMode.Instruction.Vector

/-!
# The maps behind `8F`

Three maps with numbers of their own: operations with a byte behind the operands, operations
without, and operations with a 32-bit constant. None has a selecting prefix.
-/

namespace RealMode.VectorOperation

def extendedBytes : List VectorOperation :=
  ([narrow .plain 0x85 "Vpmacssww", narrow .plain 0x86 "Vpmacsswd", narrow .plain 0x87 "Vpmacssdql",
    narrow .plain 0x8e "Vpmacssdd", narrow .plain 0x8f "Vpmacssdqh", narrow .plain 0x95 "Vpmacsww",
    narrow .plain 0x96 "Vpmacswd", narrow .plain 0x97 "Vpmacsdql", narrow .plain 0x9e "Vpmacsdd",
    narrow .plain 0x9f "Vpmacsdqh", same .plain 0xa3 "Vpperm", narrow .plain 0xa6 "Vpmadcsswd",
    narrow .plain 0xb6 "Vpmadcswd", (narrow .plain 0xc0 "Vprotb").unary,
    (narrow .plain 0xc1 "Vprotw").unary, (narrow .plain 0xc2 "Vprotd").unary,
    (narrow .plain 0xc3 "Vprotq").unary, narrow .plain 0xcc "Vpcomb", narrow .plain 0xcd "Vpcomw",
    narrow .plain 0xce "Vpcomd", narrow .plain 0xcf "Vpcomq", narrow .plain 0xec "Vpcomub",
    narrow .plain 0xed "Vpcomuw", narrow .plain 0xee "Vpcomud",
    narrow .plain 0xef "Vpcomuq"].map short ++
   [same .plain 0xa2 "Vpcmov"]).map (·.withBytes 1)

def extendedPlain : List VectorOperation :=
  [(same .plain 0x01 "Blcfill").inGroup 1, (same .plain 0x01 "Blsfill").inGroup 2,
   (same .plain 0x01 "Blcs").inGroup 3, (same .plain 0x01 "Tzmsk").inGroup 4,
   (same .plain 0x01 "Blcic").inGroup 5, (same .plain 0x01 "Blsic").inGroup 6,
   (same .plain 0x01 "T1mskc").inGroup 7, (same .plain 0x02 "Blcmsk").inGroup 1,
   (same .plain 0x02 "Blci").inGroup 6, ((same .plain 0x12 "Llwpcb").inGroup 0).inRegister.unary,
   ((same .plain 0x12 "Slwpcb").inGroup 1).inRegister.unary].map short ++
  [(narrow .plain 0x80 "Vfrczps").unary, (narrow .plain 0x81 "Vfrczpd").unary,
   (narrow .plain 0x82 "Vfrczss").short.unary, (narrow .plain 0x83 "Vfrczsd").short.unary] ++
  (run .plain 0x90
    ["Vprotb", "Vprotw", "Vprotd", "Vprotq", "Vpshlb", "Vpshlw", "Vpshld", "Vpshlq", "Vpshab",
     "Vpshaw", "Vpshad", "Vpshaq"]).map short ++
  [narrow .plain 0xc1 "Vphaddbw", narrow .plain 0xc2 "Vphaddbd", narrow .plain 0xc3 "Vphaddbq",
   narrow .plain 0xc6 "Vphaddwd", narrow .plain 0xc7 "Vphaddwq", narrow .plain 0xcb "Vphadddq",
   narrow .plain 0xd1 "Vphaddubw", narrow .plain 0xd2 "Vphaddubd", narrow .plain 0xd3 "Vphaddubq",
   narrow .plain 0xd6 "Vphadduwd", narrow .plain 0xd7 "Vphadduwq", narrow .plain 0xdb "Vphaddudq",
   narrow .plain 0xe1 "Vphsubbw", narrow .plain 0xe2 "Vphsubwd", narrow .plain 0xe3 "Vphsubdq"].map
    (·.short.unary)

def extendedWide : List VectorOperation :=
  [(same .plain 0x10 "Bextr").unary, (same .plain 0x12 "Lwpins").inGroup 0,
   (same .plain 0x12 "Lwpval").inGroup 1].map (fun e => e.short.withBytes 4)

/-- The maps by number. -/
def extendedMap : Nat → List VectorOperation
  | 8 => extendedBytes
  | 9 => extendedPlain
  | 10 => extendedWide
  | _ => []

end RealMode.VectorOperation
