import RealMode.Instruction.Named

/-!
# Named operations behind `0F 38` and `0F 3A`

The second map has operands only, the third a byte behind them. With `0F 0F` the byte behind
the operands is the opcode.
-/

namespace RealMode.NamedOperation

/-- The rows behind `0F 38`. -/
def secondMap : List NamedOperation :=
  run both 0x00
    ["Pshufb", "Phaddw", "Phaddd", "Phaddsw", "Pmaddubsw", "Phsubw", "Phsubd", "Phsubsw", "Psignb",
     "Psignw", "Psignd", "Pmulhrsw"] ++
  [with66 0x10 "Pblendvb", with66 0x14 "Blendvps", with66 0x15 "Blendvpd", with66 0x17 "Ptest"] ++
  run both 0x1c ["Pabsb", "Pabsw", "Pabsd"] ++
  run with66 0x20 ["Pmovsxbw", "Pmovsxbd", "Pmovsxbq", "Pmovsxwd", "Pmovsxwq", "Pmovsxdq"] ++
  [with66 0x28 "Pmuldq", with66 0x29 "Pcmpeqq", (with66 0x2a "Movntdqa").inMemory,
   with66 0x2b "Packusdw"] ++
  run with66 0x30 ["Pmovzxbw", "Pmovzxbd", "Pmovzxbq", "Pmovzxwd", "Pmovzxwq", "Pmovzxdq"] ++
  run with66 0x37
    ["Pcmpgtq", "Pminsb", "Pminsd", "Pminuw", "Pminud", "Pmaxsb", "Pmaxsd", "Pmaxuw", "Pmaxud",
     "Pmulld", "Phminposuw"] ++
  (run with66 0x80 ["Invept", "Invvpid", "Invpcid"]).map inMemory ++
  run plain 0xc8
    ["Sha1nexte", "Sha1msg1", "Sha1msg2", "Sha256rnds2", "Sha256msg1", "Sha256msg2"] ++
  [with66 0xcf "Gf2p8mulb", ((withF3 0xd8 "Aesencwide128kl").inGroup 0).inMemory,
   ((withF3 0xd8 "Aesdecwide128kl").inGroup 1).inMemory,
   ((withF3 0xd8 "Aesencwide256kl").inGroup 2).inMemory,
   ((withF3 0xd8 "Aesdecwide256kl").inGroup 3).inMemory] ++
  run with66 0xdb ["Aesimc", "Aesenc", "Aesenclast", "Aesdec", "Aesdeclast"] ++
  [(withF3 0xdc "Loadiwkey").inRegister] ++
  run withF3 0xdc ["Aesenc128kl"] ++
  ((run withF3 0xdd ["Aesdec128kl", "Aesenc256kl", "Aesdec256kl"]).map inMemory) ++
  [(both 0xf0 "Movbe").inMemory, withF2 0xf0 "Crc32", (both 0xf1 "Movbe").inMemory,
   withF2 0xf1 "Crc32", (with66 0xf5 "Wrussd").inMemory, (plain 0xf6 "Wrssd").inMemory,
   with66 0xf6 "Adcx", withF3 0xf6 "Adox", (with66 0xf8 "Movdir64b").inMemory,
   (withF3 0xf8 "Enqcmds").inMemory, (withF2 0xf8 "Enqcmd").inMemory,
   (plain 0xf9 "Movdiri").inMemory,
   (withF3 0xfa "Encodekey128").inRegister, (withF3 0xfb "Encodekey256").inRegister,
   (plain 0xfc "Aadd").inMemory, (with66 0xfc "Aand").inMemory, (withF3 0xfc "Axor").inMemory,
   (withF2 0xfc "Aor").inMemory]

/-- The rows behind `0F 3A`. -/
def thirdMap : List NamedOperation :=
  (run with66 0x08
    ["Roundps", "Roundpd", "Roundss", "Roundsd", "Blendps", "Blendpd", "Pblendw"] ++
  [both 0x0f "Palignr", with66 0x14 "Pextrb", with66 0x15 "Pextrw", with66 0x16 "Pextrd",
   with66 0x17 "Extractps", with66 0x20 "Pinsrb", with66 0x21 "Insertps", with66 0x22 "Pinsrd",
   with66 0x40 "Dpps", with66 0x41 "Dppd", with66 0x42 "Mpsadbw", with66 0x44 "Pclmulqdq",
   with66 0x60 "Pcmpestrm", with66 0x61 "Pcmpestri", with66 0x62 "Pcmpistrm",
   with66 0x63 "Pcmpistri", plain 0xcc "Sha1rnds4", with66 0xce "Gf2p8affineqb",
   with66 0xcf "Gf2p8affineinvqb", with66 0xdf "Aeskeygenassist",
   (withF3 0xf0 "Hreset").exactly 0 0]).map (·.withBytes 1)

/-- The operations that `0F 0F` selects by the byte behind the operands. -/
def suffixNames : List (Nat × String) :=
  [(0x0c, "Pi2fw"), (0x0d, "Pi2fd"), (0x1c, "Pf2iw"), (0x1d, "Pf2id"), (0x86, "Pfrcpv"),
   (0x87, "Pfrsqrtv"), (0x8a, "Pfnacc"), (0x8e, "Pfpnacc"), (0x90, "Pfcmpge"), (0x94, "Pfmin"),
   (0x96, "Pfrcp"), (0x97, "Pfrsqrt"), (0x9a, "Pfsub"), (0x9e, "Pfadd"), (0xa0, "Pfcmpgt"),
   (0xa4, "Pfmax"), (0xa6, "Pfrcpit1"), (0xa7, "Pfrsqit1"), (0xaa, "Pfsubr"), (0xae, "Pfacc"),
   (0xb0, "Pfcmpeq"), (0xb4, "Pfmul"), (0xb6, "Pfrcpit2"), (0xb7, "Pmulhrw"), (0xbb, "Pswapd"),
   (0xbf, "Pavgusb")]

def readSuffixed (p : Prefixes) : ByteReader Operation := do
  let _ ← ModRM.read p
  let suffix ← ByteReader.byte
  match suffixNames.lookup suffix.toNat with
  | none => .fail
  | some name => return .unsupported name

end RealMode.NamedOperation
