import RealMode.Instruction.Named

/-!
# Named operations behind `0F`

System instructions, prefetching, and the packed operations on 64-bit and 128-bit registers. Rows of
one opcode stand together, and reserved no-operations come after the rows that they leave room for.
-/

namespace RealMode.NamedOperation

/-- Operations without an operand byte. -/
def bare : List NamedOperation :=
  [unselected 0x05 "Syscall", unselected 0x06 "Clts", unselected 0x07 "Sysret",
   unselected 0x08 "Invd",
   withF3 0x09 "Wbnoinvd", unselected 0x09 "Wbinvd", unselected 0x0b "Ud2", unselected 0x0e "Femms",
   unselected 0x30 "Wrmsr", unselected 0x31 "Rdtsc", unselected 0x32 "Rdmsr",
   unselected 0x33 "Rdpmc",
   unselected 0x34 "Sysenter", unselected 0x35 "Sysexit", plain 0x37 "Getsec", plain 0x77 "Emms",
   unselected 0xa2 "Cpuid", unselected 0xaa "Rsm"]

/-- The name of an operation that is its opcode alone. -/
def bareName? (opcode : UInt8) (m : Mandatory) : Option String :=
  (bare.find? fun e => e.opcode == opcode.toNat && e.selectors.contains m).map (·.mnemonic)

private def reservedNop (opcode : Nat) : NamedOperation := unselected opcode "Reservednop"

/-- The groups of descriptor tables, virtual machines and protected memory. -/
def systemGroups : List NamedOperation :=
  [(unselected 0x00 "Sldt").inGroup 0, (unselected 0x00 "Str").inGroup 1,
   (unselected 0x00 "Lldt").inGroup 2, (unselected 0x00 "Ltr").inGroup 3,
   (unselected 0x00 "Verr").inGroup 4, (unselected 0x00 "Verw").inGroup 5,
   ((unselected 0x01 "Sgdt").inGroup 0).inMemory, ((unselected 0x01 "Sidt").inGroup 1).inMemory,
   ((unselected 0x01 "Lgdt").inGroup 2).inMemory, ((unselected 0x01 "Lidt").inGroup 3).inMemory,
   (unselected 0x01 "Smsw").inGroup 4, ((withF3 0x01 "Rstorssp").inGroup 5).inMemory,
   (unselected 0x01 "Lmsw").inGroup 6, ((unselected 0x01 "Invlpg").inGroup 7).inMemory,
   (plain 0x01 "Enclv").exactly 0 0, (plain 0x01 "Vmcall").exactly 0 1,
   (plain 0x01 "Vmlaunch").exactly 0 2, (plain 0x01 "Vmresume").exactly 0 3,
   (plain 0x01 "Vmxoff").exactly 0 4, (plain 0x01 "Pconfig").exactly 0 5,
   (plain 0x01 "Wrmsrns").exactly 0 6,
   (plain 0x01 "Monitor").exactly 1 0, (plain 0x01 "Mwait").exactly 1 1,
   (plain 0x01 "Clac").exactly 1 2, (plain 0x01 "Stac").exactly 1 3,
   (with66 0x01 "Tdcall").exactly 1 4, (plain 0x01 "Encls").exactly 1 7,
   (plain 0x01 "Xgetbv").exactly 2 0, (plain 0x01 "Xsetbv").exactly 2 1,
   (plain 0x01 "Vmfunc").exactly 2 4, (plain 0x01 "Xend").exactly 2 5,
   (plain 0x01 "Xtest").exactly 2 6, (plain 0x01 "Enclu").exactly 2 7,
   (unselected 0x01 "Vmrun").exactly 3 0, (both 0x01 "Vmmcall").exactly 3 1,
   (withF3 0x01 "Vmgexit").exactly 3 1, (withF2 0x01 "Vmgexit").exactly 3 1,
   (unselected 0x01 "Vmload").exactly 3 2, (unselected 0x01 "Vmsave").exactly 3 3,
   (unselected 0x01 "Stgi").exactly 3 4, (unselected 0x01 "Clgi").exactly 3 5,
   (unselected 0x01 "Skinit").exactly 3 6, (unselected 0x01 "Invlpga").exactly 3 7,
   (plain 0x01 "Serialize").exactly 5 0, (withF3 0x01 "Setssbsy").exactly 5 0,
   (withF2 0x01 "Xsusldtrk").exactly 5 0, (withF2 0x01 "Xresldtrk").exactly 5 1,
   (withF3 0x01 "Saveprevssp").exactly 5 2, (plain 0x01 "Rdpkru").exactly 5 6,
   (plain 0x01 "Wrpkru").exactly 5 7, (unselected 0x01 "Rdtscp").exactly 7 1,
   (plain 0x01 "Monitorx").exactly 7 2, (withF3 0x01 "Mcommit").exactly 7 2,
   (plain 0x01 "Mwaitx").exactly 7 3, (unselected 0x01 "Clzero").exactly 7 4,
   (plain 0x01 "Rdpru").exactly 7 5, (plain 0x01 "Invlpgb").exactly 7 6,
   (plain 0x01 "Tlbsync").exactly 7 7, (withF2 0x01 "Pvalidate").exactly 7 7]

/-- Hints to the cache and no-operations. -/
def hints : List NamedOperation :=
  [((unselected 0x0d "Prefetch").inGroup 0).inMemory,
   ((unselected 0x0d "Prefetchw").inGroup 1).inMemory,
   ((unselected 0x0d "Prefetchwt1").inGroup 2).inMemory, reservedNop 0x0d,
   ((unselected 0x18 "Prefetchnta").inGroup 0).inMemory,
   ((unselected 0x18 "Prefetcht0").inGroup 1).inMemory,
   ((unselected 0x18 "Prefetcht1").inGroup 2).inMemory,
   ((unselected 0x18 "Prefetcht2").inGroup 3).inMemory,
   ((unselected 0x18 "Prefetchit1").inGroup 6).inMemory,
   ((unselected 0x18 "Prefetchit0").inGroup 7).inMemory, reservedNop 0x18, reservedNop 0x19,
   reservedNop 0x1a, reservedNop 0x1b, ((plain 0x1c "Cldemote").inGroup 0).inMemory,
   reservedNop 0x1c, reservedNop 0x1d, ((withF3 0x1e "Rdsspd").inGroup 1).inRegister,
   (withF3 0x1e "Endbr64").exactly 7 2, (withF3 0x1e "Endbr32").exactly 7 3, reservedNop 0x1e]

/-- Rows `10` to `2F`. -/
def moves : List NamedOperation :=
  each 0x10 "Movups" "Movupd" "Movss" "Movsd" ++ each 0x11 "Movups" "Movupd" "Movss" "Movsd" ++
  [(plain 0x12 "Movhlps").inRegister, plain 0x12 "Movlps", (with66 0x12 "Movlpd").inMemory,
   withF3 0x12 "Movsldup", withF2 0x12 "Movddup",
   (plain 0x13 "Movlps").inMemory, (with66 0x13 "Movlpd").inMemory] ++
  packed 0x14 "Unpckl" ++ packed 0x15 "Unpckh" ++
  [(plain 0x16 "Movlhps").inRegister, plain 0x16 "Movhps", (with66 0x16 "Movhpd").inMemory,
   withF3 0x16 "Movshdup", (plain 0x17 "Movhps").inMemory, (with66 0x17 "Movhpd").inMemory] ++
  packed 0x28 "Mova" ++ packed 0x29 "Mova" ++
  each 0x2a "Cvtpi2ps" "Cvtpi2pd" "Cvtsi2ss" "Cvtsi2sd" ++
  (packedScalar 0x2b "Movnt").map inMemory ++
  each 0x2c "Cvttps2pi" "Cvttpd2pi" "Cvttss2si" "Cvttsd2si" ++
  each 0x2d "Cvtps2pi" "Cvtpd2pi" "Cvtss2si" "Cvtsd2si" ++
  [plain 0x2e "Ucomiss", with66 0x2e "Ucomisd", plain 0x2f "Comiss", with66 0x2f "Comisd"]

/-- Rows `50` to `5F`. -/
def floating : List NamedOperation :=
  (packed 0x50 "Movmsk").map inRegister ++ packedScalar 0x51 "Sqrt" ++
  [plain 0x52 "Rsqrtps", withF3 0x52 "Rsqrtss", plain 0x53 "Rcpps", withF3 0x53 "Rcpss"] ++
  packed 0x54 "And" ++ packed 0x55 "Andn" ++ packed 0x56 "Or" ++ packed 0x57 "Xor" ++
  packedScalar 0x58 "Add" ++ packedScalar 0x59 "Mul" ++
  each 0x5a "Cvtps2pd" "Cvtpd2ps" "Cvtss2sd" "Cvtsd2ss" ++
  [plain 0x5b "Cvtdq2ps", with66 0x5b "Cvtps2dq", withF3 0x5b "Cvttps2dq"] ++
  packedScalar 0x5c "Sub" ++ packedScalar 0x5d "Min" ++ packedScalar 0x5e "Div" ++
  packedScalar 0x5f "Max"

/-- Rows `60` to `7F`. -/
def integers : List NamedOperation :=
  run both 0x60
    ["Punpcklbw", "Punpcklwd", "Punpckldq", "Packsswb", "Pcmpgtb", "Pcmpgtw", "Pcmpgtd", "Packuswb",
     "Punpckhbw", "Punpckhwd", "Punpckhdq", "Packssdw"] ++
  [with66 0x6c "Punpcklqdq", with66 0x6d "Punpckhqdq", both 0x6e "Movd", plain 0x6f "Movq",
   with66 0x6f "Movdqa", withF3 0x6f "Movdqu"] ++
  (each 0x70 "Pshufw" "Pshufd" "Pshufhw" "Pshuflw").map (·.withBytes 1) ++
  [(both 0x71 "Psrlw").inGroup 2, (both 0x71 "Psraw").inGroup 4, (both 0x71 "Psllw").inGroup 6,
   (both 0x72 "Psrld").inGroup 2, (both 0x72 "Psrad").inGroup 4, (both 0x72 "Pslld").inGroup 6,
   (both 0x73 "Psrlq").inGroup 2, (with66 0x73 "Psrldq").inGroup 3, (both 0x73 "Psllq").inGroup 6,
   (with66 0x73 "Pslldq").inGroup 7].map (fun e => e.inRegister.withBytes 1) ++
  run both 0x74 ["Pcmpeqb", "Pcmpeqw", "Pcmpeqd"] ++
  [plain 0x78 "Vmread", (((with66 0x78 "Extrq").inGroup 0).inRegister).withBytes 2,
   ((withF2 0x78 "Insertq").inRegister).withBytes 2, plain 0x79 "Vmwrite",
   (with66 0x79 "Extrq").inRegister, (withF2 0x79 "Insertq").inRegister,
   with66 0x7c "Haddpd", withF2 0x7c "Haddps", with66 0x7d "Hsubpd", withF2 0x7d "Hsubps",
   both 0x7e "Movd", withF3 0x7e "Movq", plain 0x7f "Movq", with66 0x7f "Movdqa",
   withF3 0x7f "Movdqu"]

/-- Rows `A6` to `C7`. -/
def groups : List NamedOperation :=
  [(withF3 0xa6 "Montmul").exactly 0 0, (withF3 0xa6 "Xsha1").exactly 1 0,
   (withF3 0xa6 "Xsha256").exactly 2 0, (withF3 0xa6 "Xsha512_alt").exactly 3 0,
   (withF3 0xa6 "Xsha512").exactly 4 0, (withF3 0xa6 "Ccs_hash").exactly 5 0,
   (withF3 0xa6 "Undoc").exactly 6 0, (withF3 0xa6 "Undoc").exactly 7 0,
   (unselected 0xa7 "Xstore").exactly 0 0, (withF3 0xa7 "Xcryptecb").exactly 1 0,
   (withF3 0xa7 "Xcryptcbc").exactly 2 0, (withF3 0xa7 "Xcryptctr").exactly 3 0,
   (withF3 0xa7 "Xcryptcfb").exactly 4 0, (withF3 0xa7 "Xcryptofb").exactly 5 0,
   (withF3 0xa7 "Ccs_encrypt").exactly 6 0, (withF3 0xa7 "Xstore_alt").exactly 7 0] ++
  ["Fxsave", "Fxrstor", "Ldmxcsr", "Stmxcsr", "Xsave", "Xrstor", "Xsaveopt", "Clflush"].zipIdx.map
    (fun (name, reg) => ((plain 0xae name).inGroup reg).inMemory) ++
  [((plain 0xae "Lfence").inGroup 5).inRegister, ((plain 0xae "Mfence").inGroup 6).inRegister,
   ((plain 0xae "Sfence").inGroup 7).inRegister, ((with66 0xae "Clwb").inGroup 6).inMemory,
   ((with66 0xae "Clflushopt").inGroup 7).inMemory, ((with66 0xae "Tpause").inGroup 6).inRegister,
   (withF3 0xae "Ptwrite").inGroup 4, ((withF3 0xae "Incsspd").inGroup 5).inRegister,
   ((withF3 0xae "Clrssbsy").inGroup 6).inMemory, ((withF3 0xae "Umonitor").inGroup 6).inRegister,
   ((withF2 0xae "Umwait").inGroup 6).inRegister,
   withF3 0xb8 "Popcnt", withF3 0xbc "Tzcnt", unselected 0xbc "Bsf", withF3 0xbd "Lzcnt",
   unselected 0xbd "Bsr"] ++
  (packedScalar 0xc2 "Cmp").map (·.withBytes 1) ++
  [(plain 0xc3 "Movnti").inMemory, (both 0xc4 "Pinsrw").withBytes 1,
   ((both 0xc5 "Pextrw").inRegister).withBytes 1] ++
  (packed 0xc6 "Shuf").map (·.withBytes 1) ++
  [((unselected 0xc7 "Cmpxchg8b").inGroup 1).inMemory, ((plain 0xc7 "Xrstors").inGroup 3).inMemory,
   ((plain 0xc7 "Xsavec").inGroup 4).inMemory, ((plain 0xc7 "Xsaves").inGroup 5).inMemory,
   ((plain 0xc7 "Vmptrld").inGroup 6).inMemory, ((with66 0xc7 "Vmclear").inGroup 6).inMemory,
   ((withF3 0xc7 "Vmxon").inGroup 6).inMemory, ((plain 0xc7 "Vmptrst").inGroup 7).inMemory,
   ((both 0xc7 "Rdrand").inGroup 6).inRegister, ((both 0xc7 "Rdseed").inGroup 7).inRegister,
   ((withF3 0xc7 "Rdpid").inGroup 7).inRegister]

/-- Rows `D0` to `FF`. -/
def saturating : List NamedOperation :=
  [with66 0xd0 "Addsubpd", withF2 0xd0 "Addsubps"] ++
  run both 0xd1 ["Psrlw", "Psrld", "Psrlq", "Paddq", "Pmullw"] ++
  [with66 0xd6 "Movq", (withF3 0xd6 "Movq2dq").inRegister, (withF2 0xd6 "Movdq2q").inRegister,
   (both 0xd7 "Pmovmskb").inRegister] ++
  run both 0xd8
    ["Psubusb", "Psubusw", "Pminub", "Pand", "Paddusb", "Paddusw", "Pmaxub", "Pandn",
     "Pavgb", "Psraw", "Psrad", "Pavgw", "Pmulhuw", "Pmulhw"] ++
  [with66 0xe6 "Cvttpd2dq", withF3 0xe6 "Cvtdq2pd", withF2 0xe6 "Cvtpd2dq",
   (plain 0xe7 "Movntq").inMemory, (with66 0xe7 "Movntdq").inMemory] ++
  run both 0xe8 ["Psubsb", "Psubsw", "Pminsw", "Por", "Paddsb", "Paddsw", "Pmaxsw", "Pxor"] ++
  [(withF2 0xf0 "Lddqu").inMemory] ++
  run both 0xf1 ["Psllw", "Pslld", "Psllq", "Pmuludq", "Pmaddwd", "Psadbw"] ++
  [(plain 0xf7 "Maskmovq").inRegister, (with66 0xf7 "Maskmovdqu").inRegister] ++
  run both 0xf8 ["Psubb", "Psubw", "Psubd", "Psubq", "Paddb", "Paddw", "Paddd"] ++
  [unselected 0xff "Ud0"]

/-- The rows behind `0F` that have an operand byte. -/
def twoByte : List NamedOperation :=
  systemGroups ++ hints ++ moves ++ floating ++ integers ++ groups ++ saturating

end RealMode.NamedOperation
