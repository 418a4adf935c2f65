import RealMode.Instruction.ByteReader
import RealMode.Instruction

/-!
# Parts of an encoding

The prefix bytes, the byte that names a register and a place, and the constants that follow.
Sixteen-bit addresses use the eight fixed sums of base and index registers; 32-bit addresses
use any register and an optional index byte. Where the base is BP, EBP or ESP the default
segment is SS, elsewhere DS.
-/

namespace RealMode

/-- What the prefix bytes of an instruction say. Of two segment prefixes, and of two repeat
prefixes, the last one counts. -/
structure Prefixes where
  segment : Option SegmentRegister := none
  wideOperand : Bool := false
  wideAddress : Bool := false
  lock : Bool := false
  again : Option Repeat := none
deriving DecidableEq, Inhabited

/-- Takes one more prefix byte, if it is one. -/
def Prefixes.extend? (p : Prefixes) (b : UInt8) : Option Prefixes :=
  match b.toNat with
  | 0x26 => some { p with segment := some .es }
  | 0x2e => some { p with segment := some .cs }
  | 0x36 => some { p with segment := some .ss }
  | 0x3e => some { p with segment := some .ds }
  | 0x64 => some { p with segment := some .fs }
  | 0x65 => some { p with segment := some .gs }
  | 0x66 => some { p with wideOperand := true }
  | 0x67 => some { p with wideAddress := true }
  | 0xf0 => some { p with lock := true }
  | 0xf2 => some { p with again := some .whileNotEqual }
  | 0xf3 => some { p with again := some .whileEqual }
  | _ => none

/-- What selects among the operations that share an opcode. -/
inductive Mandatory where
  | plain
  | p66
  | pF3
  | pF2
deriving DecidableEq, Inhabited

/-- In the order of the two-bit field that stands for them. -/
def Mandatory.ofCode : Nat → Mandatory
  | 0 => plain
  | 1 => p66
  | 2 => pF3
  | _ => pF2

/-- A repeat prefix wins over `66`. -/
def Prefixes.mandatory (p : Prefixes) : Mandatory :=
  match p.again with
  | some .whileEqual => .pF3
  | some .whileNotEqual => .pF2
  | none => if p.wideOperand then .p66 else .plain

/-- The segment of an operand that DS:SI, or an address without a base, reaches. -/
def Prefixes.dataSegment (p : Prefixes) : SegmentRegister := p.segment.getD .ds

/-- Sizes that an encoding gives an operand. -/
inductive OperandSize where
  | byte
  | word
  | dword
deriving DecidableEq, Inhabited

/-- The size of operands that are not bytes. -/
def Prefixes.fullSize (p : Prefixes) : OperandSize := if p.wideOperand then .dword else .word

def OperandSize.memorySize : OperandSize → MemorySize
  | byte => .byte
  | word => .word
  | dword => .dword

def ByteRegister.ofCode : Nat → ByteRegister
  | 0 => al
  | 1 => cl
  | 2 => dl
  | 3 => bl
  | 4 => ah
  | 5 => ch
  | 6 => dh
  | _ => bh

def WordRegister.ofCode : Nat → WordRegister
  | 0 => ax
  | 1 => cx
  | 2 => dx
  | 3 => bx
  | 4 => sp
  | 5 => bp
  | 6 => si
  | _ => di

def SegmentRegister.ofCode? : Nat → Option SegmentRegister
  | 0 => some es
  | 1 => some cs
  | 2 => some ss
  | 3 => some ds
  | 4 => some fs
  | 5 => some gs
  | _ => none

def Register.ofCode (size : OperandSize) (code : Nat) : Register :=
  match size with
  | .byte => byte (.ofCode code)
  | .word => word (.ofCode code)
  | .dword => dword (.ofCode code)

/-- A general register as an operand. -/
def Operand.general (size : OperandSize) (code : Nat) : Operand := register (.ofCode size code)

def signExtend (b : UInt8) : UInt16 :=
  if b.toNat < 0x80 then b.toUInt16 else UInt16.ofNat (b.toNat + 0xff00)

namespace ByteReader

/-- A word, or a double word cut to its low word. -/
def lowWordOf (wide : Bool) : ByteReader UInt16 := do
  if wide then
    let d ← dword
    return lowWord d
  else
    word

def signedByte : ByteReader UInt16 := do
  let b ← byte
  return signExtend b

def immediateByte : ByteReader Operand := do
  let b ← byte
  return .immediate .byte b.toUInt16

/-- A constant of full size. -/
def immediate (p : Prefixes) : ByteReader Operand := do
  if p.wideOperand then
    let d ← dword
    return .wide d
  else
    let w ← word
    return .immediate .word w

/-- A byte constant extended to full size. -/
def immediateSigned (p : Prefixes) : ByteReader Operand := do
  let w ← signedByte
  return if p.wideOperand then
    .wide (dwordOfWords w (if w.toNat < 0x8000 then 0 else 0xffff))
  else
    .immediate .word w

end ByteReader

/-- What the mode and place fields select. -/
inductive Place where
  | register (code : Nat)
  | memory (segment : SegmentRegister) (base index : Option Register) (displacement : UInt16)
deriving DecidableEq, Inhabited

structure ModRM where
  reg : Nat
  place : Place
  /-- The index field of the second address byte, if there is one. -/
  indexCode : Option Nat := none
deriving DecidableEq, Inhabited

namespace ModRM

private def address (p : Prefixes) (base index : Option Register) (displacement : UInt16) : Place :=
  let onStack :=
    match base with
    | some (.word .bp) => true
    | some (.dword .bp) => true
    | some (.dword .sp) => true
    | _ => false
  .memory (p.segment.getD (if onStack then .ss else .ds)) base index displacement

/-- Base and index of the eight 16-bit sums. -/
def sumOf : Nat → WordRegister × Option WordRegister
  | 0 => (.bx, some .si)
  | 1 => (.bx, some .di)
  | 2 => (.bp, some .si)
  | 3 => (.bp, some .di)
  | 4 => (.si, none)
  | 5 => (.di, none)
  | 6 => (.bp, none)
  | _ => (.bx, none)

private def narrowPlace (p : Prefixes) (mode rm : Nat) : ByteReader Place := do
  let sum := sumOf rm
  let base := some (Register.word sum.1)
  let index := sum.2.map Register.word
  match mode with
  | 0 =>
    if rm = 6 then
      let d ← ByteReader.word
      return address p none none d
    else
      return address p base index 0
  | 1 =>
    let d ← ByteReader.signedByte
    return address p base index d
  | _ =>
    let d ← ByteReader.word
    return address p base index d

private def wideDisplacement (mode : Nat) : ByteReader UInt16 :=
  match mode with
  | 0 => pure 0
  | 1 => ByteReader.signedByte
  | _ => ByteReader.lowWordOf true

private def wideForm (p : Prefixes) (mode reg rm : Nat) : ByteReader ModRM := do
  if rm = 4 then
    let sib ← ByteReader.byte
    let indexCode := sib.toNat / 8 % 8
    let baseCode := sib.toNat % 8
    let index := if indexCode = 4 then none else some (Register.dword (.ofCode indexCode))
    if mode = 0 ∧ baseCode = 5 then
      let d ← ByteReader.lowWordOf true
      return ⟨reg, address p none index d, some indexCode⟩
    else
      let d ← wideDisplacement mode
      return ⟨reg, address p (some (.dword (.ofCode baseCode))) index d, some indexCode⟩
  else if mode = 0 ∧ rm = 5 then
    let d ← ByteReader.lowWordOf true
    return ⟨reg, address p none none d, none⟩
  else
    let d ← wideDisplacement mode
    return ⟨reg, address p (some (.dword (.ofCode rm))) none d, none⟩

/-- Reads what the operand byte `b` asks for. -/
def ofByte (p : Prefixes) (b : UInt8) : ByteReader ModRM := do
  let mode := b.toNat / 64
  let reg := b.toNat / 8 % 8
  let rm := b.toNat % 8
  if mode = 3 then
    return ⟨reg, .register rm, none⟩
  else if p.wideAddress then
    wideForm p mode reg rm
  else
    let place ← narrowPlace p mode rm
    return ⟨reg, place, none⟩

def read (p : Prefixes) : ByteReader ModRM := do
  let b ← ByteReader.byte
  ofByte p b

def isMemory (m : ModRM) : Bool :=
  match m.place with
  | .register _ => false
  | .memory .. => true

/-- The place as an operand; a register has the size `size`, memory the size `inMemory`. -/
def operandAs (m : ModRM) (size : OperandSize) (inMemory : MemorySize) : Operand :=
  match m.place with
  | .register code => .general size code
  | .memory segment base index displacement =>
    .memory ⟨segment, base, index, displacement, inMemory⟩

def operand (m : ModRM) (size : OperandSize) : Operand := m.operandAs size size.memorySize

/-- The register field as an operand. -/
def register (m : ModRM) (size : OperandSize) : Operand := .general size m.reg

def memory? (m : ModRM) (size : MemorySize) : Option MemoryOperand :=
  match m.place with
  | .register _ => none
  | .memory segment base index displacement => some ⟨segment, base, index, displacement, size⟩

end ModRM

end RealMode
