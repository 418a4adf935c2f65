import RealMode.Instruction.Coprocessor
import RealMode.Instruction.Named.ThreeByte
import RealMode.Instruction.Named.TwoByte
import RealMode.Instruction.VectorMap

/-!
# The opcode maps

The one-byte map and the map behind `0F`, in rows of eight. Row and column of an opcode are its
quotient and remainder by eight, and the operation groups are selected by the register field of the
operand byte in the same way.
-/

namespace RealMode.OpcodeMap

open ByteReader

private def ofOption {α : Type} : Option α → ByteReader α
  | some a => .done a
  | none => .fail

/-- The eight operations of the arithmetic block and of the groups `80` to `83`. -/
def binary (code : Nat) (dst src : Operand) : Operation :=
  match code with
  | 0 => .arith .add dst src
  | 1 => .logic .or dst src
  | 2 => .arith .adc dst src
  | 3 => .arith .sbb dst src
  | 4 => .logic .and dst src
  | 5 => .arith .sub dst src
  | 6 => .logic .xor dst src
  | _ => .arith .cmp dst src

def shift (code : Nat) (dst count : Operand) : Operation :=
  match code with
  | 0 => .shift .rol dst count
  | 1 => .shift .ror dst count
  | 2 => .shift .rcl dst count
  | 3 => .shift .rcr dst count
  | 4 => .shift .shl dst count
  | 5 => .shift .shr dst count
  | 6 => .sal dst count
  | _ => .shift .sar dst count

def condition : Nat → Condition
  | 0 => .overflow
  | 1 => .noOverflow
  | 2 => .below
  | 3 => .aboveEqual
  | 4 => .equal
  | 5 => .notEqual
  | 6 => .belowEqual
  | 7 => .above
  | 8 => .sign
  | 9 => .noSign
  | 10 => .parity
  | 11 => .noParity
  | 12 => .less
  | 13 => .greaterEqual
  | 14 => .lessEqual
  | _ => .greater

/-- Place and register of size `size`, in this order. -/
private def placeRegister (p : Prefixes) (size : OperandSize)
    (f : Operand → Operand → Operation) : ByteReader Operation := do
  let m ← ModRM.read p
  return f (m.operand size) (m.register size)

private def registerPlace (p : Prefixes) (size : OperandSize)
    (f : Operand → Operand → Operation) : ByteReader Operation := do
  let m ← ModRM.read p
  return f (m.register size) (m.operand size)

private def accumulator (size : OperandSize) : Operand := .general size 0

private def pushSegment (s : SegmentRegister) : ByteReader Operation :=
  return .push (.register (.segment s))

private def popSegment (s : SegmentRegister) : ByteReader Operation :=
  return .pop (.register (.segment s))

/-- The mnemonic of an operation that is not executed, by operand size. -/
private def sized (p : Prefixes) (narrow wide : String) : ByteReader Operation :=
  return .unsupported (if p.wideOperand then wide else narrow)

/-- An operation that only the narrow operand size executes. -/
private def narrowOnly (p : Prefixes) (op : Operation) (wide : String) : ByteReader Operation :=
  return if p.wideOperand then .unsupported wide else op

private def string (p : Prefixes) (op : StringOp) (width : Width) : Operation :=
  .string op width p.dataSegment p.again

private def stringWord (p : Prefixes) (op : StringOp) : ByteReader Operation :=
  narrowOnly p (string p op .word) (op.name ++ "d")

private def arithmeticBlock (p : Prefixes) (code column : Nat) : ByteReader Operation :=
  match column with
  | 0 => placeRegister p .byte (binary code)
  | 1 => placeRegister p p.fullSize (binary code)
  | 2 => registerPlace p .byte (binary code)
  | 3 => registerPlace p p.fullSize (binary code)
  | 4 => do
    let v ← immediateByte
    return binary code (accumulator .byte) v
  | _ => do
    let v ← immediate p
    return binary code (accumulator p.fullSize) v

private def row60 (p : Prefixes) : Nat → ByteReader Operation
  | 0 => narrowOnly p .pusha "Pushad"
  | 1 => narrowOnly p .popa "Popad"
  | 2 => do
    let b ← byte
    if b.toNat < 0xc0 then
      let _ ← ModRM.ofByte p b
      return .unsupported "Bound"
    else
      VectorMap.masked p b
  | 3 => do
    let _ ← ModRM.read p
    return .unsupported "Arpl"
  | _ => .fail

private def row68 (p : Prefixes) : Nat → ByteReader Operation
  | 0 => do
    let v ← immediate p
    return .push v
  | 1 => do
    let m ← ModRM.read p
    let v ← immediate p
    return .imulTo (m.register p.fullSize) (m.operand p.fullSize) v
  | 2 => do
    let v ← immediateSigned p
    return .push v
  | 3 => do
    let m ← ModRM.read p
    let v ← immediateSigned p
    return .imulTo (m.register p.fullSize) (m.operand p.fullSize) v
  | 4 => return .unsupported "Insb"
  | 5 => sized p "Insw" "Insd"
  | 6 => return .unsupported "Outsb"
  | _ => sized p "Outsw" "Outsd"

private def shortJump (code : Nat) : ByteReader Operation := do
  let d ← signedByte
  return .jump (condition code) d

private def groupImmediate (p : Prefixes) (size : OperandSize) (constant : ByteReader Operand) :
    ByteReader Operation := do
  let m ← ModRM.read p
  let v ← constant
  return binary m.reg (m.operand size) v

private def row80 (p : Prefixes) : Nat → ByteReader Operation
  | 0 => groupImmediate p .byte immediateByte
  | 1 => groupImmediate p p.fullSize (immediate p)
  | 2 => groupImmediate p .byte immediateByte
  | 3 => groupImmediate p p.fullSize (immediateSigned p)
  | 4 => placeRegister p .byte (.logic .test)
  | 5 => placeRegister p p.fullSize (.logic .test)
  | 6 => placeRegister p .byte .xchg
  | _ => placeRegister p p.fullSize .xchg

private def row88 (p : Prefixes) : Nat → ByteReader Operation
  | 0 => placeRegister p .byte .mov
  | 1 => placeRegister p p.fullSize .mov
  | 2 => registerPlace p .byte .mov
  | 3 => registerPlace p p.fullSize .mov
  | 4 => do
    let m ← ModRM.read p
    let s ← ofOption (SegmentRegister.ofCode? m.reg)
    return .mov (m.operandAs p.fullSize .word) (.register (.segment s))
  | 5 => do
    let m ← ModRM.read p
    let a ← ofOption (m.memory? .word)
    return .lea (m.register p.fullSize) a
  | 6 => do
    let m ← ModRM.read p
    let s ← ofOption (SegmentRegister.ofCode? m.reg)
    if s = .cs then .fail
    else return .mov (.register (.segment s)) (m.operandAs p.fullSize .word)
  | _ => do
    let b ← byte
    if b.toNat % 32 < 8 then
      let m ← ModRM.ofByte p b
      if m.reg = 0 then return .pop (m.operand p.fullSize) else .fail
    else
      VectorMap.three p b

private def row90 (p : Prefixes) : Nat → ByteReader Operation
  | 0 => return if p.again = some .whileEqual then .unsupported "Pause" else .nop
  | code => return .xchg (.general p.fullSize code) (accumulator p.fullSize)

private def farPointer : ByteReader FarPtr := do
  let offset ← word
  let segment ← word
  return ⟨segment, offset⟩

/-- A far target in the instruction. A 32-bit offset is refused when the instruction runs. -/
private def farTarget (p : Prefixes) : ByteReader Target := do
  if p.wideOperand then
    let offset ← dword
    let _ ← word
    return .near (.wide offset)
  else
    let address ← farPointer
    return .far address

private def row98 (p : Prefixes) : Nat → ByteReader Operation
  | 0 => narrowOnly p .cbw "Cwde"
  | 1 => narrowOnly p .cwd "Cdq"
  | 2 => do
    let t ← farTarget p
    return .call t
  | 3 => return .wait
  | 4 => narrowOnly p .pushf "Pushfd"
  | 5 => narrowOnly p .popf "Popfd"
  | 6 => return .sahf
  | _ => return .lahf

private def absolute (p : Prefixes) (size : OperandSize) : ByteReader Operand := do
  let d ← lowWordOf p.wideAddress
  return .memory ⟨p.dataSegment, none, none, d, size.memorySize⟩

private def rowA0 (p : Prefixes) : Nat → ByteReader Operation
  | 0 => do
    let m ← absolute p .byte
    return .mov (accumulator .byte) m
  | 1 => do
    let m ← absolute p p.fullSize
    return .mov (accumulator p.fullSize) m
  | 2 => do
    let m ← absolute p .byte
    return .mov m (accumulator .byte)
  | 3 => do
    let m ← absolute p p.fullSize
    return .mov m (accumulator p.fullSize)
  | 4 => return string p .movs .byte
  | 5 => stringWord p .movs
  | 6 => return string p .cmps .byte
  | _ => stringWord p .cmps

private def rowA8 (p : Prefixes) : Nat → ByteReader Operation
  | 0 => do
    let v ← immediateByte
    return .logic .test (accumulator .byte) v
  | 1 => do
    let v ← immediate p
    return .logic .test (accumulator p.fullSize) v
  | 2 => return string p .stos .byte
  | 3 => stringWord p .stos
  | 4 => return string p .lods .byte
  | 5 => stringWord p .lods
  | 6 => return string p .scas .byte
  | _ => stringWord p .scas

private def groupShift (p : Prefixes) (size : OperandSize) (count : ByteReader Operand) :
    ByteReader Operation := do
  let m ← ModRM.read p
  let v ← count
  return shift m.reg (m.operand size) v

/-- Between registers the opcode opens a vector prefix. -/
private def loadPointer (p : Prefixes) (s : PointerSegment)
    (vector : Prefixes → UInt8 → ByteReader Operation) : ByteReader Operation := do
  let b ← byte
  if b.toNat < 0xc0 then
    let m ← ModRM.ofByte p b
    let a ← ofOption (m.memory? (if p.wideOperand then .farDword else .farWord))
    return .loadPointer s (m.register p.fullSize) a
  else
    vector p b

/-- The last row of the group holds the operation `transactional`. -/
private def moveConstant (p : Prefixes) (size : OperandSize) (constant : ByteReader Operand)
    (transactional : String) : ByteReader Operation := do
  let m ← ModRM.read p
  if m.reg = 0 then
    let v ← constant
    return .mov (m.operand size) v
  else if m.reg = 7 && m.place = .register 0 then
    let _ ← constant
    return .unsupported transactional
  else
    .fail

private def rowC0 (p : Prefixes) : Nat → ByteReader Operation
  | 0 => groupShift p .byte immediateByte
  | 1 => groupShift p p.fullSize immediateByte
  | 2 => do
    let n ← word
    return .ret n
  | 3 => return .ret 0
  | 4 => loadPointer p .es VectorMap.three
  | 5 => loadPointer p .ds VectorMap.two
  | 6 => moveConstant p .byte immediateByte "Xabort"
  | _ => moveConstant p p.fullSize (immediate p) "Xbegin"

private def rowC8 (p : Prefixes) : Nat → ByteReader Operation
  | 0 => do
    let size ← word
    let level ← byte
    return .enter size level
  | 1 => return .leave
  | 2 => do
    let n ← word
    return .retf n
  | 3 => return .retf 0
  | 4 => return .int3
  | 5 => do
    let n ← byte
    return .int n
  | 6 => return .into
  | _ => narrowOnly p .iret "Iretd"

private def one : ByteReader Operand := return .immediate .byte 1

private def countRegister : ByteReader Operand := return .register (.byte .cl)

private def rowD0 (p : Prefixes) : Nat → ByteReader Operation
  | 0 => groupShift p .byte one
  | 1 => groupShift p p.fullSize one
  | 2 => groupShift p .byte countRegister
  | 3 => groupShift p p.fullSize countRegister
  | 4 => do
    let _ ← byte
    return .unsupported "Aam"
  | 5 => do
    let _ ← byte
    return .unsupported "Aad"
  | 6 => return .unsupported "Salc"
  | _ => return .xlat p.dataSegment

private def escape (p : Prefixes) (code : Nat) : ByteReader Operation := do
  let m ← ModRM.read p
  let name ← ofOption <|
    match m.place with
    | .register rm => Coprocessor.registerName? code m.reg rm
    | .memory .. => Coprocessor.memoryName? code m.reg
  return .unsupported name

private def loop (c : LoopCondition) : ByteReader Operation := do
  let d ← signedByte
  return .loop c d

private def rowE0 (p : Prefixes) : Nat → ByteReader Operation
  | 0 => loop .notEqual
  | 1 => loop .equal
  | 2 => loop .always
  | 3 => do
    let d ← signedByte
    return if p.wideAddress then .unsupported "Jecxz" else .jcxz d
  | 4 => do
    let port ← immediateByte
    return .input (accumulator .byte) port
  | 5 => do
    let port ← immediateByte
    return .input (accumulator p.fullSize) port
  | 6 => do
    let port ← immediateByte
    return .output port (accumulator .byte)
  | _ => do
    let port ← immediateByte
    return .output port (accumulator p.fullSize)

/-- A near target of full size. A 32-bit target is refused when the instruction runs. -/
private def nearTarget (p : Prefixes) : ByteReader Target := do
  if p.wideOperand then
    let d ← dword
    return .near (.wide d)
  else
    let d ← word
    return .relative d

private def shortTarget (p : Prefixes) : ByteReader Target := do
  let d ← signedByte
  return if p.wideOperand then .near (.wide d.toUInt32) else .relative d

private def portRegister : Operand := .register (.word .dx)

private def rowE8 (p : Prefixes) : Nat → ByteReader Operation
  | 0 => do
    let t ← nearTarget p
    return .call t
  | 1 => do
    let t ← nearTarget p
    return .jmp t
  | 2 => do
    let t ← farTarget p
    return .jmp t
  | 3 => do
    let t ← shortTarget p
    return .jmp t
  | 4 => return .input (accumulator .byte) portRegister
  | 5 => return .input (accumulator p.fullSize) portRegister
  | 6 => return .output portRegister (accumulator .byte)
  | _ => return .output portRegister (accumulator p.fullSize)

private def groupUnary (p : Prefixes) (size : OperandSize) (constant : ByteReader Operand) :
    ByteReader Operation := do
  let m ← ModRM.read p
  let o := m.operand size
  match m.reg with
  | 0 => do
    let v ← constant
    return .logic .test o v
  | 1 => do
    let v ← constant
    return .logic .test o v
  | 2 => return .not o
  | 3 => return .unary .neg o
  | 4 => return .mul o
  | 5 => return .imul o
  | 6 => return .div o
  | _ => return .idiv o

private def rowF0 (p : Prefixes) : Nat → ByteReader Operation
  | 1 => return .unsupported "Int1"
  | 4 => return .hlt
  | 5 => return .cmc
  | 6 => groupUnary p .byte immediateByte
  | 7 => groupUnary p p.fullSize (immediate p)
  | _ => .fail

/-- A far target in memory; a 16:32 pointer is used as the offset in its first word. -/
private def indirectFar (p : Prefixes) (m : ModRM) : ByteReader Target := do
  if p.wideOperand then
    let a ← ofOption (m.memory? .farDword)
    return .near (.memory a)
  else
    let a ← ofOption (m.memory? .farWord)
    return .farThrough a

private def groupIndirect (p : Prefixes) : ByteReader Operation := do
  let m ← ModRM.read p
  let o := m.operand p.fullSize
  match m.reg with
  | 0 => return .unary .inc o
  | 1 => return .unary .dec o
  | 2 => return .call (.near o)
  | 3 => do
    let t ← indirectFar p m
    return .call t
  | 4 => return .jmp (.near o)
  | 5 => do
    let t ← indirectFar p m
    return .jmp t
  | 6 => return .push o
  | _ => .fail

private def rowF8 (p : Prefixes) : Nat → ByteReader Operation
  | 0 => return .clc
  | 1 => return .stc
  | 2 => return .cli
  | 3 => return .sti
  | 4 => return .cld
  | 5 => return .std
  | 6 => do
    let m ← ModRM.read p
    match m.reg with
    | 0 => return .unary .inc (m.operand .byte)
    | 1 => return .unary .dec (m.operand .byte)
    | _ => .fail
  | _ => groupIndirect p

/-- A named operation with a place operand. -/
private def named (p : Prefixes) (mnemonic : String) : ByteReader Operation := do
  let _ ← ModRM.read p
  return .unsupported mnemonic

/-- A named operation that takes a place operand and a byte. -/
private def namedByte (p : Prefixes) (mnemonic : String) : ByteReader Operation := do
  let _ ← ModRM.read p
  let _ ← byte
  return .unsupported mnemonic

private def namedMemory (p : Prefixes) (mnemonic : String) : ByteReader Operation := do
  let m ← ModRM.read p
  if m.isMemory then return .unsupported mnemonic else .fail

/-- A named operation that can be locked when its place is memory. -/
private def namedLockable (p : Prefixes) (mnemonic : String) : ByteReader Operation := do
  let m ← ModRM.read p
  if p.lock && !m.isMemory then .fail else return .unsupported mnemonic

private def nameOf (names : List String) (code : Nat) : Option String :=
  match names[code]? with
  | some "" => none
  | name => name

/-- An operation that no row of `secondary` reads. -/
private def unexecuted (p : Prefixes) (opcode : UInt8) : ByteReader Operation := do
  match NamedOperation.bareName? opcode p.mandatory with
  | some mnemonic => return .unsupported mnemonic
  | none =>
    match opcode.toNat with
    | 0x0f => NamedOperation.readSuffixed p
    | 0x38 => do
      let b ← byte
      NamedOperation.read NamedOperation.secondMap p b
    | 0x3a => do
      let b ← byte
      NamedOperation.read NamedOperation.thirdMap p b
    | _ => NamedOperation.read NamedOperation.twoByte p opcode

/-- Control registers 1 and 5 to 7 do not exist. -/
private def special (control : Bool) (code : Nat) : ByteReader Operand :=
  if control then
    if code = 1 ∨ 5 ≤ code then .fail else return .register (.control code)
  else
    return .register (.debug code)

/-- Moves to and from control and debug registers; the mode field is ignored. -/
private def moveSpecial (control toGeneral : Bool) : ByteReader Operation := do
  let b ← byte
  let general := Operand.general .dword (b.toNat % 8)
  let s ← special control (b.toNat / 8 % 8)
  return if toGeneral then .mov general s else .mov s general

private def nearJump (p : Prefixes) (code : Nat) : ByteReader Operation := do
  let d ← lowWordOf p.wideOperand
  return .jump (condition code) d

private def extendFrom (p : Prefixes) (size : OperandSize) (f : Operand → Operand → Operation) :
    ByteReader Operation := do
  let m ← ModRM.read p
  return f (m.register p.fullSize) (m.operand size)

private def bitGroup (p : Prefixes) : ByteReader Operation := do
  let m ← ModRM.read p
  let _ ← byte
  let name ← ofOption (nameOf ["", "", "", "", "Bt", "Bts", "Btr", "Btc"] m.reg)
  if p.lock && !m.isMemory then .fail else return .unsupported name

/-- The map behind `0F`. -/
def secondary (p : Prefixes) : ByteReader Operation := do
  let b ← byte
  let row := b.toNat / 8
  let column := b.toNat % 8
  match row, column with
  | 0x00, 2 => named p "Lar"
  | 0x00, 3 => named p "Lsl"
  | 0x03, 7 => do
    let m ← ModRM.read p
    return if m.reg = 0 then .nop else .unsupported "Reservednop"
  | 0x04, 0 => moveSpecial true true
  | 0x04, 1 => moveSpecial false true
  | 0x04, 2 => moveSpecial true false
  | 0x04, 3 => moveSpecial false false
  | 0x08, _ => named p ("Cmov" ++ (condition column).letters)
  | 0x09, _ => named p ("Cmov" ++ (condition (column + 8)).letters)
  | 0x10, _ => nearJump p column
  | 0x11, _ => nearJump p (column + 8)
  | 0x12, _ => named p ("Set" ++ (condition column).letters)
  | 0x13, _ => named p ("Set" ++ (condition (column + 8)).letters)
  | 0x14, 0 => pushSegment .fs
  | 0x14, 1 => popSegment .fs
  | 0x14, 3 => named p "Bt"
  | 0x14, 4 => namedByte p "Shld"
  | 0x14, 5 => named p "Shld"
  | 0x15, 0 => pushSegment .gs
  | 0x15, 1 => popSegment .gs
  | 0x15, 3 => namedLockable p "Bts"
  | 0x15, 4 => namedByte p "Shrd"
  | 0x15, 5 => named p "Shrd"
  | 0x15, 7 => do
    let m ← ModRM.read p
    return .imulTo (m.register p.fullSize) (m.register p.fullSize) (m.operand p.fullSize)
  | 0x16, 0 => namedLockable p "Cmpxchg"
  | 0x16, 1 => namedLockable p "Cmpxchg"
  | 0x16, 2 => namedMemory p "Lss"
  | 0x16, 3 => namedLockable p "Btr"
  | 0x16, 4 => namedMemory p "Lfs"
  | 0x16, 5 => namedMemory p "Lgs"
  | 0x16, 6 => extendFrom p .byte .movzx
  | 0x16, _ => extendFrom p .word .movzx
  | 0x17, 1 => named p "Ud1"
  | 0x17, 2 => bitGroup p
  | 0x17, 3 => namedLockable p "Btc"
  | 0x17, 6 => extendFrom p .byte .movsx
  | 0x17, 7 => extendFrom p .word .movsx
  | 0x18, 0 => namedLockable p "Xadd"
  | 0x18, 1 => namedLockable p "Xadd"
  | 0x19, _ => return .unsupported "Bswap"
  | _, _ => unexecuted p b

/-- Columns six and seven of the arithmetic block. -/
private def segmentColumn (p : Prefixes) (row column : Nat) : ByteReader Operation :=
  match row, column with
  | 0, 6 => pushSegment .es
  | 0, _ => popSegment .es
  | 1, 6 => pushSegment .cs
  | 1, _ => secondary p
  | 2, 6 => pushSegment .ss
  | 2, _ => popSegment .ss
  | 3, 6 => pushSegment .ds
  | 3, _ => popSegment .ds
  | 4, 7 => return .unsupported "Daa"
  | 5, 7 => return .unsupported "Das"
  | 6, 7 => return .unsupported "Aaa"
  | 7, 7 => return .unsupported "Aas"
  | _, _ => .fail

/-- The one-byte map. -/
def primary (p : Prefixes) (opcode : UInt8) : ByteReader Operation :=
  let row := opcode.toNat / 8
  let column := opcode.toNat % 8
  if row < 8 then
    if column < 6 then arithmeticBlock p row column else segmentColumn p row column
  else
    match row with
    | 0x08 => return .unary .inc (.general p.fullSize column)
    | 0x09 => return .unary .dec (.general p.fullSize column)
    | 0x0a => return .push (.general p.fullSize column)
    | 0x0b => return .pop (.general p.fullSize column)
    | 0x0c => row60 p column
    | 0x0d => row68 p column
    | 0x0e => shortJump column
    | 0x0f => shortJump (column + 8)
    | 0x10 => row80 p column
    | 0x11 => row88 p column
    | 0x12 => row90 p column
    | 0x13 => row98 p column
    | 0x14 => rowA0 p column
    | 0x15 => rowA8 p column
    | 0x16 => do
      let v ← immediateByte
      return .mov (.general .byte column) v
    | 0x17 => do
      let v ← immediate p
      return .mov (.general p.fullSize column) v
    | 0x18 => rowC0 p column
    | 0x19 => rowC8 p column
    | 0x1a => rowD0 p column
    | 0x1b => escape p column
    | 0x1c => rowE0 p column
    | 0x1d => rowE8 p column
    | 0x1e => rowF0 p column
    | _ => rowF8 p column

end RealMode.OpcodeMap
