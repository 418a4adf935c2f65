import RealMode.FarPtr
import RealMode.Flags

/-!
# The register file

Eight general registers, four segment registers, the instruction pointer, the flags and the halt
state. The halves of AX, BX, CX and DX are views of them. `Register` names everything an instruction
encoding can name; `read?` and `write?` answer only for what a 16-bit program has, so FS, GS and the
32-bit, control and debug registers are refused.
-/

namespace RealMode

inductive ByteRegister where
  | al | cl | dl | bl | ah | ch | dh | bh
deriving DecidableEq, Inhabited

inductive WordRegister where
  | ax | cx | dx | bx | sp | bp | si | di
deriving DecidableEq, Inhabited

inductive SegmentRegister where
  | es | cs | ss | ds | fs | gs
deriving DecidableEq, Inhabited

inductive Register where
  | byte (r : ByteRegister)
  | word (r : WordRegister)
  | segment (r : SegmentRegister)
  /-- The 32-bit register that extends `r`. -/
  | dword (r : WordRegister)
  | control (index : Nat)
  | debug (index : Nat)
deriving DecidableEq, Inhabited

/-- The stack segment's ordinal. -/
def stackSegment : UInt16 := 0x0000

structure Registers where
  ax : UInt16 := 0
  bx : UInt16 := 0
  cx : UInt16 := 0
  dx : UInt16 := 0
  si : UInt16 := 0
  di : UInt16 := 0
  bp : UInt16 := 0
  sp : UInt16 := 0
  cs : UInt16 := 0
  ds : UInt16 := 0
  es : UInt16 := 0
  ss : UInt16 := 0
  ip : UInt16 := 0
  flags : Flags := {}
  /-- Not part of the flags. A halted machine executes nothing. -/
  halt : Bool := false
deriving DecidableEq, Inhabited

namespace Registers

/-- Everything zero, SS:SP in the stack segment. -/
def reset (stackPointer : UInt16) : Registers := { ss := stackSegment, sp := stackPointer }

def al (r : Registers) : UInt8 := lowByte r.ax
def ah (r : Registers) : UInt8 := highByte r.ax
def bl (r : Registers) : UInt8 := lowByte r.bx
def bh (r : Registers) : UInt8 := highByte r.bx
def cl (r : Registers) : UInt8 := lowByte r.cx
def ch (r : Registers) : UInt8 := highByte r.cx
def dl (r : Registers) : UInt8 := lowByte r.dx
def dh (r : Registers) : UInt8 := highByte r.dx

def withAl (r : Registers) (v : UInt8) : Registers := { r with ax := wordOfBytes v r.ah }
def withAh (r : Registers) (v : UInt8) : Registers := { r with ax := wordOfBytes r.al v }
def withBl (r : Registers) (v : UInt8) : Registers := { r with bx := wordOfBytes v r.bh }
def withBh (r : Registers) (v : UInt8) : Registers := { r with bx := wordOfBytes r.bl v }
def withCl (r : Registers) (v : UInt8) : Registers := { r with cx := wordOfBytes v r.ch }
def withCh (r : Registers) (v : UInt8) : Registers := { r with cx := wordOfBytes r.cl v }
def withDl (r : Registers) (v : UInt8) : Registers := { r with dx := wordOfBytes v r.dh }
def withDh (r : Registers) (v : UInt8) : Registers := { r with dx := wordOfBytes r.dl v }

def csIp (r : Registers) : FarPtr := ⟨r.cs, r.ip⟩
def dsDx (r : Registers) : FarPtr := ⟨r.ds, r.dx⟩
def ssSp (r : Registers) : FarPtr := ⟨r.ss, r.sp⟩

/-- The double word whose high half is DX. -/
def dxAx (r : Registers) : UInt32 := dwordOfWords r.ax r.dx

def withDxAx (r : Registers) (v : UInt32) : Registers :=
  { r with ax := lowWord v, dx := highWord v }

def withCarry (r : Registers) (b : Bool) : Registers :=
  { r with flags := { r.flags with carry := b } }

/-- Carry and Overflow together, as multiplication sets them. -/
def withCarryOverflow (r : Registers) (b : Bool) : Registers :=
  { r with flags := { r.flags with carry := b, overflow := b } }

def readByte (r : Registers) : ByteRegister → UInt8
  | .al => r.al
  | .ah => r.ah
  | .bl => r.bl
  | .bh => r.bh
  | .cl => r.cl
  | .ch => r.ch
  | .dl => r.dl
  | .dh => r.dh

def writeByte (r : Registers) : ByteRegister → UInt8 → Registers
  | .al, v => r.withAl v
  | .ah, v => r.withAh v
  | .bl, v => r.withBl v
  | .bh, v => r.withBh v
  | .cl, v => r.withCl v
  | .ch, v => r.withCh v
  | .dl, v => r.withDl v
  | .dh, v => r.withDh v

def readWord (r : Registers) : WordRegister → UInt16
  | .ax => r.ax
  | .bx => r.bx
  | .cx => r.cx
  | .dx => r.dx
  | .si => r.si
  | .di => r.di
  | .bp => r.bp
  | .sp => r.sp

def writeWord (r : Registers) : WordRegister → UInt16 → Registers
  | .ax, v => { r with ax := v }
  | .bx, v => { r with bx := v }
  | .cx, v => { r with cx := v }
  | .dx, v => { r with dx := v }
  | .si, v => { r with si := v }
  | .di, v => { r with di := v }
  | .bp, v => { r with bp := v }
  | .sp, v => { r with sp := v }

def readSegment? (r : Registers) : SegmentRegister → Option UInt16
  | .es => some r.es
  | .cs => some r.cs
  | .ss => some r.ss
  | .ds => some r.ds
  | .fs => none
  | .gs => none

def writeSegment? (r : Registers) : SegmentRegister → UInt16 → Option Registers
  | .es, v => some { r with es := v }
  | .cs, v => some { r with cs := v }
  | .ss, v => some { r with ss := v }
  | .ds, v => some { r with ds := v }
  | .fs, _ => none
  | .gs, _ => none

/-- Byte registers are zero-extended. -/
def read? (r : Registers) : Register → Option UInt16
  | .byte b => some (r.readByte b).toUInt16
  | .word w => some (r.readWord w)
  | .segment s => r.readSegment? s
  | .dword _ => none
  | .control _ => none
  | .debug _ => none

/-- Byte registers take the low byte. -/
def write? (r : Registers) : Register → UInt16 → Option Registers
  | .byte b, v => some (r.writeByte b (lowByte v))
  | .word w, v => some (r.writeWord w v)
  | .segment s, v => r.writeSegment? s v
  | .dword _, _ => none
  | .control _, _ => none
  | .debug _, _ => none

end Registers

end RealMode
