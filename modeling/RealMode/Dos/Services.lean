import RealMode.Clock
import RealMode.Dos.FileSystem
import RealMode.Machine

/-!
# DOS services

Interrupt 21 with the function in AH. A failure that DOS knows sets Carry and puts its code into AX;
everything else that goes wrong is a fault. The transfer address and the program's segment prefix
are kept in variables, so that they are forgotten with the memory they lie in.
-/

namespace RealMode

/-- Where a program's output goes. -/
structure Console where
  written : Array UInt8 := #[]
  /-- Why output fails, if it does. -/
  failure : Option String := none

/-- The part of the host that DOS looks after. -/
structure Dos where
  files : Dos.FileSystem
  console : Console := {}
  /-- Interrupt vectors that programs have set. Nothing is called through them. -/
  vectors : WordMap FarPtr := .empty

namespace Dos

open Exec

def vector : UInt8 := 0x21

def exitVector : UInt8 := 0x20

/-- The segment of the program segment prefix is kept in this variable. -/
def prefixVariable : String := "INT21H-PSP-SEGMENT"

/-- The transfer area that a program has until it sets one. -/
def transferVariable : String := "INT21H-DTA"

/-- Where a program has put its transfer area. -/
def transferPointerVariable : String := "INT21H-DTA-POINTER"

def currentDirectory : String := "BBSV6"

/-- Drive C. -/
def currentDrive : UInt8 := 2

def lastDevice : UInt16 := 4

/-- Nothing is asked of the console when there is nothing to write. -/
def writeConsole (bytes : List UInt8) : Exec Dos Unit :=
  onHost fun dos =>
    if bytes.isEmpty then .ok () dos
    else
      match dos.console.failure with
      | some reason => .error (.hostFailure reason) dos
      | none =>
        .ok () { dos with console := { dos.console with written := dos.console.written ++ bytes } }

/-- An operation on files. -/
def onFiles {α : Type} (f : FileSystem → α × FileSystem) : Exec Dos α :=
  onHost fun dos =>
    let (a, files) := f dos.files
    .ok a { dos with files := files }

def succeed : Exec Dos Unit := modifyRegisters (·.withCarry false)

def fail (e : Error) : Exec Dos Unit :=
  modifyRegisters fun r => { r with ax := e.code }.withCarry true

/-- Carry clear and the value in AX, or Carry set and the code in AX. -/
def answer : Except Error UInt16 → Exec Dos Unit
  | .ok value => modifyRegisters fun r => { r with ax := value }.withCarry false
  | .error e => fail e

/-- The transfer area, which is made if there is none yet. -/
def transferArea : Exec Dos FarPtr := do
  let pointer ← reading fun m => .ok (m.variableAddress? transferPointerVariable)
  match pointer with
  | some p => readPointer p
  | none => allocating (·.allocateVariable transferVariable SearchRecord.size)

def setTransferArea (p : FarPtr) : Exec Dos Unit := do
  let pointer ← allocating (·.allocateVariable transferPointerVariable 4)
  changing (·.writePointer pointer p)

/-- The segment of the program segment prefix. Where no program was loaded, an empty one is made. -/
def prefixSegment : Exec Dos UInt16 := do
  let known ← reading fun m => .ok (m.variableAddress? prefixVariable)
  match known with
  | some p => readWord p
  | none =>
    let segment ← allocating (·.allocateSegment .data)
    let p ← allocating (·.allocateVariable prefixVariable 2)
    writeWord p segment
    return segment

/-- The name at DS:DX. -/
def nameArgument : Exec Dos (List UInt8) := do
  let r ← registers
  reading (·.readString r.dsDx)

def displayCharacter : Exec Dos Unit := do
  let r ← registers
  writeConsole [r.dl]
  modifyRegisters (·.withAl r.dl)

/-- The end of a text to display. -/
def dollar : UInt8 := 0x24

/-- Without a dollar sign the text goes on to the end of the segment. -/
def displayText : Exec Dos Unit := do
  let r ← registers
  let text ← reading (·.readText r.dsDx dollar)
  writeConsole text
  modifyRegisters (·.withAl dollar)

def setVector : Exec Dos Unit := do
  let r ← registers
  onHost fun dos => .ok () { dos with vectors := dos.vectors.insert r.al.toUInt16 r.dsDx }

def getVector : Exec Dos Unit := do
  let r ← registers
  let p ← onHost fun dos => .ok ((dos.vectors.get? r.al.toUInt16).getD .null) dos
  setRegisters { r with es := p.segment, bx := p.offset }

def date (now : Moment) : Exec Dos Unit :=
  modifyRegisters fun r =>
    { r with
      cx := UInt16.ofNat (min now.year.toNat 0xffff)
      dx := wordOfBytes (UInt8.ofNat now.day) (UInt8.ofNat now.month) }.withAl
        (UInt8.ofNat now.weekday)

/-- Down to hundredths of a second. -/
def time (now : Moment) : Exec Dos Unit :=
  modifyRegisters fun r =>
    { r with
      cx := wordOfBytes (UInt8.ofNat now.minute) (UInt8.ofNat now.hour)
      dx := wordOfBytes (UInt8.ofNat (now.nanosecond / 10000000)) (UInt8.ofNat now.second) }

def getTransferArea : Exec Dos Unit := do
  let p ← transferArea
  modifyRegisters fun r => { r with es := p.segment, bx := p.offset }

/-- Version 6.22. -/
def version : Exec Dos Unit :=
  modifyRegisters fun r => { r with ax := wordOfBytes 6 22, bx := 0, cx := 0 }

def createFile : Exec Dos Unit := do
  let name ← nameArgument
  let result ← onFiles (·.create name)
  answer result

def openFile : Exec Dos Unit := do
  let name ← nameArgument
  let r ← registers
  match AccessMode.ofCode? r.al with
  | none => fail .invalidFileAccessMode
  | some mode =>
    let result ← onFiles (·.openFile name mode)
    answer result

/-- Closing a device does nothing. -/
def closeFile : Exec Dos Unit := do
  let r ← registers
  if r.bx ≤ lastDevice then answer (.ok 0)
  else
    let result ← onFiles (·.close r.bx)
    answer (result.map fun _ => 0)

/-- Bytes that would run past the end of the segment are refused before the file is touched. -/
def readFile : Exec Dos Unit := do
  let r ← registers
  if Segment.size < r.dx.toNat + r.cx.toNat then fail .insufficientMemory
  else
    let result ← onFiles (·.read r.bx r.cx.toNat)
    match result with
    | .error e => fail e
    | .ok bytes =>
      changing (·.writeBytes r.dsDx bytes)
      answer (.ok (UInt16.ofNat bytes.length))

/-- The handles of the console for output. -/
def consoleHandles : List UInt16 := [1, 2]

def writeFile : Exec Dos Unit := do
  let r ← registers
  let data ← reading (·.readBytes r.dsDx r.cx.toNat)
  if consoleHandles.contains r.bx then
    writeConsole data
    answer (.ok (UInt16.ofNat data.length))
  else
    let result ← onFiles (·.write r.bx data)
    answer result

/-- The offset is CX:DX and the new position DX:AX. -/
def seekFile : Exec Dos Unit := do
  let r ← registers
  match SeekOrigin.ofCode? r.al with
  | none => fail .invalidFunction
  | some origin =>
    let result ← onFiles (·.seek r.bx (dwordOfWords r.dx r.cx) origin)
    match result with
    | .error e => fail e
    | .ok position => modifyRegisters fun r => (r.withDxAx position).withCarry false

/-- Of device control only the information about a handle is there. -/
def deviceInformation : Exec Dos Unit := do
  let r ← registers
  if r.al ≠ 0 then throw (.unsupportedDosFunction r.ah)
  else
    setRegisters { r with dx := if r.bx ≤ lastDevice then 0x80d3 else 0x0002 }
    succeed

/-- To DS:SI, without drive and leading backslash. -/
def getCurrentDirectory : Exec Dos Unit := do
  let r ← registers
  changing (·.writeBytes ⟨r.ds, r.si⟩ (Text.Utf8.encode currentDirectory ++ [0]))
  succeed

/-- Puts the next name of the search into the transfer area. `start` begins the
search or goes on with it. -/
def find (start : Exec Dos Unit) : Exec Dos Unit := do
  let area ← transferArea
  let record ← reading (·.readBytes area SearchRecord.size)
  start
  let result ← onFiles (·.nextFound)
  match result with
  | .error e =>
    changing (·.writeBytes area record)
    fail e
  | .ok (name, size) =>
    match SearchRecord.fill record name size with
    | none => throw (.searchRecordOverflow name.toBytes.length)
    | some record =>
      changing (·.writeBytes area record)
      answer (.ok 0)

def findFirst : Exec Dos Unit :=
  find do
    let pattern ← nameArgument
    onFiles fun files => ((), files.search pattern)

def findNext : Exec Dos Unit := find (return ())

def getPrefix : Exec Dos Unit := do
  let segment ← prefixSegment
  modifyRegisters fun r => { r with bx := segment }

/-- Serves the function in AH. -/
def serve (now : Moment) : Exec Dos Unit := do
  let r ← registers
  match r.ah.toNat with
  | 0x02 => displayCharacter
  | 0x09 => displayText
  | 0x19 => modifyRegisters (·.withAl currentDrive)
  | 0x1a => setTransferArea r.dsDx
  | 0x25 => setVector
  | 0x2a => date now
  | 0x2c => time now
  | 0x2f => getTransferArea
  | 0x30 => version
  | 0x33 => modifyRegisters (·.withDl 0)
  | 0x35 => getVector
  | 0x3c => createFile
  | 0x3d => openFile
  | 0x3e => closeFile
  | 0x3f => readFile
  | 0x40 => writeFile
  | 0x42 => seekFile
  | 0x44 => deviceInformation
  | 0x47 => getCurrentDirectory
  | 0x4a => succeed
  | 0x4c => modifyRegisters fun r => { r with halt := true }
  | 0x4e => findFirst
  | 0x4f => findNext
  | 0x62 => getPrefix
  | _ => throw (.unsupportedDosFunction r.ah)

/-- The old way to end a program. Its exit code is zero. -/
def terminate {σ : Type} : Exec σ Unit :=
  modifyRegisters fun r => { r.withAl 0 with halt := true }

end Dos

end RealMode
