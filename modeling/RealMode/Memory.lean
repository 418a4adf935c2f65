import RealMode.Fault
import RealMode.Memory.Segment

/-!
# Memory

A map from ordinals to segments that have nothing to do with each other, the variables that live in
a segment of their own, and the journal. While a journal is open, every write adds what it
overwrote, so that `rollback` can put the bytes back, newest first. A missing segment is noticed
before an access that runs past the end.
-/

namespace RealMode

/-- Named variables are allocated here. -/
def variablesSegment : UInt16 := 0x1000

/-- The first ordinal handed out to programs. -/
def dynamicBase : Nat := 0x2000

/-- One past the last ordinal handed out to programs. Modules live above. -/
def dynamicLimit : Nat := 0xf000

/-- The stack pointer of a fresh stack. -/
def stackTop : UInt16 := 0xfffe

/-- Bytes that a write replaced. -/
structure Overwritten where
  address : FarPtr
  bytes : List UInt8

structure Memory where
  segments : WordMap Segment
  variableTable : List (String × FarPtr)
  /-- Where the next variable goes. -/
  nextVariable : Nat
  /-- Newest first; absent while no journal is open. -/
  journal : Option (List Overwritten)

namespace Memory

/-- Only the stack and the variables segment, both empty. -/
def fresh : Memory where
  segments :=
    (WordMap.empty.insert stackSegment (.ofContents .data [])).insert variablesSegment
      (.ofContents .data [])
  variableTable := []
  nextVariable := 0
  journal := none

instance : Inhabited Memory := ⟨fresh⟩

/-- Forgets every segment and variable. An open journal stays open. -/
def clear (m : Memory) : Memory := { fresh with journal := m.journal }

def hasSegment (m : Memory) (ordinal : UInt16) : Bool := m.segments.contains ordinal

def kind? (m : Memory) (ordinal : UInt16) : Option SegmentKind :=
  (m.segments.get? ordinal).map Segment.kind

/-- Makes a segment, in place of one that may stand there. -/
def addSegment (m : Memory) (ordinal : UInt16) (kind : SegmentKind) (contents : List UInt8) :
    Except Fault Memory :=
  if Segment.size < contents.length then .error (.invalidSegment ordinal .tooLarge)
  else .ok { m with segments := m.segments.insert ordinal (.ofContents kind contents) }

/-- Like `addSegment`, but a segment of another kind is not replaced. -/
def loadSegment (m : Memory) (ordinal : UInt16) (kind : SegmentKind) (contents : List UInt8) :
    Except Fault Memory :=
  match m.kind? ordinal with
  | some old =>
    if old = kind then m.addSegment ordinal kind contents
    else .error (.invalidSegment ordinal .kindChanged)
  | none => m.addSegment ordinal kind contents

/-- The lowest of the `count` ordinals from `first` on that has no segment. -/
def firstFree (m : Memory) (first : Nat) : Nat → Option UInt16
  | 0 => none
  | n + 1 =>
    if m.hasSegment (UInt16.ofNat first) then firstFree m (first + 1) n
    else some (UInt16.ofNat first)

/-- An empty segment at the lowest free ordinal for programs. -/
def allocateSegment (m : Memory) (kind : SegmentKind) : Except Fault (UInt16 × Memory) :=
  match m.firstFree dynamicBase (dynamicLimit - dynamicBase) with
  | none => .error .segmentsExhausted
  | some ordinal =>
    .ok (ordinal, { m with segments := m.segments.insert ordinal (.ofContents kind []) })

/-- The segment of `p`, if `length` bytes fit into it from `p` on. -/
def segmentAt (m : Memory) (p : FarPtr) (length : Nat) : Except Fault Segment :=
  match m.segments.get? p.segment with
  | none => .error (.segmentNotFound p.segment)
  | some s =>
    if Segment.size < p.offset.toNat + length then .error (.offsetOutOfRange p length) else .ok s

def readBytes (m : Memory) (p : FarPtr) (length : Nat) : Except Fault (List UInt8) := do
  let s ← m.segmentAt p length
  return s.slice p.offset.toNat length

def readByte (m : Memory) (p : FarPtr) : Except Fault UInt8 := do
  let s ← m.segmentAt p 1
  return s.byteAt p.offset

def readWord (m : Memory) (p : FarPtr) : Except Fault UInt16 := do
  let s ← m.segmentAt p 2
  return s.wordAt p.offset

def readDword (m : Memory) (p : FarPtr) : Except Fault UInt32 := do
  let s ← m.segmentAt p 4
  return dwordOfWords (s.wordAt p.offset) (s.wordAt (p.offset + 2))

/-- The offset is stored first. -/
def readPointer (m : Memory) (p : FarPtr) : Except Fault FarPtr := do
  let s ← m.segmentAt p 4
  return ⟨s.wordAt (p.offset + 2), s.wordAt p.offset⟩

/-- The bytes up to the byte `stop` or the end of the segment. -/
def readText (m : Memory) (p : FarPtr) (stop : UInt8) : Except Fault (List UInt8) := do
  let s ← m.segmentAt p 0
  return s.textAt stop p.offset.toNat

/-- A text that ends in a zero byte. -/
def readString (m : Memory) (p : FarPtr) : Except Fault (List UInt8) := m.readText p 0

/-- An open journal remembers the bytes that are replaced. -/
def writeBytes (m : Memory) (p : FarPtr) (bytes : List UInt8) : Except Fault Memory := do
  let s ← m.segmentAt p bytes.length
  return { m with
    segments := m.segments.insert p.segment (s.write p.offset bytes)
    journal := m.journal.map fun log => ⟨p, s.slice p.offset.toNat bytes.length⟩ :: log }

def writeByte (m : Memory) (p : FarPtr) (value : UInt8) : Except Fault Memory :=
  m.writeBytes p [value]

def writeWord (m : Memory) (p : FarPtr) (value : UInt16) : Except Fault Memory :=
  m.writeBytes p (bytesOfWord value)

def writeDword (m : Memory) (p : FarPtr) (value : UInt32) : Except Fault Memory :=
  m.writeBytes p (bytesOfDword value)

def writePointer (m : Memory) (p value : FarPtr) : Except Fault Memory :=
  m.writeBytes p value.toBytes

def beginJournal (m : Memory) : Memory := { m with journal := some [] }

/-- Keeps what has been written. -/
def commit (m : Memory) : Memory := { m with journal := none }

/-- Puts bytes back. A segment that no longer exists is passed over. -/
def restore (segments : WordMap Segment) (old : Overwritten) : WordMap Segment :=
  match segments.get? old.address.segment with
  | none => segments
  | some s => segments.insert old.address.segment (s.write old.address.offset old.bytes)

/-- Puts back what has been written since the journal was opened. -/
def rollback (m : Memory) : Memory :=
  { m with segments := (m.journal.getD []).foldl restore m.segments, journal := none }

/-- The instruction at `p`, and the memory that remembers its decoding. -/
def fetch (m : Memory) (p : FarPtr) : Except Fault (Instruction × Memory) :=
  match m.segments.get? p.segment with
  | none => .error (.segmentNotFound p.segment)
  | some s =>
    match s.fetch p.offset with
    | none => .error (.invalidInstruction p)
    | some (i, s) => .ok (i, { m with segments := m.segments.insert p.segment s })

def variableAddress? (m : Memory) (name : String) : Option FarPtr := m.variableTable.lookup name

def variableAddress (m : Memory) (name : String) : Except Fault FarPtr :=
  match m.variableAddress? name with
  | none => .error (.variableNotFound name)
  | some p => .ok p

/-- Reserves `length` bytes under `name`. A name that is known keeps its place. -/
def allocateVariable (m : Memory) (name : String) (length : Nat) :
    Except Fault (FarPtr × Memory) :=
  match m.variableAddress? name with
  | some p => .ok (p, m)
  | none =>
    let available := Segment.size - m.nextVariable
    if available < length ∨ available = 0 then .error (.outOfMemory length available)
    else
      let p : FarPtr := ⟨variablesSegment, UInt16.ofNat m.nextVariable⟩
      .ok (p, { m with
        variableTable := (name, p) :: m.variableTable
        nextVariable := m.nextVariable + length })

end Memory

end RealMode
